import ContractHarness.Callable
import ContractHarness.Proofs.Abi.Arguments
import ContractHarness.Proofs.Abi.Solid
import ContractHarness.Proofs.Node.Requests
import ContractHarness.Rehearsal.Decoder
import ContractHarness.Rehearsal.Node

/-!
# What a call asks of the node

A call selects a function, checks the arguments and encodes them before it turns to the node. So the
node learns of a call only when a function is meant that admits the arguments, and then it is asked
once. What it is given is the selector of the function and the encoding of the arguments, which is
decoded to the same arguments when the types are solid and the decoder can handle them.
-/

set_option autoImplicit false

namespace ContractHarness.Contract

variable {σ : Type} {c : Contract} {node : Node σ} {decoder : Decoder} {caller : Address}
  {method : String} {args : List AbiValue} {input : Bytes} {e : ErrorChain} {world : σ}
  {requests : List Node.Request}

/-- The function that a call means, which admits the arguments. -/
structure Means (c : Contract) (method : String) (args : List AbiValue) (selected : Method) :
    Prop where
  select : c.interface.select method args.length = .ok selected
  admits : Param.Admit selected.inputs args

/-! ## The input -/

/-- A call is encoded exactly when a function is meant that admits the arguments, as its selector
with the encoded arguments behind it. -/
theorem encodeCall_ok_iff : c.encodeCall method args = .ok input ↔
    ∃ selected, c.Means method args selected ∧
      input = selected.selector.toBytes ++ AbiValue.encodeSequence args := by
  unfold encodeCall
  cases hselect : c.interface.select method args.length with
  | error e =>
    refine iff_of_false nofun ?_
    rintro ⟨selected, ⟨hselected, -⟩, -⟩
    cases hselect.symm.trans hselected
  | ok selected =>
    dsimp only
    cases hencoded : Param.encodeAll selected.inputs args with
    | error e =>
      refine iff_of_false nofun ?_
      rintro ⟨other, ⟨hother, hadmits⟩, -⟩
      obtain rfl := Except.ok.inj (hselect.symm.trans hother)
      cases hencoded.symm.trans (Param.encodeAll_ok_iff.mpr ⟨hadmits, rfl⟩)
    | ok encoded =>
      obtain ⟨hadmits, rfl⟩ := Param.encodeAll_ok_iff.mp hencoded
      rw [Except.ok.injEq]
      constructor
      · rintro rfl
        exact ⟨selected, ⟨hselect, hadmits⟩, rfl⟩
      · rintro ⟨other, ⟨hother, -⟩, rfl⟩
        rw [Except.ok.inj (hselect.symm.trans hother)]

/-- A call that means a function is encoded. -/
theorem Means.encodeCall {selected : Method} (h : c.Means method args selected) :
    c.encodeCall method args = .ok (selected.selector.toBytes ++ AbiValue.encodeSequence args) :=
  encodeCall_ok_iff.mpr ⟨selected, h, rfl⟩

/-- A call that means no function is not encoded. -/
theorem exists_encodeCall_error (h : ¬ ∃ selected, c.Means method args selected) :
    ∃ e, c.encodeCall method args = .error e := by
  cases hencode : c.encodeCall method args with
  | error e => exact ⟨e, rfl⟩
  | ok input =>
    obtain ⟨selected, hmeans, -⟩ := encodeCall_ok_iff.mp hencode
    exact absurd ⟨selected, hmeans⟩ h

/-! ## The course of a call -/

/-- A call that is not encoded is not sent. -/
theorem run_send_of_error (h : c.encodeCall method args = .error e) :
    (c.send node decoder caller method args).run world = ⟨.error e, world, []⟩ := by
  unfold send
  rw [Action.run_bind, Action.run_ofExcept, h]

/-- A call that is not encoded is not asked for. -/
theorem run_view_of_error (h : c.encodeCall method args = .error e) :
    ∃ e', (c.view node decoder method args).run world = ⟨.error e', world, []⟩ := by
  unfold view
  rw [Action.run_bind, Action.run_ofExcept]
  -- a view selects the function by itself before it encodes the call
  cases c.interface.select method args.length with
  | error e' => exact ⟨_, rfl⟩
  | ok selected =>
    simp only [Except.mapError_ok, Action.run_bind, Action.run_ofExcept, h]
    exact ⟨e, rfl⟩

/-- The result of a view that a node answers is what its output is decoded to. -/
theorem result_view_of_ok {selected : Method} {output : Bytes}
    (hselect : c.interface.select method args.length = .ok selected)
    (h : c.encodeCall method args = .ok input)
    (hcall : ((node.call ⟨node.defaultAccount, some c.address, input⟩).run world).result =
      .ok output) :
    ((c.view node decoder method args).run world).result =
      decodeOutput decoder selected method output := by
  unfold view
  simp only [Action.run_bind, Action.run_ofExcept, hselect, Except.mapError_ok, h]
  generalize (node.call ⟨node.defaultAccount, some c.address, input⟩).run world = o at hcall
  obtain ⟨result, world', notices⟩ := o
  cases hcall
  rfl

/-- A call that is encoded is sent to the node once. -/
theorem run_send_recorded (h : c.encodeCall method args = .ok input) :
    (c.send node.recorded decoder caller method args).run (world, requests) =
      ((c.send node decoder caller method args).run world).recorded
        (requests ++ [.execution ⟨caller, some c.address, input⟩]) := by
  unfold send
  simp only [Action.run_bind, Action.run_ofExcept, h, Node.run_execute_recorded]
  rcases (node.execute ⟨caller, some c.address, input⟩).run world with ⟨_ | _, _, _⟩ <;> rfl

/-- A view that is encoded is asked of the node once. -/
theorem run_view_recorded {selected : Method}
    (hselect : c.interface.select method args.length = .ok selected)
    (h : c.encodeCall method args = .ok input) :
    (c.view node.recorded decoder method args).run (world, requests) =
      ((c.view node decoder method args).run world).recorded
        (requests ++ [.call ⟨node.defaultAccount, some c.address, input⟩]) := by
  unfold view
  simp only [Action.run_bind, Action.run_ofExcept, hselect, Except.mapError_ok, h,
    Node.run_call_recorded, Node.defaultAccount_recorded]
  rcases (node.call ⟨node.defaultAccount, some c.address, input⟩).run world with ⟨_ | _, _, _⟩ <;>
    rfl

/-! ## What the node learns -/

/-- What the two ways to call a method ask of a node. -/
structure Asks (c : Contract) (node : Node σ) (decoder : Decoder) (caller : Address)
    (method : String) (args : List AbiValue) (world : σ) (requests : List Node.Request) : Prop where
  /-- When no function is meant, or the one that is meant does not admit the arguments, both fail
  and the node is asked nothing. -/
  refused : (¬ ∃ selected, c.Means method args selected) →
    (∃ e, ((c.on node.recorded decoder).send caller method args).run (world, requests) =
        ⟨.error e, (world, requests), []⟩) ∧
      ∃ e, ((c.on node.recorded decoder).view method args).run (world, requests) =
        ⟨.error e, (world, requests), []⟩
  /-- Otherwise the node is asked once, by a transaction from the caller or by a call from its own
  account. -/
  sends : ∀ selected, c.Means method args selected →
    ((c.on node.recorded decoder).send caller method args).run (world, requests) =
      (((c.on node decoder).send caller method args).run world).recorded (requests ++
        [.execution ⟨caller, some c.address,
          selected.selector.toBytes ++ AbiValue.encodeSequence args⟩])
  views : ∀ selected, c.Means method args selected →
    ((c.on node.recorded decoder).view method args).run (world, requests) =
      (((c.on node decoder).view method args).run world).recorded (requests ++
        [.call ⟨node.defaultAccount, some c.address,
          selected.selector.toBytes ++ AbiValue.encodeSequence args⟩])
  /-- The arguments can be read again from what stands behind the selector, by any process with
  room for the template of their types. -/
  decodes : ∀ selected, c.Means method args selected →
    ∃ types, Param.resolveAll? selected.inputs = some types ∧
      (AbiType.allSolid types = true → AbiType.nestingOfAll types ≤ maximalDepth →
        (AbiValue.encodeSequence args).length < UInt64.size →
          ∀ memory : Memory, AbiType.tokensOfAll types ≤ memory.tokens →
            AbiType.decodeSequence memory types (AbiValue.encodeSequence args) = .ok args)

/-- Through any node and with any decoder, a call of a method asks the node nothing unless a
function is meant that admits the arguments, and then it asks once, for what can be read again. -/
theorem asks (c : Contract) (node : Node σ) (decoder : Decoder) (caller : Address)
    (method : String) (args : List AbiValue) (world : σ) (requests : List Node.Request) :
    Asks c node decoder caller method args world requests where
  refused := by
    intro hnone
    obtain ⟨e, he⟩ := exists_encodeCall_error hnone
    exact ⟨⟨e, run_send_of_error he⟩, run_view_of_error he⟩
  sends := by
    intro selected hmeans
    exact run_send_recorded hmeans.encodeCall
  views := by
    intro selected hmeans
    exact run_view_recorded hmeans.select hmeans.encodeCall
  decodes := by
    intro selected hmeans
    obtain ⟨types, htypes, haccepts⟩ := hmeans.admits.resolved
    refine ⟨types, htypes, fun hsolid hnesting hlength memory hroom => ?_⟩
    exact AbiType.decodeSequence_of_solid hsolid hnesting hroom haccepts hlength

/-! ## Notes with rows -/

section Notes

/-- A note is a text with some content. -/
def noteParam : Param :=
  ⟨"note", "tuple", [⟨"text", "string", [], false⟩, ⟨"content", "bytes", [], false⟩], false⟩

/-- Of two functions of one name, one takes rows of two numbers and a note, and the other one takes
only the note. -/
def notes : Contract where
  name := "Notes"
  address := Address.ofNat 7
  interface := ⟨none, [⟨"keep", [⟨"rows", "uint8[2][]", [], false⟩, noteParam], []⟩,
    ⟨"keep", [noteParam], []⟩], []⟩
  transaction := none

/-- One row and a note. -/
def noteArgs : List AbiValue :=
  [.array [.fixedArray [.uint 8 1, .uint 8 2]], .tuple [.string "häh", .bytes [3]]]

/-- The row and the note mean the first of the two functions. -/
theorem means_notes : notes.Means "keep" noteArgs notes.interface.methods[0] := by
  have hencoded : Param.encodeAll notes.interface.methods[0].inputs noteArgs =
      .ok (AbiValue.encodeSequence noteArgs) := rfl
  exact ⟨rfl, (Param.encodeAll_ok_iff.mp hencoded).1⟩

/-- A call with rows and a note is sent and can be read again, and one with a truth value in place
of the note is not sent. -/
theorem asks_notes :
    (((notes.on Rehearsal.node.recorded Rehearsal.decoder).send Rehearsal.deployer "keep"
        noteArgs).run ({}, [])).world.2 =
        [.execution ⟨Rehearsal.deployer, some (Address.ofNat 7),
          notes.interface.methods[0].selector.toBytes ++ AbiValue.encodeSequence noteArgs⟩] ∧
      AbiType.decodeSequence Rehearsal.memory
        [.array (.fixedArray (.uint 8) 2), .tuple [.string, .bytes]] 
          (AbiValue.encodeSequence noteArgs) = .ok noteArgs ∧
      (((notes.on Rehearsal.node.recorded Rehearsal.decoder).view "keep" [.bool true]).run
        ({}, [])).world.2 = [] := by
  have hnotes := asks notes Rehearsal.node Rehearsal.decoder
    Rehearsal.deployer "keep" noteArgs {} []
  have hother := asks notes Rehearsal.node Rehearsal.decoder
    Rehearsal.deployer "keep" [.bool true] {} []
  refine ⟨?_, ?_, ?_⟩
  · rw [hnotes.sends _ means_notes]
    rfl
  · obtain ⟨types, htypes, hdecodes⟩ := hnotes.decodes _ means_notes
    cases htypes
    exact hdecodes (by decide) (by decide) (by decide +kernel) Rehearsal.memory (by decide)
  · have hnone : ¬ ∃ selected, notes.Means "keep" [.bool true] selected := by
      rintro ⟨selected, hselect, hadmits⟩
      cases hselect
      cases (Param.encodeAll_ok_iff.mpr ⟨hadmits, rfl⟩)
    obtain ⟨-, e, hview⟩ := hother.refused hnone
    rw [hview]

end Notes

/-! ## A template without room -/

section Tables

/-- Tables, each of the longest fixed array. -/
def tableTypes : List AbiType :=
  [.array (.fixedArray (.uint 8) 18446744073709551615)]

/-- The parameter that takes tables. -/
def tableParam : Param :=
  ⟨"tables", "uint8[18446744073709551615][]", [], false⟩

/-- A function that returns the tables that it takes. -/
def tables : Contract where
  name := "Tables"
  address := Address.ofNat 7
  interface := ⟨none, [⟨"echo", [tableParam], [tableParam]⟩], []⟩
  transaction := none

/-- A call without tables is sent, and no process can read again what is sent. When a node returns
it, the output cannot be decoded either. -/
theorem asks_noTables :
    tables.Means "echo" [.array []] tables.interface.methods[0] ∧
      Param.resolveAll? [tableParam] = some tableTypes ∧ AbiType.allSolid tableTypes = true ∧
      AbiType.nestingOfAll tableTypes ≤ maximalDepth ∧
      ∀ decoder,
        (((tables.on Rehearsal.node.recorded decoder).send Rehearsal.deployer "echo"
          [.array []]).run ({}, [])).world.2 =
            [.execution ⟨Rehearsal.deployer, some (Address.ofNat 7),
              tables.interface.methods[0].selector.toBytes ++
                AbiValue.encodeSequence [.array []]⟩] ∧
        AbiType.decodeSequence decoder.memory tableTypes (AbiValue.encodeSequence [.array []]) =
          .error .outOfMemory ∧
        (((tables.on Rehearsal.node decoder).view "echo" [.array []]).run
          { output := AbiValue.encodeSequence [.array []] }).result =
            .error ⟨"Failed to decode the output of echo",
              decoder.words (.data .outOfMemory)⟩ := by
  have hencoded : Param.encodeAll [tableParam] [.array []] =
      .ok (AbiValue.encodeSequence [.array []]) := rfl
  have hmeans : tables.Means "echo" [.array []] tables.interface.methods[0] :=
    ⟨rfl, (Param.encodeAll_ok_iff.mp hencoded).1⟩
  refine ⟨hmeans, rfl, by decide, by decide, fun decoder => ?_⟩
  have hroom : decoder.memory.tokens < AbiType.tokensOfAll tableTypes :=
    Nat.lt_trans decoder.memory.tokens_lt (by decide)
  refine ⟨?_, AbiType.decodeSequence_of_lt rfl (by decide) hroom, ?_⟩
  · have hsend : ((tables.on Rehearsal.node.recorded decoder).send Rehearsal.deployer "echo"
        [.array []]).run ({}, []) = _ := run_send_recorded hmeans.encodeCall
    rw [hsend]
    rfl
  · have hview : ((tables.view Rehearsal.node decoder "echo" [.array []]).run
        { output := AbiValue.encodeSequence [.array []] }).result =
          decodeOutput decoder tables.interface.methods[0] "echo"
            (AbiValue.encodeSequence [.array []]) :=
      result_view_of_ok hmeans.select hmeans.encodeCall rfl
    have houtputs : AbiType.decodeOutputs decoder.memory tableTypes
        (AbiValue.encodeSequence [.array []]) = .error .outOfMemory :=
      AbiType.decodeOutputs_cons_of_lt rfl (by decide) hroom
    have htypes : Param.resolveAll? tables.interface.methods[0].outputs = some tableTypes := rfl
    unfold on
    dsimp only
    rw [hview]
    unfold decodeOutput
    rw [htypes]
    dsimp only
    rw [houtputs]
    rfl

end Tables

end ContractHarness.Contract
