import ContractHarness.Proofs.Abi.RoundTrip
import ContractHarness.Proofs.Event.Keys
import ContractHarness.Proofs.Event.Logs
import ContractHarness.Proofs.Text.Hex
import ContractHarness.Rehearsal.Decoder

/-!
# Decoding emitted events

A contract emits an event as a log: the topic of the event, a topic for each indexed argument, and
the other arguments encoded together as the data. A value of a single word is its own topic, and any
other value leaves only a hash. Decoding separates the arguments in the same way and puts them
together again, so that each stands in its place under its own key.
-/

set_option autoImplicit false

namespace ContractHarness

/-- The values of the type are single words, which can be topics. -/
def AbiType.isWord : AbiType → Bool
  | .bool | .int _ | .uint _ | .fixedBytes _ | .address | .function => true
  | _ => false

/-- An argument that an event is emitted with. -/
structure EmittedArg where
  param : Param
  type : AbiType
  value : AbiValue
  /-- The topic of an indexed argument that is not a single word. -/
  hash : Word
  resolved : param.resolve? = some type
  accepted : type.accepts value = true

namespace EmittedArg

/-- The topic of an indexed argument. -/
def topic (a : EmittedArg) : Word :=
  if a.type.isWord then Word.ofBytes (AbiValue.encodeSequence [a.value]) else a.hash

/-- What can be known of the argument from the log. -/
def visible (a : EmittedArg) : EventValue :=
  if a.param.indexed && !a.type.isWord then .text (Hash.hex a.hash) else .ofAbi a.value

/-- The argument at a position as it is decoded. -/
def entry (a : EmittedArg) (position : Nat) : String × EventValue :=
  (if a.param.name = "" then position.repr else a.param.name, a.visible)

/-- The arguments in the topics. -/
def indexed (args : List EmittedArg) : List EmittedArg :=
  args.filter fun a => a.param.indexed = true

/-- The arguments in the data. -/
def body (args : List EmittedArg) : List EmittedArg :=
  args.filter fun a => a.param.indexed = false

end EmittedArg

/-- The log of an event that a contract emits with arguments. -/
def Event.emit (event : Event) (address : Address) (args : List EmittedArg) : RawLog where
  address := address
  topics := event.topic :: (EmittedArg.indexed args).map EmittedArg.topic
  data := AbiValue.encodeSequence ((EmittedArg.body args).map EmittedArg.value)

namespace EmittedArg

variable {a : EmittedArg} {args : List EmittedArg}

/-! ## Topics -/

/-- The encoding of one value without an offset is that of its piece. -/
theorem encodeSequence_singleton {value : AbiValue} {encoding : Bytes}
    (h : value.piece = .inline encoding) : AbiValue.encodeSequence [value] = encoding := by
  unfold AbiValue.encodeSequence Piece.assemble
  rw [AbiValue.pieces, AbiValue.pieces, h, Piece.head, Piece.head, List.append_nil]
  exact List.append_nil encoding

/-- The topic of a value that is a single word denotes the value. -/
theorem ofWord_encodeSequence {type : AbiType} {value : AbiValue} (h : OfType type value)
    (hword : type.isWord = true) :
    type.ofWord (Word.ofBytes (AbiValue.encodeSequence [value])) = value := by
  cases h with
  | bool b => rw [encodeSequence_singleton rfl, AbiType.ofWord_bool]
  | int bits w => rw [encodeSequence_singleton rfl, Word.ofBytes_toBytes, AbiType.ofWord]
  | uint bits w => rw [encodeSequence_singleton rfl, Word.ofBytes_toBytes, AbiType.ofWord]
  | fixedBytes size w => rw [encodeSequence_singleton rfl, Word.ofBytes_toBytes, AbiType.ofWord]
  | address a => rw [encodeSequence_singleton rfl, AbiType.ofWord_address]
  | function f => rw [encodeSequence_singleton rfl, AbiType.ofWord_function]
  | _ => cases hword

/-- A topic of any other type is kept as it is. -/
theorem ofWord_of_not_isWord {type : AbiType} (h : type.isWord = false) (w : Word) :
    type.ofWord w = .fixedBytes 32 w := by
  cases type <;> first | rfl | cases h

/-- A topic that is kept is shown as the digits of its bytes. -/
theorem ofAbi_fixedBytes (w : Word) :
    EventValue.ofAbi (.fixedBytes 32 w) = .text (Hash.hex w) := by
  have hdigits : Hex.ofBytes w.toBytes = Hex.ofNat 64 w.toNat := Hex.ofBytes_ofNat 31 w.isLt
  have hwhole : w.toBytes.take 32 = w.toBytes :=
    List.take_of_length_le (Nat.le_of_eq (Word.length_toBytes w))
  rw [EventValue.ofAbi, EventValue.ofBytes, hwhole, hdigits]
  rfl

/-- The topic of an indexed argument shows what can be known of it. -/
theorem ofAbi_topic (h : a.param.indexed = true) :
    EventValue.ofAbi (a.type.ofWord a.topic) = a.visible := by
  unfold topic visible
  rw [h, Bool.true_and]
  cases hword : a.type.isWord with
  | true =>
    have hvalue := ofWord_encodeSequence (AbiType.accepts_iff_ofType.mp a.accepted) hword
    rw [if_pos rfl, hvalue]
    rfl
  | false =>
    rw [ofWord_of_not_isWord hword]
    exact ofAbi_fixedBytes a.hash

/-! ## Arguments in order -/

/-- The parameters of arguments have the types of the arguments. -/
theorem resolveAll?_map (args : List EmittedArg) :
    Param.resolveAll? (args.map param) = some (args.map type) := by
  induction args with
  | nil => rfl
  | cons a args ih => rw [List.map_cons, Param.resolveAll?, a.resolved, ih, List.map_cons]

/-- The types of arguments accept their values. -/
theorem acceptsAll_map (args : List EmittedArg) :
    AbiType.acceptsAll (args.map type) (args.map value) = true := by
  induction args with
  | nil => rfl
  | cons a args ih =>
    rw [List.map_cons, List.map_cons, AbiType.acceptsAll, a.accepted, ih]
    rfl

/-- The key of a parameter is that of its argument. -/
theorem argumentKey_param (a : EmittedArg) (position : Nat) :
    Event.argumentKey position a.param = (a.entry position).1 := by
  unfold Event.argumentKey entry
  simp [String.isEmpty_iff]

/-- Values that are separated by where the arguments stand in the log come together in the order of
the declaration. -/
theorem interleave_map (args : List EmittedArg) (position : Nat) :
    Event.interleave position (args.map param)
      ((indexed args).map fun a => a.type.ofWord a.topic) ((body args).map value) =
        (args.zipIdx position).map fun p => p.1.entry p.2 := by
  induction args generalizing position with
  | nil => rfl
  | cons a args ih =>
    have hvalues := ih (position + 1)
    rw [List.map_cons, List.zipIdx_cons, List.map_cons]
    cases h : a.param.indexed with
    | true =>
      have hindexed : indexed (a :: args) = a :: indexed args :=
        List.filter_cons_of_pos (by simpa using h)
      have hbody : body (a :: args) = body args := List.filter_cons_of_neg (by simp [h])
      rw [hindexed, hbody, List.map_cons, Event.interleave, hvalues, argumentKey_param,
        ofAbi_topic h]
      · rfl
      · exact h
    | false =>
      have hindexed : indexed (a :: args) = indexed args := List.filter_cons_of_neg (by simp [h])
      have hbody : body (a :: args) = a :: body args := List.filter_cons_of_pos (by simpa using h)
      have hvisible : a.visible = .ofAbi a.value := by
        unfold visible
        rw [h, Bool.false_and]
        rfl
      rw [hindexed, hbody, List.map_cons, Event.interleave, hvalues, argumentKey_param, ← hvisible]
      · rfl
      · exact h

/-! ## Keys -/

/-- The keys of parameters are those of their arguments. -/
theorem keysOf_map_param (args : List EmittedArg) (position : Nat) :
    Event.keysOf ((args.map param).zipIdx position) =
      ((args.zipIdx position).map fun p => p.1.entry p.2).map Prod.fst := by
  unfold Event.keysOf
  rw [List.zipIdx_map, List.map_map, List.map_map]
  apply List.map_congr_left
  intro p _
  exact argumentKey_param p.1 p.2

/-- Arguments whose names differ from each other and from positions have distinct keys. -/
theorem nodup_keys (hdistinct : args.Pairwise fun a b => a.param.name = "" ∨
      a.param.name ≠ b.param.name)
    (hletters : ∀ a ∈ args, a.param.name ≠ "" → LogEntry.isPosition a.param.name = false)
    (position : Nat) :
    (((args.zipIdx position).map fun p => p.1.entry p.2).map Prod.fst).Nodup := by
  have hparams : Event.Distinct (args.map param) :=
    ⟨List.pairwise_map.mpr hdistinct, List.forall_mem_map.mpr hletters⟩
  rw [← keysOf_map_param]
  exact hparams.nodup_keysOf position

end EmittedArg

/-! ## Logs -/

namespace Event

variable {memory : Memory} {event : Event} {args : List EmittedArg}

/-- The parameters in the topics are those of the arguments there, and so are the others. -/
theorem inputsWhere_of_args (h : event.inputs = args.map EmittedArg.param) (indexed : Bool) :
    event.inputsWhere indexed =
      (args.filter fun a => a.param.indexed = indexed).map EmittedArg.param := by
  unfold inputsWhere
  rw [h, List.filter_map]
  rfl

/-- With a topic for each indexed parameter, a log fits its event when its data can be decoded. -/
theorem decodeParts_eq {types others : List AbiType} {topics : List Word} {data : Bytes}
    (hindexed : Param.resolveAll? (event.inputsWhere true) = some types)
    (hbody : Param.resolveAll? (event.inputsWhere false) = some others)
    (hroom : types.length < maximalTopics) (hcount : topics.length = types.length) :
    event.decodeParts memory topics data =
      ((AbiType.decodeSequence memory others data).mapError .data).map fun values =>
        (List.zipWith AbiType.ofWord types topics, values) := by
  unfold decodeParts
  rw [hindexed, hbody]
  dsimp only
  rw [if_neg (by omega), if_neg (by simpa using hcount)]
  cases AbiType.decodeSequence memory others data with
  | error reason => rfl
  | ok values => rfl

/-- A log that an event is emitted with fits it, with the values of the arguments, when its data is
decoded to them. -/
theorem decodeParts_emit (hinputs : event.inputs = args.map EmittedArg.param)
    (hindexed : (EmittedArg.indexed args).length < maximalTopics)
    (hbody : AbiType.decodeSequence memory ((EmittedArg.body args).map EmittedArg.type)
      (AbiValue.encodeSequence ((EmittedArg.body args).map EmittedArg.value)) =
        .ok ((EmittedArg.body args).map EmittedArg.value)) :
    event.decodeParts memory ((EmittedArg.indexed args).map EmittedArg.topic)
      (AbiValue.encodeSequence ((EmittedArg.body args).map EmittedArg.value)) =
        .ok ((EmittedArg.indexed args).map (fun a => a.type.ofWord a.topic),
          (EmittedArg.body args).map EmittedArg.value) := by
  -- the topics and the data are typed by the same split of the arguments
  have hindexedTypes : Param.resolveAll? (event.inputsWhere true) =
      some ((EmittedArg.indexed args).map EmittedArg.type) := by
    rw [inputsWhere_of_args hinputs]
    exact EmittedArg.resolveAll?_map _
  have hbodyTypes : Param.resolveAll? (event.inputsWhere false) =
      some ((EmittedArg.body args).map EmittedArg.type) := by
    rw [inputsWhere_of_args hinputs]
    exact EmittedArg.resolveAll?_map _
  have hvalues : List.zipWith AbiType.ofWord ((EmittedArg.indexed args).map EmittedArg.type)
      ((EmittedArg.indexed args).map EmittedArg.topic) =
        (EmittedArg.indexed args).map fun a => a.type.ofWord a.topic := by
    rw [List.zipWith_map, List.zipWith_self]
  rw [decodeParts_eq hindexedTypes hbodyTypes (by rw [List.length_map]; exact hindexed)
    (by rw [List.length_map, List.length_map]), hbody, hvalues]
  rfl

end Event

/-- An event of an interface with arguments that can be read from a log of it. -/
structure Emission (abi : Interface) (event : Event) (args : List EmittedArg) : Prop where
  inputs : event.inputs = args.map EmittedArg.param
  notAnonymous : event.anonymous = false
  /-- No other event stands before it that logs with its topic are of. -/
  first : ∃ before after, abi.events = before ++ event :: after ∧
    ∀ e ∈ before, e.anonymous = false → e.topic ≠ event.topic
  /-- A log has room for the topics. -/
  room : (EmittedArg.indexed args).length ≤ 3
  /-- The names differ from each other, -/
  distinct : args.Pairwise fun a b => a.param.name = "" ∨ a.param.name ≠ b.param.name
  /-- and from positions. -/
  letters : ∀ a ∈ args, a.param.name ≠ "" → LogEntry.isPosition a.param.name = false
  /-- The data holds something of each argument in it, -/
  sized : ∀ a ∈ EmittedArg.body args, a.type.isZeroSized = false
  /-- and of each item. -/
  counted : ∀ a ∈ EmittedArg.body args, a.type.isCounted = true
  /-- A decoder can step into every part of the data. -/
  nesting : ∀ a ∈ EmittedArg.body args, a.value.nesting ≤ maximalDepth
  /-- Offsets into the data can be read. -/
  addressable :
    (AbiValue.encodeSequence ((EmittedArg.body args).map EmittedArg.value)).length < UInt64.size

namespace Emission

variable {memory : Memory} {abi : Interface} {event : Event} {args : List EmittedArg}

/-- The event is the one that logs with its topic are of. -/
theorem eventOf? (h : Emission abi event args) : abi.eventOf? event.topic = some event := by
  rw [Interface.eventOf?_eq_some_iff]
  exact ⟨rfl, h.notAnonymous, h.first⟩

/-- The data of the log is decoded to the values of the arguments in it, when there is room for the
template of their types. -/
theorem body (h : Emission abi event args)
    (hroom : AbiType.tokensOfAll ((EmittedArg.body args).map EmittedArg.type) ≤ memory.tokens) :
    AbiType.decodeSequence memory ((EmittedArg.body args).map EmittedArg.type)
      (AbiValue.encodeSequence ((EmittedArg.body args).map EmittedArg.value)) =
        .ok ((EmittedArg.body args).map EmittedArg.value) := by
  have hcounted : AbiType.allCounted ((EmittedArg.body args).map EmittedArg.type) = true := by
    rw [AbiType.allCounted_iff, List.forall_mem_map]
    exact h.counted
  have hnesting : AbiValue.nestingOfAll ((EmittedArg.body args).map EmittedArg.value) ≤
      maximalDepth := by
    rw [AbiValue.nestingOfAll_le_iff, List.forall_mem_map]
    exact h.nesting
  have hdecoded := AbiType.decodeSequence_encodeSequence
    (EmittedArg.acceptsAll_map (EmittedArg.body args)) (List.forall_mem_map.mpr h.sized) hcounted
    hroom hnesting [] (by rw [List.append_nil]; exact h.addressable)
  rw [List.append_nil] at hdecoded
  exact hdecoded

/-- Decoding the log of an event gives the arguments in the order of their declaration, each under
its name or, without a name, its position, with what can be known of its value, when there is room
for the template of the data. -/
theorem decodeLog_emit (h : Emission abi event args)
    (hroom : AbiType.tokensOfAll ((EmittedArg.body args).map EmittedArg.type) ≤ memory.tokens)
    (address : Address) :
    ∃ m : EventArgs,
      abi.decodeLog memory (event.emit address args) = .ok ⟨address, some event.name, m⟩ ∧
      m.entries = args.zipIdx.map fun p => p.1.entry p.2 := by
  have hparts := Event.decodeParts_emit h.inputs (Nat.lt_succ_of_le h.room) (h.body hroom)
  have hentries := EmittedArg.interleave_map args 0
  rw [← h.inputs] at hentries
  have hkeys := EmittedArg.nodup_keys h.distinct h.letters 0
  refine ⟨_, Interface.decodeLog_of_ok h.eventOf? hparts, ?_⟩
  rw [hentries]
  exact OrderedMap.entries_ofList hkeys

end Emission

/-! ## A payment -/

section Payment

/-- The arguments of a payment: an address, a number without a name, a text and a list. -/
def paymentArgs : List EmittedArg :=
  [⟨⟨"payer", "address", [], true⟩, .address, .address (Address.ofNat 1), 0, rfl, rfl⟩,
    ⟨⟨"", "uint64", [], false⟩, .uint 64, .uint 64 7, 0, rfl, rfl⟩,
    ⟨⟨"memo", "string", [], true⟩, .string, .string "rent", 5, rfl, rfl⟩,
    ⟨⟨"parts", "uint16[]", [], false⟩, .array (.uint 16), .array [.uint 16 3, .uint 16 4], 0,
      rfl, rfl⟩]

/-- The event of a payment. -/
def paid : Event := ⟨"Paid", paymentArgs.map EmittedArg.param, false⟩

/-- An interface with an anonymous event that is otherwise the same. -/
def payments : Interface := ⟨none, [], [{ paid with anonymous := true }, paid]⟩

/-- The payment can be read from a log. -/
theorem emission_paid : Emission payments paid paymentArgs where
  inputs := rfl
  notAnonymous := rfl
  first := by
    refine ⟨[{ paid with anonymous := true }], [], rfl, ?_⟩
    intro e he hanonymous
    rw [List.mem_singleton.mp he] at hanonymous
    cases hanonymous
  room := by decide
  distinct := by decide
  letters := by decide
  sized := by decide
  counted := by decide
  nesting := by decide
  addressable := by decide +kernel

/-- The log of a payment shows the payer, the number at its position, the hash of the text and the
list. -/
theorem decodeLog_paid :
    ∃ m : EventArgs, payments.decodeLog Rehearsal.memory (paid.emit (Address.ofNat 2) paymentArgs) =
        .ok ⟨Address.ofNat 2, some "Paid", m⟩ ∧
      m.entries = [("payer", .ofAddress (Address.ofNat 1)), ("1", .big (.ofWord 7)),
        ("memo", .text (Hash.hex 5)),
        ("parts", .unsupported "Array([Uint(3, 16), Uint(4, 16)])")] := by
  have hroom : AbiType.tokensOfAll ((EmittedArg.body paymentArgs).map EmittedArg.type) ≤
      Rehearsal.memory.tokens := by decide
  obtain ⟨m, hdecoded, hentries⟩ := emission_paid.decodeLog_emit hroom (Address.ofNat 2)
  refine ⟨m, hdecoded, ?_⟩
  rw [hentries]
  rfl

end Payment

/-! ## A template without room -/

section Rows

/-- No rows, of which each would have as many items as a fixed array can. -/
def rows : EmittedArg where
  param := ⟨"rows", "uint8[18446744073709551615][]", [], false⟩
  type := .array (.fixedArray (.uint 8) 18446744073709551615)
  value := .array []
  hash := 0
  resolved := by rfl
  accepted := by rfl

/-- An event with rows. -/
def stored : Event := ⟨"Stored", [rows.param], false⟩

/-- An interface with that event. -/
def storage : Interface := ⟨none, [], [stored]⟩

/-- But for the room that its template takes, the event can be read from a log. -/
theorem emission_stored : Emission storage stored [rows] where
  inputs := rfl
  notAnonymous := rfl
  first := ⟨[], [], rfl, fun e he => absurd he List.not_mem_nil⟩
  room := by decide
  distinct := List.pairwise_singleton _ _
  letters := by decide
  sized := by decide
  counted := by decide
  nesting := by decide
  addressable := by decide

/-- The log of an event with an empty array of rows cannot be decoded, because no process has room
for a template with a row in it. -/
theorem decodeLog_stored : Emission storage stored [rows] ∧
    ∀ memory, storage.decodeLog memory (stored.emit (Address.ofNat 1) [rows]) =
      .error ⟨"Stored", .data .outOfMemory⟩ := by
  refine ⟨emission_stored, fun memory => ?_⟩
  have hroom : memory.tokens < AbiType.tokensOfAll [rows.type] :=
    Nat.lt_trans memory.tokens_lt (by decide)
  have hdata : AbiType.decodeSequence memory [rows.type] (AbiValue.encodeSequence [.array []]) =
      .error .outOfMemory := AbiType.decodeSequence_of_lt rfl (by decide) hroom
  have hparts : stored.decodeParts memory [] (AbiValue.encodeSequence [.array []]) =
      .error (.data .outOfMemory) := by
    have hindexed : Param.resolveAll? (stored.inputsWhere true) = some [] := rfl
    have hbody : Param.resolveAll? (stored.inputsWhere false) = some [rows.type] := rfl
    rw [Event.decodeParts_eq hindexed hbody (by decide) rfl, hdata]
    rfl
  exact Interface.decodeLog_of_error emission_stored.eventOf? hparts

end Rows

end ContractHarness
