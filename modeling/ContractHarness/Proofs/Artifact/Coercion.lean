import ContractHarness.Proofs.Artifact.Creation

/-!
# Deployments with arguments that were read from texts

A deployment from the command line reads its arguments before it asks for the artifact to be
deployed. Two parts of the program look at the arguments then: the grammar that reads a text for a
type, and the encoder that compares values with types. What the first one lets through the second
one takes, so that arguments which were read are never refused on the way to the node.
-/

set_option autoImplicit false

namespace ContractHarness

variable {σ : Type}

/-! ## Refusals -/

/-- The error says that the arguments are not for the constructor. -/
def RefusesArguments (name : ArtifactName) (args : List AbiValue) (e : ErrorChain) : Prop :=
  e.outermost = s!"Failed to encode the constructor arguments of {name}" ∨
    e.outermost = s!"{name} has no constructor but {args.length} arguments were provided"

variable {name : ArtifactName} {args values : List AbiValue} {a : Artifact} {e : ErrorChain}

/-- What is said of a contract that was not created differs from the one refusal in the first
character and from the other one in the last. -/
theorem not_refusesArguments_uncreated :
    ¬ RefusesArguments name args
      (.ofText s!"The deployment of {name} did not create a contract") := by
  rintro (h | h)
  · have hfirst := congrArg (fun text => text.toList.head?) h
    simp [ErrorChain.ofText, toString] at hfirst
  · have hcontract : (s!"The deployment of {name} did not create a contract").toList.getLast? =
        some 't' := by
      show ("The deployment of " ++ name ++ " did not create a contract").toList.getLast? = _
      rw [String.toList_append, List.getLast?_append]
      rfl
    have hprovided : (s!"{name} has no constructor but {args.length} arguments were provided"
        ).toList.getLast? = some 'd' := by
      show (name ++ " has no constructor but " ++ toString args.length ++
        " arguments were provided").toList.getLast? = _
      rw [String.toList_append, List.getLast?_append]
      rfl
    have hlast : some 't' = some 'd' :=
      hcontract.symm.trans ((congrArg (fun text => text.toList.getLast?) h).trans hprovided)
    cases hlast

namespace Workshop

variable {node : Node σ} {world : Workshop σ}

/-- A deployment that can be sent refuses no arguments, unless the node says so. -/
theorem execute_error_of_refusal (h : world.Ready name args a)
    (hresult : ((deploy node name args).run world).result = .error e)
    (hrefuses : RefusesArguments name args e) :
    ((node.execute ⟨node.defaultAccount, none,
      a.bytecode ++ AbiValue.encodeSequence args⟩).run world.chain).result = .error e := by
  rw [(run_deploy_of_planned h.planned).1] at hresult
  unfold Creation.createdBy at hresult
  split at hresult
  · next hsent =>
    cases hresult
    exact hsent
  · split at hresult
    · cases hresult
      exact absurd hrefuses not_refusesArguments_uncreated
    · cases hresult

end Workshop

/-! ## Arguments that were read -/

namespace Interface

variable {abi : Interface} {texts : List String}

/-- What texts are read as are arguments for the constructor. -/
theorem constructs_of_coerce (h : abi.coerceConstructorArguments texts = .ok values) :
    abi.Constructs values := by
  have hadmits : Param.Admit (abi.constructor?.getD []) values := Param.admit_of_coerceAll h
  unfold Constructs
  cases hconstructor : abi.constructor? with
  | none =>
    rw [hconstructor] at hadmits
    exact Param.admit_nil_iff.mp hadmits
  | some inputs =>
    rw [hconstructor] at hadmits
    exact hadmits

/-- What comes of texts as arguments for the constructor, and of the values that were read. -/
structure Coerces (abi : Interface) (texts : List String) : Prop where
  /-- There is one value for each input of the constructor, and it fits the type of the input. -/
  fits : ∀ values, abi.coerceConstructorArguments texts = .ok values →
    values.length = (abi.constructor?.getD []).length ∧
      ∀ p ∈ (abi.constructor?.getD []).zip values,
        ∃ type, p.1.resolve? = some type ∧ FitsType type p.2
  /-- No artifact of the interface that has code refuses them, and a deployment that says so has it
  from the node. -/
  taken : ∀ values, abi.coerceConstructorArguments texts = .ok values →
    ∀ {σ : Type} (node : Node σ) (world : Workshop σ) (name : ArtifactName) (a : Artifact),
      ((Workshop.artifact name).run world).result = .ok a → a.interface = abi → a.bytecode ≠ [] →
      Workshop.creationCode name a values =
          .ok (a.bytecode ++ AbiValue.encodeSequence values) ∧
        ∀ e, ((Workshop.deploy node name values).run world).result = .error e →
          RefusesArguments name values e →
          ((node.execute ⟨node.defaultAccount, none,
            a.bytecode ++ AbiValue.encodeSequence values⟩).run world.chain).result = .error e
  /-- They are not read when their number is wrong, and otherwise for the first input, in order, of
  which the type is unknown or the text is no literal. -/
  refused : ∀ e, abi.coerceConstructorArguments texts = .error e ↔
    ((abi.constructor?.getD []).length ≠ texts.length ∧
      e = .count (abi.constructor?.getD []).length texts.length) ∨
    ((abi.constructor?.getD []).length = texts.length ∧
      ∃ before p after, (abi.constructor?.getD []).zip texts = before ++ p :: after ∧
        (∀ q ∈ before, ∃ type value, q.1.resolve? = some type ∧
          Literal.read? type q.2 = some value) ∧
        ((p.1.resolve? = none ∧ e = .unresolved p.1.name) ∨
          ∃ type, p.1.resolve? = some type ∧ Literal.read? type p.2 = none ∧
            e = .unreadable p.2 p.1.typeText))

/-- For every interface and all texts: values that are read fit the inputs of the constructor, every
artifact of the interface that has code takes them, and texts are refused exactly for their number
or for the first input that none of them can be read for. -/
theorem coerces (abi : Interface) (texts : List String) : Coerces abi texts where
  fits := by
    intro values h
    obtain ⟨hcount, heach⟩ := Param.coerceAll_ok h
    exact ⟨hcount.symm, heach⟩
  taken := by
    intro values h σ node world name a hloads habi hcode
    subst habi
    have hready : world.Ready name values a := ⟨hloads, hcode, constructs_of_coerce h⟩
    refine ⟨Workshop.creationCode_ok_iff.mpr ⟨hcode, hready.arguments, rfl⟩, ?_⟩
    intro e hresult hrefuses
    exact Workshop.execute_error_of_refusal hready hresult hrefuses
  refused := by
    intro e
    have hcoerced : ∀ q : Param × String, (∃ value, q.1.coerce q.2 = .ok value) ↔
        ∃ type value, q.1.resolve? = some type ∧ Literal.read? type q.2 = some value := by
      intro q
      simp only [Param.coerce_ok_iff]
      exact exists_comm
    unfold coerceConstructorArguments
    rw [Param.coerceAll_error_iff]
    simp only [Param.coerce_error_iff, hcoerced]

/-! ## A ledger -/

section Ledger

/-- The constructor takes a name, two numbers, and rows of a flag and two bytes. -/
def ledger : Interface :=
  ⟨some [⟨"name", "string", [], false⟩, ⟨"pair", "uint8[2]", [], false⟩,
    ⟨"rows", "tuple[]", [⟨"flag", "bool", [], false⟩, ⟨"tag", "bytes2", [], false⟩], false⟩],
    [], []⟩

/-- A workshop in which the artifact of the ledger is remembered. -/
def ledgerWorkshop : Workshop Rehearsal.Chain where
  files := .folder []
  store := {
    root := "."
    paths := ∅
    loaded := (∅ : OrderedMap ArtifactName Artifact).insert "Ledger" ⟨ledger, [0x60]⟩ }
  chain := {}

/-- Texts for the ledger give three values that a deployment appends to its code, and a number that
is too large is told before a row that cannot be read. -/
theorem coerces_ledger :
    (∃ values,
      ledger.coerceConstructorArguments ["a b", "[1, 255]", "[(true,0xabcd)]"] = .ok values ∧
        values.length = 3 ∧ Workshop.creationCode "Ledger" ⟨ledger, [0x60]⟩ values =
          .ok ([0x60] ++ AbiValue.encodeSequence values)) ∧
      ledger.coerceConstructorArguments ["a b", "[1, 256]", "[(2,0xabcd)]"] =
        .error (.unreadable "[1, 256]" "uint8[2]") := by
  constructor
  · have hread : (ledger.coerceConstructorArguments
        ["a b", "[1, 255]", "[(true,0xabcd)]"]).toBool = true := by decide +kernel
    obtain ⟨values, hvalues⟩ := Except.toBool_iff.mp hread
    have hledger := coerces ledger ["a b", "[1, 255]", "[(true,0xabcd)]"]
    obtain ⟨hcode, -⟩ := hledger.taken values hvalues Rehearsal.node ledgerWorkshop "Ledger"
      ⟨ledger, [0x60]⟩ rfl rfl nofun
    exact ⟨values, hvalues, (hledger.fits values hvalues).1, hcode⟩
  · have hname : (Literal.read? .string "a b").isSome = true := by decide +kernel
    have hpair : (Literal.read? (.fixedArray (.uint 8) 2) "[1, 256]").isNone = true := by
      decide +kernel
    rw [Option.isNone_iff_eq_none] at hpair
    obtain ⟨value, hvalue⟩ := Option.isSome_iff_exists.mp hname
    refine ((coerces ledger _).refused _).mpr (.inr ⟨rfl, [(_, "a b")], (_, "[1, 256]"),
      [(_, "[(2,0xabcd)]")], rfl, ?_, .inr ⟨_, rfl, hpair, rfl⟩⟩)
    rw [List.forall_mem_singleton]
    exact ⟨_, value, rfl, hvalue⟩

end Ledger

end Interface

end ContractHarness
