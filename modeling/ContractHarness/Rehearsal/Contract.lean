import ContractHarness.Callable

/-!
# A contract without a node

Rehearsals of assertions about calls need a contract that answers as it is told to: every
transaction and every view fails, or none does. It keeps the invocations that it was sent.
-/

set_option autoImplicit false

namespace ContractHarness.Rehearsal

/-- An invocation by a transaction. -/
structure Invocation where
  caller : Address
  method : String
  args : List AbiValue
deriving Repr

/-- How a rehearsed contract answers. -/
structure Part where
  /-- The error that every invocation ends with. -/
  failure : Option ErrorChain := none
  /-- The outputs of every view. -/
  outputs : List AbiValue := []

namespace Part

/-- The end of an invocation. -/
def answer {α : Type} (part : Part) (a : α) : Except ErrorChain α :=
  match part.failure with
  | some chain => .error chain
  | none => .ok a

/-- The result of an invocation that succeeds. -/
def result (caller : Address) : CallResult where
  receipt := ⟨0, caller, none, 0, []⟩
  logs := []

/-- The contract that plays a part. -/
def callable (part : Part) (name : ArtifactName) : Callable (List Invocation) where
  contract := ⟨name, Address.zero, .empty, none⟩
  send caller method args := fun sent =>
    ⟨part.answer (result caller), sent ++ [⟨caller, method, args⟩], []⟩
  view _ _ := fun sent => ⟨part.answer part.outputs, sent, []⟩

end Part

end ContractHarness.Rehearsal
