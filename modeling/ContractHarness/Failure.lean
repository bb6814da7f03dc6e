/-!
# Failures

What goes wrong below an operation is reported as a chain of texts: each layer puts what it was
doing in front of what the layer below it said. An expectation of a test that does not hold is told
apart from everything else that can go wrong, and so is a deployment that failed, because its error
is shared by everyone who waited for it.
-/

set_option autoImplicit false

namespace ContractHarness

/-- An error as the texts of the layers it passed through, the outermost first. -/
structure ErrorChain where
  outermost : String
  causes : List String
deriving DecidableEq, Repr, Inhabited

namespace ErrorChain

/-- An error without a cause. -/
def ofText (text : String) : ErrorChain :=
  ⟨text, []⟩

/-- The error with these texts; no texts at all are one empty text. -/
def ofTexts : List String → ErrorChain
  | [] => ofText ""
  | text :: causes => ⟨text, causes⟩

/-- The error seen from a layer further out. -/
def context (text : String) (e : ErrorChain) : ErrorChain :=
  ⟨text, e.outermost :: e.causes⟩

/-- The whole chain in one line. -/
def text (e : ErrorChain) : String :=
  ": ".intercalate (e.outermost :: e.causes)

end ErrorChain

/-- Why an operation of the harness failed. -/
inductive Failure where
  /-- An expectation did not hold. -/
  | assertion (message : String)
  /-- A contract could not be looked up or deployed. -/
  | deployment (chain : ErrorChain)
  /-- Anything else. -/
  | error (chain : ErrorChain)
deriving DecidableEq, Repr

namespace Failure

/-- A failure that is told in one text. -/
def ofText (text : String) : Failure :=
  .error (.ofText text)

/-- The text that a failure is reported with. A deployment failure tells its whole chain. -/
def message : Failure → String
  | .assertion message => message
  | .deployment chain => chain.text
  | .error chain => chain.outermost

/-- The failure is an expectation that did not hold. -/
def isAssertion : Failure → Bool
  | .assertion _ => true
  | _ => false

end Failure

end ContractHarness
