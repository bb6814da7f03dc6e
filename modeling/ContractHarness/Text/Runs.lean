/-!
# Runs of partners

Letters often have their partners at the same distance: those of an alphabet, or every other one of
a block. A run says so for all of them at once.
-/

set_option autoImplicit false

namespace ContractHarness.Text

/-- The code points `first`, `first + stride`, ..., `last`, each of which has its partner `offset`
code points further on. -/
structure Run where
  first : Nat
  last : Nat
  stride : Nat
  offset : Int
deriving DecidableEq, Repr

/-- The run holds the code point `n`. -/
def Run.covers (r : Run) (n : Nat) : Bool :=
  r.first ≤ n && n ≤ r.last && (n - r.first) % r.stride == 0

/-- Runs of code points. -/
abbrev Runs := List Run

/-- The partner of a code point in the first run that holds it. -/
def Runs.partner? (runs : Runs) (n : Nat) : Option Nat :=
  (runs.find? (·.covers n)).map fun run => ((n : Int) + run.offset).toNat

end ContractHarness.Text
