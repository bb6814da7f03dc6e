import ContractHarness.AddressLike
import ContractHarness.BigNumber.Convert
import ContractHarness.Failure

/-!
# Assertions about values

Two values stand for the same address, or denote the same number. An assertion that does not hold
is told with both values in one representation.
-/

set_option autoImplicit false

namespace ContractHarness

/-- What is told about two values that should be equal, behind a label if there is one. -/
def inequality (label : Option String) (value expected : String) : String :=
  match label with
  | some label => s!"{label}: expected {value} to equal {expected}"
  | none => s!"expected {value} to equal {expected}"

/-- Both values stand for the same address. -/
def addressIs (a b : AddressLike) (message : Option String) : Except Failure Unit :=
  if a.normalize = b.normalize then .ok ()
  else .error (.assertion (inequality message a.normalize b.normalize))

/-- Both values denote the same number. A value that denotes none is an error. -/
def expectNumbersEqual (value expected : Numeric) (label : Option String) :
    Except Failure Unit := do
  let value ← value.toNumber.mapError fun e => .ofText e.message
  let expected ← expected.toNumber.mapError fun e => .ofText e.message
  if value.decimal = expected.decimal then .ok ()
  else .error (.assertion (inequality label value.decimal expected.decimal))

/-- The first of the outputs of a method denotes the same number as the target. Whatever is wrong
with either of them makes the assertion fail. -/
def outputIs (outputs : List AbiValue) (target : Numeric) (message method : String) :
    Except Failure Unit := do
  let target ← target.toNumber.mapError fun e => .assertion e.message
  let some output := outputs.head? | throw (.assertion s!"{method} returned no values")
  let value ← output.toNumber.mapError fun e => .assertion e.message
  if target = value then .ok ()
  else .error (.assertion (inequality (some message) value.decimal target.decimal))

end ContractHarness
