import ContractHarness.Notice
import ContractHarness.Report.Grouping

/-!
# The cost of gas

What an amount of gas costs in dollars, at a price of gas and a price of ether. The calculation is
done in 128 bits and stops where they do not suffice.
-/

set_option autoImplicit false

namespace ContractHarness.Report

/-- The prices that turn gas into dollars. -/
structure Pricing where
  /-- The price of a unit of gas in billionths of an ether. -/
  gasPriceGwei : UInt64
  /-- The price of an ether in dollars. -/
  etherPrice : UInt64
deriving DecidableEq, Repr

/-- The step of a calculation that left the range. -/
inductive Overflow where
  | multiplication
  | addition
deriving DecidableEq, Repr

/-- What is told about an overflow. -/
def Overflow.message : Overflow → String
  | .multiplication => "attempt to multiply with overflow"
  | .addition => "attempt to add with overflow"

/-- The number that the calculation must not reach. -/
def bound : Nat := 0x100000000000000000000000000000000

/-- A product of 128 bits. -/
def multiply (a b : Nat) : Except Overflow Nat :=
  if a * b < bound then .ok (a * b) else .error .multiplication

/-- A sum of 128 bits. -/
def add (a b : Nat) : Except Overflow Nat :=
  if a + b < bound then .ok (a + b) else .error .addition

/-- How many units of the product of gas and prices make a cent. -/
def unitsPerCent : Nat := 10000000

/-- The cost of an amount of gas in cents, rounded to the nearest, a half up. -/
def Pricing.cents (pricing : Pricing) (gas : UInt64) : Except Overflow Nat := do
  let gwei ← multiply gas.toNat pricing.gasPriceGwei.toNat
  let units ← multiply gwei pricing.etherPrice.toNat
  return (← add units (unitsPerCent / 2)) / unitsPerCent

/-- Two decimal digits. -/
def twoDigits (n : Nat) : List Char :=
  [Nat.digitChar (n / 10 % 10), Nat.digitChar (n % 10)]

/-- An amount of cents in dollars. -/
def dollars (cents : Nat) : String :=
  "$" ++ grouped (cents / 100) ++ "." ++ String.ofList (twoDigits (cents % 100))

/-- The cost of an amount of gas in dollars. -/
def Pricing.cost (pricing : Pricing) (gas : UInt64) : Except Overflow String :=
  (pricing.cents gas).map dollars

/-- What is told about the gas that a transaction used. -/
def Pricing.gasNotice (pricing : Pricing) (name : String) (gas : UInt64) :
    Except Overflow Notice :=
  (pricing.cost gas).map fun cost => .info s!"\t{name}(): {gas.toNat} {cost}"

end ContractHarness.Report
