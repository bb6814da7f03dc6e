/-!
# Decimal text

The number that decimal digits denote. Anything else, the empty text among it, denotes none.
-/

set_option autoImplicit false

namespace ContractHarness.Decimal

/-- The number that decimal digits denote, of which there is at least one. -/
def toNat? (digits : List Char) : Option Nat :=
  if digits ≠ [] ∧ digits.all Char.isDigit then some (Nat.ofDigitChars 10 digits 0) else none

/-- The digits of a number denote it. -/
theorem toNat?_toDigits (n : Nat) : toNat? (Nat.toDigits 10 n) = some n := by
  have hdigits : (Nat.toDigits 10 n).all Char.isDigit = true := by
    rw [List.all_eq_true]
    exact fun c hc => Nat.isDigit_of_mem_toDigits (by decide) (by decide) hc
  unfold toNat?
  rw [if_pos ⟨Nat.toDigits_ne_nil, hdigits⟩, Nat.ofDigitChars_ten_toDigits]

end ContractHarness.Decimal
