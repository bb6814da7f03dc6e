/-!
# Sets of code points

A property of characters is a list of closed ranges of code points, in increasing order. `covers`
is membership in their union.
-/

set_option autoImplicit false

namespace ContractHarness.Text

/-- A set of code points, as closed ranges. -/
abbrev Ranges := List (Nat × Nat)

/-- The character lies in one of the ranges. -/
def Ranges.covers (ranges : Ranges) (c : Char) : Bool :=
  ranges.any fun range => range.1 ≤ c.toNat && c.toNat ≤ range.2

/-- A character is covered exactly when it is in one of the ranges. -/
theorem Ranges.covers_iff (ranges : Ranges) (c : Char) :
    ranges.covers c = true ↔ ∃ range ∈ ranges, range.1 ≤ c.toNat ∧ c.toNat ≤ range.2 := by
  simp [covers]

end ContractHarness.Text
