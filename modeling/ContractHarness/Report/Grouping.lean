/-!
# Grouped digits

Long numbers are written with a comma before every three digits, counted from the right.
-/

set_option autoImplicit false

namespace ContractHarness.Report

/-- Puts a comma before each digit that a whole number of groups of three starts with, except before
the first. -/
def separateThousands (digits : List Char) : List Char :=
  digits.zipIdx.flatMap fun (digit, index) =>
    if 0 < index ∧ (digits.length - index) % 3 = 0 then [',', digit] else [digit]

/-- A number with its digits in groups of three. -/
def grouped (n : Nat) : String :=
  String.ofList (separateThousands (Nat.toDigits 10 n))

end ContractHarness.Report
