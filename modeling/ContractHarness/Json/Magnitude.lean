/-!
# How large a number may be

A number of a document may be as small as it likes. It may not be so large that the number of double
precision nearest to it is infinite. Its digits count as long as they make up a number of 64 bits,
and those behind them only by the power of ten that they stand for.
-/

set_option autoImplicit false

namespace ContractHarness.Json

/-- What the last of the 53 binary places of a number is worth. -/
def lastPlace (n : Nat) : Nat :=
  Nat.pow 2 (n.log2 - 52)

/-- The nearest number with 53 binary places. Of two that are as near, it is the even one. -/
def roundToDouble (n : Nat) : Nat :=
  let place := lastPlace n
  let below := n / place
  let excess := 2 * (n % place)
  if excess < place ∨ (excess = place ∧ below % 2 = 0) then below * place
  else (below + 1) * place

/-- The least number that is too large for double precision. -/
def doubleBound : Nat :=
  Nat.pow 2 1024

/-- The largest power of ten in double precision. -/
def largestPower : Nat := 308

/-- A number times a power of ten has a place in double precision. -/
def isFinite (significand : Nat) (power : Int) : Bool :=
  if significand = 0 ∨ power < 0 then true
  else if largestPower < power.toNat then false
  else
    let factor := roundToDouble (Nat.pow 10 power.toNat)
    roundToDouble (roundToDouble significand * factor) < doubleBound

/-- Reads digits behind those that make up a number, as long as it keeps to 64 bits. -/
def readSignificand (value : Nat) : List Char → Nat × List Char
  | [] => (value, [])
  | c :: rest =>
    let longer := 10 * value + (c.toNat - '0'.toNat)
    if longer < UInt64.size then readSignificand longer rest else (value, c :: rest)

/-- The power of ten that an exponent denotes, behind its mark. -/
def exponentPower : List Char → Int
  | '-' :: digits => -(Nat.ofDigitChars 10 digits 0 : Int)
  | '+' :: digits => Nat.ofDigitChars 10 digits 0
  | digits => Nat.ofDigitChars 10 digits 0

/-- A number with these digits in front of the point, behind it and in the exponent is not too
large. -/
def isHoldable (whole fraction exponent : List Char) : Bool :=
  let (value, uncounted) := readSignificand 0 whole
  let (significand, ignored) := readSignificand value fraction
  let places := fraction.length - ignored.length
  isFinite significand (exponentPower exponent + uncounted.length - places)

end ContractHarness.Json
