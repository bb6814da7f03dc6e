/-!
# Hexadecimal text

Bytes are written as two lowercase digits each and read back in either letter case. `toBytes?` is a
left inverse of `ofBytes`.
-/

set_option autoImplicit false

namespace ContractHarness.Hex

/-- The value of a hexadecimal digit in either letter case. -/
def digitValue? (c : Char) : Option Nat :=
  if '0' ≤ c ∧ c ≤ '9' then some (c.toNat - '0'.toNat)
  else if 'a' ≤ c ∧ c ≤ 'f' then some (c.toNat - 'a'.toNat + 10)
  else if 'A' ≤ c ∧ c ≤ 'F' then some (c.toNat - 'A'.toNat + 10)
  else none

/-- The character is a hexadecimal digit. -/
def isDigit (c : Char) : Bool :=
  (digitValue? c).isSome

/-- The two digits of a byte. -/
def ofByte (b : UInt8) : List Char :=
  [Nat.digitChar (b.toNat / 16), Nat.digitChar (b.toNat % 16)]

/-- The digits of a sequence of bytes. -/
def ofBytes (bytes : List UInt8) : List Char :=
  bytes.flatMap ofByte

/-- Reads pairs of digits as bytes. -/
def toBytes? : List Char → Option (List UInt8)
  | [] => some []
  | [_] => none
  | high :: low :: rest => do
    let h ← digitValue? high
    let l ← digitValue? low
    let bytes ← toBytes? rest
    return UInt8.ofNat (16 * h + l) :: bytes

/-- The digits of a number, padded with zeros on the left to a width. -/
def ofNat (width n : Nat) : List Char :=
  let digits := Nat.toDigits 16 n
  List.replicate (width - digits.length) '0' ++ digits

/-- The number that hexadecimal digits denote, if all characters are digits. -/
def toNat? (digits : List Char) : Option Nat :=
  digits.foldlM (fun value c => (digitValue? c).map (16 * value + ·)) 0

/-- Text with the prefix `0x`. -/
def prefixed (digits : List Char) : String :=
  String.ofList ('0' :: 'x' :: digits)

/-- Drops a leading `0x` or `0X`. -/
def dropAnyMark : List Char → List Char
  | '0' :: 'x' :: rest => rest
  | '0' :: 'X' :: rest => rest
  | text => text

end ContractHarness.Hex
