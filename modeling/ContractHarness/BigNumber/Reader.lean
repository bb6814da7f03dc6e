import ContractHarness.BigNumber.Basic
import ContractHarness.Text.Blank
import ContractHarness.Text.Quoted

/-!
# Reading big numbers

A number is written as an optional minus sign and digits, which are hexadecimal behind `0x` and
decimal otherwise; blanks around the number and underscores among its digits do not count. A text
that is no number is refused for the first problem on the way: decimal digits are taken from the
left, nineteen at a time, and hexadecimal digits one by one from the right.
-/

set_option autoImplicit false

namespace ContractHarness.BigNumber

/-- What stops digits from being a number. -/
inductive DigitError where
  /-- The byte is no digit. -/
  | invalid (byte : UInt8)
  /-- The number needs more than 256 bits. -/
  | tooLarge
deriving DecidableEq, Repr

/-- The reason as it is told; the byte is shown as the character with its number. -/
def DigitError.message : DigitError → String
  | .invalid byte => s!"invalid digit: {Char.ofNat byte.toNat}"
  | .tooLarge => "the value is too large to fit the target type"

/-- Why a text is no number. -/
inductive ReadError where
  /-- No digits follow the sign and the mark of the radix. -/
  | noDigits (text : String)
  /-- The digits are no number. -/
  | badDigits (text : String) (reason : DigitError)
deriving DecidableEq, Repr

/-- The message of a reading error. -/
def ReadError.message : ReadError → String
  | .noDigits text => s!"invalid BigNumber value: {Text.quoted text}"
  | .badDigits text reason => s!"invalid BigNumber value {Text.quoted text}: {reason.message}"

/-- The underscore, which is passed over wherever a digit may stand. -/
def underscore : UInt8 := 0x5F

/-- The value of a byte as a decimal digit. -/
def decimalDigit? (b : UInt8) : Option Nat :=
  if 0x30 ≤ b && b ≤ 0x39 then some (b.toNat - 0x30) else none

/-- The value of a byte as a hexadecimal digit. -/
def hexDigit? (b : UInt8) : Option Nat :=
  Hex.digitValue? (Char.ofNat b.toNat)

/-- How many decimal digits are taken together. -/
def groupSize : Nat := 19

/-- Reads decimal digits after a value, the last `pending` digits of which have not been measured
against the limit. -/
def scanDecimal (value pending : Nat) : Bytes → Except DigitError Nat
  | [] => if value < Word.size then .ok value else .error .tooLarge
  | b :: rest =>
    if b = underscore then scanDecimal value pending rest
    else match decimalDigit? b with
      | none => .error (.invalid b)
      | some d =>
        let value := 10 * value + d
        if pending + 1 < groupSize then scanDecimal value (pending + 1) rest
        else if value < Word.size then scanDecimal value 0 rest
        else .error .tooLarge

/-- Reads hexadecimal digits from the last one on, above a value of `place` digits. -/
def scanHex (value place : Nat) : Bytes → Except DigitError Nat
  | [] => .ok value
  | b :: rest =>
    if b = underscore then scanHex value place rest
    else match hexDigit? b with
      | none => .error (.invalid b)
      | some d =>
        if d ≠ 0 ∧ 64 ≤ place then .error .tooLarge
        else scanHex (value + d * Nat.pow 16 place) (place + 1) rest

/-- The magnitude that the text behind the sign denotes. -/
def readMagnitude (text : String) (unsigned : List Char) : Except ReadError Word :=
  let read (digits : List Char) (scan : Bytes → Except DigitError Nat) :=
    if digits.isEmpty then .error (.noDigits text)
    else match scan (digits.flatMap String.utf8EncodeChar) with
      | .ok value => .ok (BitVec.ofNat 256 value)
      | .error reason => .error (.badDigits text reason)
  match unsigned with
  | '0' :: 'x' :: digits => read digits fun bytes => scanHex 0 0 bytes.reverse
  | '0' :: 'X' :: digits => read digits fun bytes => scanHex 0 0 bytes.reverse
  | digits => read digits (scanDecimal 0 0)

/-- The number that a text denotes. -/
def read (text : String) : Except ReadError BigNumber :=
  match Text.trim text.toList with
  | '-' :: unsigned => (readMagnitude text unsigned).map (ofSign true)
  | unsigned => (readMagnitude text unsigned).map (ofSign false)

end ContractHarness.BigNumber
