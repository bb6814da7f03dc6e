import ContractHarness.Text.Split

/-!
# Punycode

A text of any characters, written with letters, digits and hyphens. In front of the last hyphen
stand the plain characters of the text, behind it a sequence of numbers. Each of them says how far
to walk for the next character, over all places in the text for one code point after the other. The
digits of a number have weights that follow the size of the numbers before it.
-/

set_option autoImplicit false

namespace ContractHarness.Punycode

/-- The value of a digit: the letters come first. -/
def digitValue? (c : Char) : Option Nat :=
  if 'a' ≤ c ∧ c ≤ 'z' then some (c.toNat - 'a'.toNat)
  else if 'A' ≤ c ∧ c ≤ 'Z' then some (c.toNat - 'A'.toNat)
  else if '0' ≤ c ∧ c ≤ '9' then some (c.toNat - '0'.toNat + 26)
  else none

/-- A digit below this is the last one of its number; the digits are counted in steps of 36. -/
def threshold (bias position : Nat) : Nat :=
  max 1 (min 26 (position - bias))

/-- Reads a number behind digits that came to a value, with the weight of the digit that follows. -/
def readNumber (bias position weight value : Nat) : List Char → Option (Nat × List Char)
  | [] => none
  | c :: rest =>
    match digitValue? c with
    | none => none
    | some digit =>
      let bound := threshold bias position
      if digit < bound then some (value + digit * weight, rest)
      else readNumber bias (position + 36) (weight * (36 - bound)) (value + digit * weight) rest

/-- The bias for numbers of about a size, behind so many divisions of it. -/
def settle (size position : Nat) : Nat :=
  if 455 < size then settle (size / 35) (position + 36)
  else position + 36 * size / (size + 38)
termination_by size
decreasing_by exact Nat.div_lt_self (by omega) (by omega)

/-- The bias behind a number, after which the text has so many characters. The first number is
large, since it leads to the first code point. -/
def adapt (number count : Nat) (isFirst : Bool) : Nat :=
  let size := if isFirst then number / 700 else number / 2
  settle (size + size / count) 0

/-- The character of a code point. -/
def character? (code : Nat) : Option Char :=
  if code < 0xD800 ∨ (0xDFFF < code ∧ code < 0x110000) then some (Char.ofNat code) else none

/-- Puts the characters of a sequence of numbers into a text, from a code point and a place on. Each
unit of fuel is spent on a number. -/
def insertAll : (fuel : Nat) → (text : List Char) → (code place bias : Nat) → List Char →
    Option (List Char)
  | _, text, _, _, _, [] => some text
  | 0, _, _, _, _, _ => none
  | fuel + 1, text, code, place, bias, digits =>
    match readNumber bias 36 1 0 digits with
    | none => none
    | some (number, rest) =>
      let count := text.length + 1
      let walked := place + number
      match character? (code + walked / count) with
      | none => none
      | some c =>
        let here := walked % count
        insertAll fuel (text.take here ++ c :: text.drop here) (code + walked / count) (here + 1)
          (adapt number count (place = 0)) rest

/-- The plain characters in front of the last hyphen, and what stands behind it. -/
def split (text : List Char) : List Char × List Char :=
  match splitAtMark '-' text.reverse with
  | some (after, c :: before) => ((c :: before).reverse, after.reverse)
  | _ => ([], text)

/-- The text that is written so. -/
def decode? (text : List Char) : Option (List Char) :=
  let (plain, digits) := split text
  insertAll digits.length plain 128 0 72 digits

end ContractHarness.Punycode
