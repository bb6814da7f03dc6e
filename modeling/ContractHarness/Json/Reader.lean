import ContractHarness.Json.Basic
import ContractHarness.Json.Magnitude
import ContractHarness.Text.Hex

/-!
# Reading JSON

A document is one value with blanks around it. Reading is strict: no trailing commas, no leading
zeros, no control characters in strings, no unpaired surrogates and no numbers beyond double
precision. A document may nest its arrays and objects 127 levels deep. An outline says which parts
of a document are wanted. The others only have to be laid out well: they may nest as deeply as they
like, their strings may hold unpaired surrogates and their numbers may be of any size, and nothing
of them is kept.

The readers below take the rest of the text and return what they read with what is left. Values
are read with fuel, one unit for each value and each separator on the way down; the length of the
text is always enough, since every one of them takes at least a character.
-/

set_option autoImplicit false

namespace ContractHarness.Json

/-- The blanks between the parts of a document. -/
def isSpace (c : Char) : Bool :=
  c = ' ' || c = '\n' || c = '\t' || c = '\r'

/-- The text from the first character that is no blank. -/
def skipSpaces (text : List Char) : List Char :=
  text.dropWhile isSpace

/-- The character of a code unit that is no surrogate. -/
def plainUnit? (unit : Nat) : Option Char :=
  if unit < 0xD800 ∨ 0xDFFF < unit then some (Char.ofNat unit) else none

/-- The character of a pair of surrogates. -/
def surrogatePair? (high low : Nat) : Option Char :=
  if 0xD800 ≤ high ∧ high ≤ 0xDBFF ∧ 0xDC00 ≤ low ∧ low ≤ 0xDFFF then
    some (Char.ofNat (0x10000 + (high - 0xD800) * 0x400 + (low - 0xDC00)))
  else none

/-- The character of an escape by letter. -/
def letterEscape? : Char → Option Char
  | '"' => some '"'
  | '\\' => some '\\'
  | '/' => some '/'
  | 'b' => some '\x08'
  | 'f' => some '\x0c'
  | 'n' => some '\n'
  | 'r' => some '\r'
  | 't' => some '\t'
  | _ => none

/-- What is wanted of a value. -/
inductive Outline where
  /-- All of it. -/
  | whole
  /-- Nothing. -/
  | nothing
  /-- The members with these names, in the order in which a list without names gives them. -/
  | record (members : List (String × Outline))

namespace Outline

/-- What is wanted of the member with a name. -/
def member (name : String) : Outline → Outline
  | .record members => (members.lookup name).getD .nothing
  | outline => outline

/-- What is wanted of the first item of a list. -/
def first : Outline → Outline
  | .record ((_, outline) :: _) => outline
  | .record [] => .whole
  | outline => outline

/-- What is wanted of the items behind the first one. -/
def further : Outline → Outline
  | .record (_ :: members) => .record members
  | outline => outline

/-- Something is wanted. -/
def isWanted : Outline → Bool
  | .nothing => false
  | _ => true

end Outline

/-- Reads a string behind its opening quote, after the characters of `before`, the last of them
first. In a string that is not wanted, a surrogate may stand alone. -/
def readString (isWanted : Bool) (before : List Char) : List Char → Option (String × List Char)
  | [] => none
  | '"' :: rest => some (String.ofList before.reverse, rest)
  | '\\' :: 'u' :: a :: b :: c :: d :: rest =>
    match Hex.toNat? [a, b, c, d] with
    | none => none
    | some unit =>
      match plainUnit? unit with
      | some plain => readString isWanted (plain :: before) rest
      | none =>
        if !isWanted then readString isWanted before rest
        else match rest with
          | '\\' :: 'u' :: e :: f :: g :: h :: rest =>
            match (Hex.toNat? [e, f, g, h]).bind (surrogatePair? unit) with
            | some pair => readString isWanted (pair :: before) rest
            | none => none
          | _ => none
  | '\\' :: c :: rest =>
    match letterEscape? c with
    | some escaped => readString isWanted (escaped :: before) rest
    | none => none
  | c :: rest =>
    if c = '\\' ∨ c.toNat < 0x20 then none else readString isWanted (c :: before) rest

/-- Reads at least one digit. -/
def readDigits (text : List Char) : Option (List Char × List Char) :=
  let digits := text.takeWhile Char.isDigit
  if digits.isEmpty then none else some (digits, text.dropWhile Char.isDigit)

/-- Reads the whole part of a number, which has no leading zeros. -/
def readWhole : List Char → Option (List Char × List Char)
  | '0' :: rest =>
    match rest with
    | c :: _ => if c.isDigit then none else some (['0'], rest)
    | [] => some (['0'], [])
  | text => readDigits text

/-- Reads the fraction of a number, if it has one. -/
def readFraction : List Char → Option (List Char × List Char)
  | '.' :: rest => (readDigits rest).map fun (digits, rest) => ('.' :: digits, rest)
  | text => some ([], text)

/-- Reads the sign and the digits behind the mark of an exponent. -/
def readExponentDigits (mark : Char) : List Char → Option (List Char × List Char)
  | '+' :: rest => (readDigits rest).map fun (digits, rest) => (mark :: '+' :: digits, rest)
  | '-' :: rest => (readDigits rest).map fun (digits, rest) => (mark :: '-' :: digits, rest)
  | rest => (readDigits rest).map fun (digits, rest) => (mark :: digits, rest)

/-- Reads the exponent of a number, if it has one. -/
def readExponent : List Char → Option (List Char × List Char)
  | 'e' :: rest => readExponentDigits 'e' rest
  | 'E' :: rest => readExponentDigits 'E' rest
  | text => some ([], text)

/-- Reads a number. One that is wanted may not be too large. -/
def readNumber (isWanted : Bool) (text : List Char) : Option (Json × List Char) := do
  let (sign, rest) := match text with
    | '-' :: rest => (['-'], rest)
    | rest => ([], rest)
  let (whole, rest) ← readWhole rest
  let (fraction, rest) ← readFraction rest
  let (exponent, rest) ← readExponent rest
  if isWanted && !isHoldable whole (fraction.drop 1) (exponent.drop 1) then none
  return (.number (String.ofList (sign ++ whole ++ fraction ++ exponent)), rest)

mutual
/-- Reads what is wanted of a value. -/
def readValue (outline : Outline) : (fuel : Nat) → List Char → Option (Json × List Char)
  | 0, _ => none
  | fuel + 1, text =>
    match skipSpaces text with
    | 'n' :: 'u' :: 'l' :: 'l' :: rest => some (.null, rest)
    | 't' :: 'r' :: 'u' :: 'e' :: rest => some (.bool true, rest)
    | 'f' :: 'a' :: 'l' :: 's' :: 'e' :: rest => some (.bool false, rest)
    | '"' :: rest =>
      (readString outline.isWanted [] rest).map fun (s, rest) => (.string s, rest)
    | '[' :: rest =>
      match skipSpaces rest with
      | ']' :: rest => some (.array [], rest)
      | rest => (readItems outline fuel rest).map fun (items, rest) => (.array items, rest)
    | '\x7b' :: rest =>
      match skipSpaces rest with
      | '\x7d' :: rest => some (.object [], rest)
      | rest => (readMembers outline fuel rest).map fun (members, rest) => (.object members, rest)
    | rest => readNumber outline.isWanted rest

/-- Reads the items of an array up to its bracket. -/
def readItems (outline : Outline) : (fuel : Nat) → List Char → Option (List Json × List Char)
  | 0, _ => none
  | fuel + 1, text =>
    match readValue outline.first fuel text with
    | none => none
    | some (item, rest) =>
      let kept := if outline.first.isWanted then [item] else []
      match skipSpaces rest with
      | ']' :: rest => some (kept, rest)
      | ',' :: rest =>
        (readItems outline.further fuel rest).map fun (items, rest) => (kept ++ items, rest)
      | _ => none

/-- Reads the members of an object up to its brace. -/
def readMembers (outline : Outline) :
    (fuel : Nat) → List Char → Option (List (String × Json) × List Char)
  | 0, _ => none
  | fuel + 1, text =>
    match skipSpaces text with
    | '"' :: rest =>
      match readString outline.isWanted [] rest with
      | none => none
      | some (name, rest) =>
        match skipSpaces rest with
        | ':' :: rest =>
          match readValue (outline.member name) fuel rest with
          | none => none
          | some (value, rest) =>
            let kept := if (outline.member name).isWanted then [(name, value)] else []
            match skipSpaces rest with
            | '\x7d' :: rest => some (kept, rest)
            | ',' :: rest =>
              (readMembers outline fuel rest).map fun (members, rest) => (kept ++ members, rest)
            | _ => none
        | _ => none
    | _ => none
end

/-- The deepest nesting that is read. -/
def maximalDepth : Nat := 127

/-- What is wanted of the value that a document holds. -/
def readOutlined? (outline : Outline) (document : String) : Option Json :=
  let text := document.toList
  match readValue outline (2 * text.length + 1) text with
  | some (value, rest) =>
    if (skipSpaces rest).isEmpty ∧ value.depth ≤ maximalDepth then some value else none
  | none => none

/-- The value that a document holds. -/
def read? (document : String) : Option Json :=
  readOutlined? .whole document

end ContractHarness.Json
