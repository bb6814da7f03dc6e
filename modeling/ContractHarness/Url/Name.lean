import ContractHarness.Text.CombiningClass
import ContractHarness.Text.Composition
import ContractHarness.Text.Direction
import ContractHarness.Text.Joining
import ContractHarness.Text.Punycode
import ContractHarness.Url.NameTable

/-!
# Names of hosts

A name of a host is a sequence of labels with points between them, in the characters of any script.
Each character is taken for what it counts as. A label that begins with `xn--` stands for another
one in Punycode. Not every sequence of characters is a label, and labels that are written from right
to left put demands on the whole name.
-/

set_option autoImplicit false

namespace ContractHarness.Url

/-- The character cannot stand in a name. -/
def isForbidden (c : Char) : Bool :=
  c.toNat ≤ 0x20 || c.toNat == 0x7F || "%#/:<>?@[\\]^|".toList.contains c

/-- The text has no characters beyond ASCII. -/
def isAscii (text : List Char) : Bool :=
  text.all (·.toNat < 0x80)

/-! ## Direction -/

/-- The direction demands nothing of a name without such characters. -/
def needsDirection (c : Char) : Bool :=
  Text.direction c = .rightToLeft || Text.direction c = .arabicDigit

/-- The directions can follow one another in a label from left to right, up to its last letter. -/
def fitsLeftToRight (directions : List Text.Direction) : Bool :=
  directions.all fun d => d ≠ .rightToLeft && d ≠ .arabicDigit

/-- The directions can follow one another in a label from right to left, up to its last letter: the
digits are of one kind. -/
def fitsRightToLeft (directions : List Text.Direction) : Bool :=
  directions.all (· ≠ .leftToRight)
    && !(directions.contains .digit && directions.contains .arabicDigit)

/-- A label can stand in a name that is written from right to left in a part. It begins with a
letter, is written in the direction of the letter, and ends with a letter or a digit and its
marks. -/
def fitsDirection (label : List Char) : Bool :=
  let directions := label.map Text.direction
  let last := (directions.reverse.dropWhile (· = .mark)).head?
  match directions with
  | [] => true
  | .leftToRight :: _ =>
    fitsLeftToRight directions && (last == some .leftToRight || last == some .digit)
  | .rightToLeft :: _ =>
    fitsRightToLeft directions
      && (last == some .rightToLeft || last == some .digit || last == some .arabicDigit)
  | _ => false

/-! ## Joining -/

/-- The text, nearest first, ends in a sign that takes the vowel from a consonant. -/
def followsVirama : List Char → Bool
  | c :: _ => Text.combiningClass c = Text.viramaClass
  | [] => false

/-- The letters on both sides, nearest first, join there. -/
def joinAcross (before after : List Char) : Bool :=
  (before.dropWhile Text.isTransparent).head?.any Text.joinsAfter
    && (after.dropWhile Text.isTransparent).head?.any Text.joinsBefore

/-- Join controls stand only where they have an effect, in the text behind `before`, nearest
first. -/
def controlsFit (before : List Char) : List Char → Bool
  | [] => true
  | c :: after =>
    (if c = '\u200d' then followsVirama before
      else if c = '\u200c' then followsVirama before || joinAcross before after
      else true)
      && controlsFit (c :: before) after

/-! ## Labels -/

/-- The mark of a label in Punycode. -/
def punycodeMark : List Char :=
  "xn--".toList

/-- The longest label beyond ASCII. -/
def labelLimit : Nat := 1000

/-- The longest label in Punycode, without its mark. -/
def punycodeLimit : Nat := 2000

/-- The characters can stand together as a label. -/
def isLabel (label : List Char) : Bool :=
  label.all isPlain && !label.head?.any Text.isMark && controlsFit [] label

/-- The characters can stand together as a label that has been written in Punycode. -/
def isHiddenLabel (label : List Char) : Bool :=
  isLabel label && !isAscii label && Text.composed label = label
    && !punycodeMark.isPrefixOf label

/-- The label that a label stands for. -/
def readLabel? (label : List Char) : Option (List Char) :=
  if punycodeMark.isPrefixOf label then
    let written := label.drop punycodeMark.length
    if isAscii written ∧ written.length ≤ punycodeLimit then
      (Punycode.decode? written).filter isHiddenLabel
    else none
  else if isLabel label ∧ (isAscii label ∨ label.length ≤ labelLimit) then some label
  else none

/-- The name that a text counts as, if it is a good one. -/
def readName? (text : List Char) : Option (List Char) := do
  let name := Text.composed (text.flatMap counted)
  if name.any isForbidden then none
  let labels ← (splitAtMarks '.' name).mapM readLabel?
  if labels.any (·.any needsDirection) && !labels.all fitsDirection then none
  return name

end ContractHarness.Url
