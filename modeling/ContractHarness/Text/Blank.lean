import ContractHarness.Text.Ranges

/-!
# Blank characters

The Unicode property `White_Space`, and cutting blanks off the ends of a text.
-/

set_option autoImplicit false

namespace ContractHarness.Text

/-- The code points with the property `White_Space`. -/
def blankRanges : Ranges := [
  (0x9, 0xD), (0x20, 0x20), (0x85, 0x85), (0xA0, 0xA0), (0x1680, 0x1680), (0x2000, 0x200A),
  (0x2028, 0x2029), (0x202F, 0x202F), (0x205F, 0x205F), (0x3000, 0x3000)]

/-- A blank is a character with the property `White_Space`. -/
def isBlank (c : Char) : Bool :=
  blankRanges.covers c

/-- The text without the blanks at its end. -/
def trimEnd (text : List Char) : List Char :=
  (text.reverse.dropWhile isBlank).reverse

/-- The text without the blanks at either end. -/
def trim (text : List Char) : List Char :=
  trimEnd (text.dropWhile isBlank)

end ContractHarness.Text
