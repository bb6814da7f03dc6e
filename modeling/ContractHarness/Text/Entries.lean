import ContractHarness.Text.Hex
import ContractHarness.Text.Split

/-!
# Tables of code points

A table that gives lists of code points to code points is written as lines of entries. An entry such
as `f1>6e,303` is a code point and those that belong to it, in hexadecimal; blanks stand between
entries.
-/

set_option autoImplicit false

namespace ContractHarness.Text

/-- A code point and those that belong to it. -/
abbrev Entry := Nat × List Nat

/-- Reads an entry. -/
def readEntry (text : List Char) : Option Entry := do
  let (code, others) ← splitAtMark '>' text
  return (← Hex.toNat? code, ← (splitAtMarks ',' others).mapM Hex.toNat?)

/-- Reads the entries in lines. -/
def readEntries (lines : List String) : List Entry :=
  lines.flatMap fun line => (splitAtMarks ' ' line.toList).filterMap readEntry

end ContractHarness.Text
