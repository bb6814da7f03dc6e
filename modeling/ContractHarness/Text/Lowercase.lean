import ContractHarness.Text.LowercaseTable

/-!
# Lowercasing

Full Unicode lowercasing of a text. Every character is replaced on its own, with two exceptions:
the capital I with a dot above becomes two characters, and a capital sigma becomes the final form
of the small sigma where it ends a word.
-/

set_option autoImplicit false

namespace ContractHarness.Text

/-- The lowercase partner of a character, which is the character itself when it has none. -/
def lowercaseChar (c : Char) : Char :=
  match lowercaseRuns.partner? c.toNat with
  | some partner => Char.ofNat partner
  | none => c

/-- The word goes on through the characters: past the ones that case ignores stands a cased one. -/
def reachesCased (text : List Char) : Bool :=
  match text.dropWhile caseIgnorableRanges.covers with
  | c :: _ => casedRanges.covers c
  | [] => false

/-- The lowercase form of one character with the text on both sides of it, the text before it
nearest first. -/
def lowercaseBetween (before : List Char) (c : Char) (after : List Char) : List Char :=
  if c = 'Σ' then
    if reachesCased before && !reachesCased after then ['ς'] else ['σ']
  else if c = 'İ' then ['i', '\u0307']
  else [lowercaseChar c]

/-- Lowercases a text that follows the characters of `before`, nearest first. -/
def lowercaseAfter (before : List Char) : List Char → List Char
  | [] => []
  | c :: after => lowercaseBetween before c after ++ lowercaseAfter (c :: before) after

/-- The lowercase form of a text. -/
def lowercase (text : List Char) : List Char :=
  lowercaseAfter [] text

end ContractHarness.Text
