/-!
# Occurrences

Whether a text stands somewhere within another one.
-/

set_option autoImplicit false

namespace ContractHarness.Text

/-- The pattern stands somewhere within the characters. -/
def occursIn (pattern : List Char) : List Char → Bool
  | [] => pattern.isEmpty
  | c :: rest => pattern.isPrefixOf (c :: rest) || occursIn pattern rest

/-- The text has the pattern in it. -/
def contains (text pattern : String) : Bool :=
  occursIn pattern.toList text.toList

/-- The search finds exactly what is an infix of the text. -/
theorem occursIn_iff_isInfix {pattern text : List Char} :
    occursIn pattern text = true ↔ pattern <:+: text := by
  induction text with
  | nil => simp [occursIn]
  | cons c rest ih => simp [occursIn, ih, List.infix_cons_iff]

end ContractHarness.Text
