/-!
# Splitting at a mark

A text is split at the first mark in it, or at all of them. Split at the first one it gives the two
parts around that mark; split at all of them it gives the parts between them.
-/

set_option autoImplicit false

namespace ContractHarness

/-- Splits a text at the first mark, which belongs to neither part. -/
def splitAtMark (mark : Char) : List Char → Option (List Char × List Char)
  | [] => none
  | c :: rest =>
    if c = mark then some ([], rest)
    else (splitAtMark mark rest).map fun (before, after) => (c :: before, after)

/-- A text is split at the first mark in it. -/
theorem splitAtMark_append (mark : Char) (before after : List Char) (h : mark ∉ before) :
    splitAtMark mark (before ++ mark :: after) = some (before, after) := by
  induction before with
  | nil => simp [splitAtMark]
  | cons c rest ih =>
    rw [List.mem_cons, not_or] at h
    simp [splitAtMark, Ne.symm h.1, ih h.2]

/-- The parts of a text between the marks in it. -/
def splitAtMarks (mark : Char) : List Char → List (List Char)
  | [] => [[]]
  | c :: rest =>
    if c = mark then [] :: splitAtMarks mark rest
    else
      match splitAtMarks mark rest with
      | part :: parts => (c :: part) :: parts
      | [] => [[c]]

/-- A text without marks is one part. -/
theorem splitAtMarks_of_notMem (mark : Char) (text : List Char) (h : mark ∉ text) :
    splitAtMarks mark text = [text] := by
  induction text with
  | nil => rfl
  | cons c rest ih =>
    rw [List.mem_cons, not_or] at h
    simp [splitAtMarks, Ne.symm h.1, ih h.2]

/-- A text is split at the first mark, and what is behind that at the others. -/
theorem splitAtMarks_append (mark : Char) (before after : List Char) (h : mark ∉ before) :
    splitAtMarks mark (before ++ mark :: after) = before :: splitAtMarks mark after := by
  induction before with
  | nil => simp [splitAtMarks]
  | cons c rest ih =>
    rw [List.mem_cons, not_or] at h
    simp [splitAtMarks, Ne.symm h.1, ih h.2]

end ContractHarness
