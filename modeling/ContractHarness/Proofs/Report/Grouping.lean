import ContractHarness.Report.Grouping
import ContractHarness.Text.Split

/-!
# Digits in groups of three

The commas are put in from the first digit on, but where they stand is decided by what is left up to
the last one. So the digits are taken apart from the end: three more of them behind a number are one
more group behind its groups. Between the commas stand a first group of one to three digits and then
groups of three, and without the commas the digits are as they were.
-/

set_option autoImplicit false

namespace ContractHarness.Report

variable {digits front last first : List Char} {rest : List (List Char)} {text : String} {n : Nat}

/-- Up to three digits are a group of their own. -/
theorem separateThousands_of_length_le (h : digits.length ≤ 3) :
    separateThousands digits = digits := by
  match digits, h with
  | [], _ | [_], _ | [_, _], _ | [_, _, _], _ => rfl

/-- Three more digits are one more group. -/
theorem separateThousands_append (hfront : front ≠ []) (hlast : last.length = 3) :
    separateThousands (front ++ last) = separateThousands front ++ ',' :: last := by
  have hpositive : 0 < front.length := List.length_pos_iff.mpr hfront
  unfold separateThousands
  rw [List.zipIdx_append, List.flatMap_append]
  congr 1
  · -- a whole group more changes no remainder
    rw [List.flatMap_def, List.flatMap_def]
    refine congrArg List.flatten (List.map_congr_left fun ⟨digit, index⟩ hmem => ?_)
    have hindex : index < front.length := by
      have hbounds := List.mem_zipIdx hmem
      omega
    have hremainder : ((front ++ last).length - index) % 3 = (front.length - index) % 3 := by
      rw [List.length_append]
      omega
    simp only [hremainder]
  · match last, hlast with
    | [a, b, c], _ =>
      have hthird : front.length + 3 - (front.length + 1 + 1) = 1 := by omega
      simp [List.zipIdx_cons, hpositive, hthird]

/-- Digits that were separated are a first group of one to three of them, and groups of three with a
comma before each. -/
theorem exists_separateThousands_eq (hdigits : digits ≠ []) :
    ∃ (first : List Char) (rest : List (List Char)), digits = first ++ rest.flatten ∧
      separateThousands digits = first ++ rest.flatMap (',' :: ·) ∧
      1 ≤ first.length ∧ first.length ≤ 3 ∧ ∀ group ∈ rest, group.length = 3 := by
  induction hlength : digits.length using Nat.strongRecOn generalizing digits with
  | _ length ih =>
    by_cases hshort : digits.length ≤ 3
    · have hpositive : 1 ≤ digits.length := List.length_pos_iff.mpr hdigits
      refine ⟨digits, [], by simp, ?_, hpositive, hshort, List.forall_mem_nil _⟩
      simp [separateThousands_of_length_le hshort]
    · -- the last three digits are the last group
      obtain ⟨front, last, rfl, hlast⟩ :
          ∃ front last, digits = front ++ last ∧ last.length = 3 := by
        refine ⟨digits.take (digits.length - 3), digits.drop (digits.length - 3), ?_, ?_⟩
        · rw [List.take_append_drop]
        · rw [List.length_drop]
          omega
      rw [List.length_append, hlast] at hshort hlength
      have hfront : front ≠ [] := by
        rintro rfl
        exact hshort (by simp)
      obtain ⟨first, rest, hjoined, hseparated, hlow, hhigh, hgroups⟩ :=
        ih front.length (by omega) hfront rfl
      refine ⟨first, rest ++ [last], ?_, ?_, hlow, hhigh, ?_⟩
      · rw [List.flatten_append, List.flatten_singleton, ← List.append_assoc, ← hjoined]
      · rw [separateThousands_append hfront hlast, hseparated, List.flatMap_append,
          List.flatMap_singleton, List.append_assoc]
      · intro group hgroup
        rcases List.mem_append.mp hgroup with hgroup | hgroup
        · exact hgroups group hgroup
        · rwa [List.mem_singleton.mp hgroup]

/-- Groups without commas in them are the parts between the commas. -/
theorem splitAtMarks_groups (hfirst : ',' ∉ first) (hrest : ∀ group ∈ rest, ',' ∉ group) :
    splitAtMarks ',' (first ++ rest.flatMap (',' :: ·)) = first :: rest := by
  induction rest generalizing first with
  | nil => simpa using splitAtMarks_of_notMem ',' first hfirst
  | cons group rest ih =>
    rw [List.forall_mem_cons] at hrest
    rw [List.flatMap_cons, List.cons_append, splitAtMarks_append ',' _ _ hfirst,
      ih hrest.1 hrest.2]

/-- A group has no comma to drop. -/
theorem filter_of_comma_notMem (hfirst : ',' ∉ first) : first.filter (· ≠ ',') = first := by
  rw [List.filter_eq_self]
  intro c hc
  simpa using ne_of_mem_of_not_mem hc hfirst

/-- Without the commas before them the groups are joined. -/
theorem filter_flatMap_comma (hrest : ∀ group ∈ rest, ',' ∉ group) :
    (rest.flatMap (',' :: ·)).filter (· ≠ ',') = rest.flatten := by
  induction rest with
  | nil => rfl
  | cons group rest ih =>
    rw [List.forall_mem_cons] at hrest
    rw [List.flatMap_cons, List.cons_append, List.filter_cons_of_neg (by simp),
      List.filter_append, filter_of_comma_notMem hrest.1, ih hrest.2, List.flatten_cons]

/-! ## Numbers in groups -/

/-- The text is a number with its digits in groups: without the commas it is the number in decimal,
and of what stands between the commas the first group has one to three characters and every other
one has three. -/
structure IsGrouped (text : String) (n : Nat) : Prop where
  digits : String.ofList (text.toList.filter (· ≠ ',')) = toString n
  groups : ∃ first rest, splitAtMarks ',' text.toList = first :: rest ∧
    1 ≤ first.length ∧ first.length ≤ 3 ∧ ∀ group ∈ rest, group.length = 3

/-- A number is shown in groups of three digits, with no more than that before the first comma. -/
theorem isGrouped_grouped (n : Nat) : IsGrouped (grouped n) n := by
  obtain ⟨first, rest, hjoined, hseparated, hlow, hhigh, hgroups⟩ :=
    exists_separateThousands_eq (Nat.toDigits_ne_nil (b := 10) (n := n))
  have htext : (grouped n).toList = first ++ rest.flatMap (',' :: ·) := by
    rw [grouped, String.toList_ofList, hseparated]
  have hcomma : ',' ∉ first ++ rest.flatten := by
    rw [← hjoined]
    intro h
    have hdigit := Nat.isDigit_of_mem_toDigits (by decide) (by decide) h
    revert hdigit
    decide
  rw [List.mem_append, not_or] at hcomma
  have hrest : ∀ group ∈ rest, ',' ∉ group := fun group hgroup h =>
    hcomma.2 (List.mem_flatten.mpr ⟨group, hgroup, h⟩)
  constructor
  · rw [htext, List.filter_append, filter_of_comma_notMem hcomma.1, filter_flatMap_comma hrest,
      ← hjoined]
    rfl
  · exact ⟨first, rest, by rw [htext, splitAtMarks_groups hcomma.1 hrest], hlow, hhigh, hgroups⟩

/-- Without its commas a grouped number is the number in digits. -/
theorem IsGrouped.filter_eq (h : IsGrouped text n) :
    text.toList.filter (· ≠ ',') = Nat.toDigits 10 n := by
  rw [← String.ofList_inj, h.digits]
  rfl

/-- A grouped number is made of digits and commas. -/
theorem IsGrouped.isDigit_of_mem (h : IsGrouped text n) {c : Char} (hc : c ∈ text.toList)
    (hcomma : c ≠ ',') : c.isDigit = true := by
  have hmem : c ∈ Nat.toDigits 10 n := by
    rw [← h.filter_eq, List.mem_filter]
    exact ⟨hc, by simpa using hcomma⟩
  exact Nat.isDigit_of_mem_toDigits (by decide) (by decide) hmem

example : grouped 1234567 = "1,234,567" := by decide

end ContractHarness.Report
