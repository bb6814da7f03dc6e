import ContractHarness.Json.Reader
import ContractHarness.Json.Writer

/-!
# Strings in documents

A string is read back from between its quotes: each character from its escape, if it has one, and
otherwise from itself.
-/

set_option autoImplicit false

namespace ContractHarness.Json

variable {isWanted : Bool} {before rest : List Char}

/-- A letter behind a backslash is read as the character that it stands for. -/
theorem readString_letter {c letter : Char} (hletter : letterEscape? letter = some c) :
    readString isWanted before ('\\' :: letter :: rest) =
      readString isWanted (c :: before) rest := by
  have hu : letter ≠ 'u' := by
    rintro rfl
    cases hletter
  rw [readString.eq_def]
  split
  · next heq => cases heq
  · next heq => cases heq
  · next heq =>
    cases heq
    exact absurd rfl hu
  · next heq =>
    cases heq
    rw [hletter]
  · next hsimple heq =>
    cases heq
    exact (hsimple letter rest rfl rfl).elim

/-- The four digits of a control character are read as the character. -/
theorem readString_control {c : Char} (hcontrol : c.toNat < 0x20) :
    readString isWanted before ('\\' :: 'u' :: (Hex.ofNat 4 c.toNat ++ rest)) =
      readString isWanted (c :: before) rest := by
  have hdigits : ∀ n < 0x20, ∃ a b, Hex.ofNat 4 n = ['0', '0', a, b] ∧
      Hex.toNat? ['0', '0', a, b] = some n := by
    intro n hn
    refine ⟨Nat.digitChar (n / 16), Nat.digitChar (n % 16), ?_⟩
    revert n
    decide
  obtain ⟨a, b, hcode, hread⟩ := hdigits c.toNat hcontrol
  have hplain : plainUnit? c.toNat = some c := by
    unfold plainUnit?
    rw [if_pos (by omega), Char.ofNat_toNat]
  rw [hcode]
  simp only [List.cons_append, List.nil_append]
  rw [readString, hread]
  dsimp only
  rw [hplain]

/-- A character has an escape by letter, an escape by number, or none. -/
theorem escapedChar_cases (c : Char) :
    (∃ letter, escapedChar c = ['\\', letter] ∧ letterEscape? letter = some c) ∨
      (escapedChar c = '\\' :: 'u' :: Hex.ofNat 4 c.toNat ∧ c.toNat < 0x20) ∨
        (escapedChar c = [c] ∧ c ≠ '"' ∧ c ≠ '\\' ∧ ¬ c.toNat < 0x20) := by
  unfold escapedChar
  iterate 7
    split
    · next h =>
      subst h
      exact .inl ⟨_, rfl, rfl⟩
  split
  · next h => exact .inr (.inl ⟨rfl, h⟩)
  · next hquote hslash _ _ _ _ _ hcontrol => exact .inr (.inr ⟨rfl, hquote, hslash, hcontrol⟩)

/-- A character that needs no escape is read as itself. -/
theorem readString_plain {c : Char} (hquote : c ≠ '"') (hslash : c ≠ '\\')
    (hcontrol : ¬ c.toNat < 0x20) :
    readString isWanted before (c :: rest) = readString isWanted (c :: before) rest := by
  rw [readString.eq_def]
  split
  · next heq => cases heq
  · next heq =>
    cases heq
    exact absurd rfl hquote
  · next heq =>
    cases heq
    exact absurd rfl hslash
  · next heq =>
    cases heq
    exact absurd rfl hslash
  · next heq =>
    cases heq
    rw [if_neg (by simp [hslash, hcontrol])]

/-- A character is read from its escape, or from itself when it has none. -/
theorem readString_escapedChar (c : Char) :
    readString isWanted before (escapedChar c ++ rest) =
      readString isWanted (c :: before) rest := by
  rcases escapedChar_cases c with ⟨letter, h, hletter⟩ | ⟨h, hcontrol⟩ |
    ⟨h, hquote, hslash, hcontrol⟩
  · rw [h]
    exact readString_letter hletter
  · rw [h]
    exact readString_control hcontrol
  · rw [h]
    exact readString_plain hquote hslash hcontrol

/-- A text whose characters are escaped is read back up to the quote behind it. -/
theorem readString_flatMap (text : List Char) :
    readString isWanted before (text.flatMap escapedChar ++ '"' :: rest) =
      some (String.ofList (before.reverse ++ text), rest) := by
  induction text generalizing before with
  | nil => rw [List.flatMap_nil, List.nil_append, readString, List.append_nil]
  | cons c text ih =>
    rw [List.flatMap_cons, List.append_assoc, readString_escapedChar, ih, List.reverse_cons,
      List.append_assoc, List.singleton_append]

/-- A value that begins with a quote is the string behind it. -/
theorem readValue_quote (outline : Outline) (fuel : Nat) (text : List Char) :
    readValue outline (fuel + 1) ('"' :: text) =
      (readString outline.isWanted [] text).map fun p => (.string p.1, p.2) := by
  rw [readValue]
  rfl

/-- A document that holds a string is read as that string. -/
theorem read?_compact_string (value : String) :
    read? (Json.string value).compact = some (.string value) := by
  have htext : (Json.string value).compact.toList =
      '"' :: (value.toList.flatMap escapedChar ++ ['"']) := by
    rw [compact, quote, String.toList_ofList]
  unfold read? readOutlined?
  dsimp only
  rw [htext, readValue_quote, readString_flatMap, List.reverse_nil, List.nil_append,
    String.ofList_toList]
  rfl

end ContractHarness.Json
