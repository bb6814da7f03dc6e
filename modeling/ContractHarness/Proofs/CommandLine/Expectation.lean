import ContractHarness.CommandLine.Expectation
import ContractHarness.Proofs.Event.Stored

/-!
# Expecting what was shown

The text that an argument of an event is shown as can be given back as what is expected of it. The
text is taken for a truth value or a number where it can be read as one, so the value that comes of
it may be of another kind than the argument. It matches the argument all the same: a number matches
every value that is read as that number, also a text. Only the texts `true` and `false` are mistaken
for truth values. An address is expected by its forty digits in any letter case.
-/

set_option autoImplicit false

namespace ContractHarness

/-! ## Texts of numbers -/

namespace BigNumber

/-- The decimal form of a number is that of its integer. -/
theorem decimal_eq_toString (n : BigNumber) : n.decimal = toString n.toInt := by
  unfold decimal toInt
  cases hnegative : n.negative with
  | false => rfl
  | true =>
    obtain ⟨k, hk⟩ : ∃ k, n.magnitude.toNat = k + 1 :=
      Nat.exists_eq_succ_of_ne_zero (magnitude_ne_zero hnegative)
    rw [hk]
    rfl

end BigNumber

namespace Hex

/-- A digit has the same value when it is lowercased, and no other character becomes one. -/
theorem digitValue?_toLower (c : Char) : digitValue? c.toLower = digitValue? c := by
  by_cases h : c.toNat < 0x80
  · have hcases : ∀ n < 0x80, digitValue? (Char.ofNat n).toLower = digitValue? (Char.ofNat n) := by
      decide
    have hc := hcases c.toNat h
    rwa [Char.ofNat_toNat] at hc
  · unfold Char.toLower
    split
    · next hcapital =>
      have hz : c.toNat ≤ 'Z'.toNat := UInt32.le_iff_toNat_le.mp hcapital.2
      exact absurd (Nat.lt_of_le_of_lt hz (by decide)) h
    · rfl

end Hex

/-! ## Expected values -/

namespace CommandLine

variable {text key : String} {n : BigNumber} {v : EventValue}

/-- A text that is a number is expected as this number. -/
theorem expectedValue_of_read (h : BigNumber.read text = .ok n) :
    expectedValue text = .big n := by
  have hnone (word : String) (hword : BigNumber.read word ≠ .ok n) : text ≠ word := by
    rintro rfl
    exact hword h
  have htrue : text ≠ "true" := hnone "true" nofun
  have hfalse : text ≠ "false" := hnone "false" nofun
  unfold expectedValue
  rw [if_neg htrue, if_neg hfalse, h]

/-- The value is shown as a text that it is not mistaken for another one by. -/
inductive IsExpressible : EventValue → Prop
  | number (value : Int64) : IsExpressible (.number value)
  | bool (value : Bool) : IsExpressible (.bool value)
  | big (value : BigNumber) : IsExpressible (.big value)
  | text {value : String} (ne_true : value ≠ "true") (ne_false : value ≠ "false") :
    IsExpressible (.text value)

/-- What comes of the text of a value matches the value. -/
theorem expectedValue_matches (h : IsExpressible v) :
    (expectedValue v.shown).matches v = .ok true := by
  cases h with
  | number value =>
    have hread : BigNumber.read (EventValue.number value).shown = .ok (.ofInt64 value) := by
      have htext : (BigNumber.ofInt64 value).decimal = toString value.toInt := by
        rw [BigNumber.decimal_eq_toString, BigNumber.toInt_ofInt64]
      rw [EventValue.shown, ← htext, BigNumber.read_decimal]
    rw [expectedValue_of_read hread]
    simp [EventValue.matches, EventValue.toNumber]
  | bool value => cases value <;> rfl
  | big value =>
    have hread : BigNumber.read (EventValue.big value).shown = .ok value :=
      BigNumber.read_decimal value
    rw [expectedValue_of_read hread]
    simp [EventValue.matches, EventValue.toNumber]
  | text htrue hfalse =>
    rename_i value
    cases hread : BigNumber.read value with
    | ok n =>
      rw [EventValue.shown, expectedValue_of_read hread]
      simp [EventValue.matches, EventValue.toNumber, hread]
    | error e =>
      rw [EventValue.shown, expectedValue, if_neg htrue, if_neg hfalse, hread]
      simp [EventValue.matches]

example : (expectedValue "true").matches (.text "true") = .ok false := rfl

/-- A text is split at its first equals sign into the key and what is expected. -/
theorem expectedArgument_append (hkey : '=' ∉ key.toList) (text : String) :
    expectedArgument (key ++ "=" ++ text) = .ok (key, expectedValue text) := by
  have htext : (key ++ "=" ++ text).toList = key.toList ++ '=' :: text.toList := by
    rw [String.toList_append, String.toList_append, List.append_assoc]
    rfl
  unfold expectedArgument
  rw [htext, splitAtMark_append '=' _ _ hkey]
  dsimp only
  rw [String.ofList_toList, String.ofList_toList]

/-- The digits of an address in any letter case match the text that the address is decoded to, and
that of no other address. -/
theorem matches_digits {a : Address} {digits : List Char}
    (hdigits : digits.map Char.toLower = a.digits) (b : Address) :
    (expectedValue (Hex.prefixed digits)).matches (.ofAbi (.address b)) = .ok (decide (b = a)) := by
  have hmap : digits.map Hex.digitValue? = a.digits.map Hex.digitValue? := by
    rw [← hdigits, List.map_map]
    exact List.map_congr_left fun c _ => (Hex.digitValue?_toLower c).symm
  rw [expectedValue_of_read (BigNumber.read_prefixed hmap)]
  obtain ⟨verdict, hmatches, hverdict⟩ :=
    EventValue.matches_ofAbi (.addressBig b (BigNumber.ofAddress a))
  rw [BigNumber.toInt_ofAddress, Int.ofNat_inj, Address.toNat_inj, @eq_comm _ a] at hverdict
  rw [hmatches, Bool.eq_iff_iff.mpr (hverdict.trans decide_eq_true_iff.symm)]

/-- A key and the text of a value make a predicate that every entry with that value matches, also
when there are marks in the text. A key and the digits of an address in any letter case make one
that decides whether the entry has that address. -/
theorem expectedArgument_shown (hkey : '=' ∉ key.toList) :
    (∀ v, IsExpressible v →
      ∃ expected, expectedArgument (key ++ "=" ++ v.shown) = .ok (key, expected) ∧
        ∀ entry : LogEntry, entry.args.get? key = some v →
          entry.matchesArgs (OrderedMap.ofList [(key, expected)]).entries = .ok true) ∧
    ∀ (a : Address) (digits : List Char), digits.map Char.toLower = a.digits →
      ∃ expected,
        expectedArgument (key ++ "=" ++ Hex.prefixed digits) = .ok (key, expected) ∧
        ∀ (b : Address) (entry : LogEntry),
          entry.args.get? key = some (.ofAbi (.address b)) →
            entry.matchesArgs (OrderedMap.ofList [(key, expected)]).entries =
              .ok (decide (b = a)) := by
  constructor
  · intro v hv
    refine ⟨_, expectedArgument_append hkey v.shown, fun entry hentry => ?_⟩
    rw [LogEntry.matchesArgs_single hentry, expectedValue_matches hv]
  · intro a digits hdigits
    refine ⟨_, expectedArgument_append hkey _, fun b entry hentry => ?_⟩
    rw [LogEntry.matchesArgs_single hentry, matches_digits hdigits]

/-! ## A location and a payee -/

section Payee

/-- A location is announced that has a mark in it. -/
def announced : LogEntry :=
  ⟨.zero, some "URI", .ofList [("value", .text "ipfs://?id=1")]⟩

/-- The digits of an address. -/
def payeeDigits : List Char :=
  List.replicate 34 '0' ++ ['A', 'B', 'c', 'd', 'E', 'F']

/-- The location is split at the first mark only, and a payee is expected by digits of which some
are capitals. -/
theorem expectedArgument_payee :
    (∃ expected, expectedArgument ("value" ++ "=" ++ "ipfs://?id=1") = .ok ("value", expected) ∧
      announced.matchesArgs (OrderedMap.ofList [("value", expected)]).entries = .ok true) ∧
    ∃ expected,
      expectedArgument ("to" ++ "=" ++ Hex.prefixed payeeDigits) = .ok ("to", expected) ∧
        (paymentTo (.ofNat 0xabcdef)).matchesArgs (OrderedMap.ofList [("to", expected)]).entries =
          .ok true ∧
        (paymentTo .zero).matchesArgs (OrderedMap.ofList [("to", expected)]).entries =
          .ok false := by
  constructor
  · have hvalue : '=' ∉ "value".toList := by decide
    obtain ⟨expected, hparsed, hmatches⟩ :=
      (expectedArgument_shown hvalue).1 (.text "ipfs://?id=1") (.text (by decide) (by decide))
    exact ⟨expected, hparsed, hmatches announced rfl⟩
  · have hto : '=' ∉ "to".toList := by decide
    obtain ⟨expected, hparsed, hmatches⟩ :=
      (expectedArgument_shown hto).2 (.ofNat 0xabcdef) payeeDigits (by decide)
    refine ⟨expected, hparsed, ?_, ?_⟩
    · rw [hmatches _ _ (get?_paymentTo _)]
      rfl
    · rw [hmatches _ _ (get?_paymentTo _)]
      rfl

end Payee

end CommandLine

end ContractHarness
