import ContractHarness.Event.Matching
import ContractHarness.Proofs.BigNumber.Checksum

/-!
# Stored values and what is expected of them

A decoded integer is stored as a plain number or as a big number, by its declared width and by its
value, and an address as text in mixed case. An expected big number matches the integers in either
representation, and the addresses, that have its value. An expected plain number matches integers of
at most 48 bits only; one of those that does not fit 64 bits is stored as a big number, and no plain
number has its value. Text and truth values are compared as they are, and bytes by their digits.
-/

set_option autoImplicit false

namespace ContractHarness

namespace EventValue

variable {bits : Nat} {value : Int} {big n : BigNumber} {k : Int64} {actual : EventValue}

/-! ## Integers in both representations -/

/-- An integer that fits a plain number is kept by it. -/
theorem toInt_ofInt_of_fitsNumber (h : fitsNumber value = true) :
    (Int64.ofInt value).toInt = value := by
  rw [fitsNumber, Bool.and_eq_true, decide_eq_true_eq, decide_eq_true_eq] at h
  exact Int64.toInt_ofInt_of_le h.1 (Int.lt_of_le_of_lt h.2 (by decide))

/-- The integer of a plain number fits one. -/
theorem fitsNumber_toInt (k : Int64) : fitsNumber k.toInt = true := by
  rw [fitsNumber, Bool.and_eq_true, decide_eq_true_eq, decide_eq_true_eq]
  exact ⟨k.minValue_le_toInt, k.toInt_le⟩

/-- A stored integer is the same number in either representation. -/
theorem toNumber_ofInt (h : big.toInt = value) : (ofInt bits value big).toNumber = .ok big := by
  unfold ofInt
  split
  · next hplain =>
    have hsame : BigNumber.ofInt64 (Int64.ofInt value) = big := by
      rw [← BigNumber.toInt_inj, BigNumber.toInt_ofInt64, toInt_ofInt_of_fitsNumber hplain.2, h]
    rw [toNumber, hsame]
  · rfl

/-- A plain number is stored for an integer of a small width only, and then it is that integer. -/
theorem number_eq_ofInt_iff : number k = ofInt bits value big ↔ bits ≤ 48 ∧ k.toInt = value := by
  unfold ofInt
  split
  · next hplain =>
    rw [number.injEq, ← Int64.toInt_inj, toInt_ofInt_of_fitsNumber hplain.2]
    exact (and_iff_right hplain.1).symm
  · next hlarge =>
    constructor
    · intro h
      cases h
    · rintro ⟨hbits, rfl⟩
      exact absurd ⟨hbits, fitsNumber_toInt k⟩ hlarge

/-! ## Single comparisons -/

/-- What an expected value asks of a decoded one, for the kinds that can be compared. -/
inductive Asks : AbiValue → EventValue → Prop → Prop where
  | intBig (bits : Nat) (word : Word) (n : BigNumber) :
    Asks (.int bits word) (.big n) (n.toInt = word.toInt)
  | intNumber (bits : Nat) (word : Word) (k : Int64) :
    Asks (.int bits word) (.number k) (bits ≤ 48 ∧ k.toInt = word.toInt)
  | uintBig (bits : Nat) (word : Word) (n : BigNumber) :
    Asks (.uint bits word) (.big n) (n.toInt = word.toNat)
  | uintNumber (bits : Nat) (word : Word) (k : Int64) :
    Asks (.uint bits word) (.number k) (bits ≤ 48 ∧ k.toInt = word.toNat)
  | address (a b : Address) : Asks (.address a) (.ofAddress b) (b = a)
  | addressBig (a : Address) (n : BigNumber) : Asks (.address a) (.big n) (n.toInt = a.toNat)
  | bool (b c : Bool) : Asks (.bool b) (.bool c) (c = b)
  | string (stored asked : String) : Asks (.string stored) (.text asked) (asked = stored)
  | bytes (content : Bytes) (asked : String) :
    Asks (.bytes content) (.text asked) (asked = Hex.prefixed (Hex.ofBytes content))
  | fixedBytes (size : Nat) (word : Word) (asked : String) :
    Asks (.fixedBytes size word) (.text asked)
      (asked = Hex.prefixed (Hex.ofBytes (word.toBytes.take size)))

/-- A big number matches the values that denote the same integer. -/
theorem matches_big {m : BigNumber} (h : actual.toNumber = .ok m) (hinteger : m.toInt = value) :
    ∃ verdict, (EventValue.big n).matches actual = .ok verdict ∧
      (verdict = true ↔ n.toInt = value) := by
  refine ⟨decide (n = m), ?_, ?_⟩
  · unfold EventValue.matches
    dsimp only
    rw [h]
  · rw [decide_eq_true_eq, ← BigNumber.toInt_inj, hinteger]

/-- An address is stored as a text that is read as its number. -/
theorem toNumber_ofAddress (a : Address) : (ofAddress a).toNumber = .ok (.ofAddress a) := by
  rw [ofAddress, toNumber, BigNumber.read_checksummed]
  rfl

/-- A stored value matches exactly when what is asked of the decoded one holds. -/
theorem matches_ofAbi {value : AbiValue} {expected : EventValue} {P : Prop}
    (h : Asks value expected P) :
    ∃ verdict, expected.matches (.ofAbi value) = .ok verdict ∧ (verdict = true ↔ P) := by
  cases h with
  -- Against a big number the stored value is converted first; all other pairs are compared as kept.
  | intBig bits word n =>
    have hinteger := BigNumber.toInt_ofSignedWord word
    exact matches_big (toNumber_ofInt hinteger) hinteger
  | uintBig bits word n =>
    have hinteger := BigNumber.toInt_ofWord word
    exact matches_big (toNumber_ofInt hinteger) hinteger
  | addressBig a n => exact matches_big (toNumber_ofAddress a) (BigNumber.toInt_ofAddress a)
  | intNumber bits word k | uintNumber bits word k =>
    refine ⟨_, rfl, ?_⟩
    rw [decide_eq_true_eq]
    exact number_eq_ofInt_iff
  | address a b =>
    refine ⟨_, rfl, ?_⟩
    rw [decide_eq_true_eq, ofAbi, ofAddress, ofAddress, text.injEq, Address.checksummed_inj]
  | bool b c =>
    refine ⟨_, rfl, ?_⟩
    rw [decide_eq_true_eq, ofAbi, EventValue.bool.injEq]
  | string stored asked | bytes content asked | fixedBytes size word asked =>
    refine ⟨_, rfl, ?_⟩
    rw [decide_eq_true_eq]
    exact Iff.of_eq (text.injEq _ _)

end EventValue

/-! ## Entries of a log -/

variable {event key : String} {entry : LogEntry} {value : AbiValue} {expected actual : EventValue}
  {args : Option EventArgs} {P : Prop}

/-- An entry that holds the only argument that is expected is decided by that argument. -/
theorem LogEntry.matchesArgs_single (hactual : entry.args.get? key = some actual) :
    entry.matchesArgs (OrderedMap.ofList [(key, expected)]).entries = expected.matches actual := by
  have hentries : (OrderedMap.ofList [(key, expected)]).entries = [(key, expected)] := rfl
  rw [hentries, matchesArgs, hactual]
  dsimp only
  cases expected.matches actual with
  | error e => rfl
  | ok verdict => cases verdict <;> rfl

/-- An entry with a value under the one key that is expected satisfies what that value matches. -/
theorem LogEntry.satisfies_single (hevent : entry.event = some event)
    (hactual : entry.args.get? key = some actual) :
    entry.satisfies event (some (.ofList [(key, expected)])) = expected.matches actual := by
  rw [satisfies, if_neg (not_not_intro hevent)]
  exact matchesArgs_single hactual

/-- Logs are looked through one part after the other, unless the first part fails. -/
theorem filterEvents_append (before after : List LogEntry) :
    filterEvents event args (before ++ after) = do
      let found ← filterEvents event args before
      let others ← filterEvents event args after
      return found ++ others := by
  induction before with
  | nil =>
    rw [List.nil_append]
    cases filterEvents event args after <;> rfl
  | cons entry before ih =>
    rw [List.cons_append, filterEvents, filterEvents]
    cases entry.satisfies event args with
    | error e => rfl
    | ok verdict =>
      cases verdict with
      | false => exact ih
      | true =>
        dsimp only
        rw [ih]
        cases filterEvents event args before with
        | error e => rfl
        | ok found => cases filterEvents event args after <;> rfl

/-- An argument that is expected of an entry is found when what it asks of the stored value holds.
Otherwise the entry makes no difference, whatever stands around it. -/
theorem filterEvents_stored (hevent : entry.event = some event)
    (hstored : entry.args.get? key = some (.ofAbi value)) (hasks : EventValue.Asks value expected P)
    (before after : List LogEntry) :
    (P → filterEvents event (some (.ofList [(key, expected)])) (before ++ entry :: after) = do
        let found ← filterEvents event (some (.ofList [(key, expected)])) before
        let others ← filterEvents event (some (.ofList [(key, expected)])) after
        return found ++ entry :: others) ∧
      (¬P → filterEvents event (some (.ofList [(key, expected)])) (before ++ entry :: after) =
        filterEvents event (some (.ofList [(key, expected)])) (before ++ after)) := by
  obtain ⟨verdict, hmatches, hverdict⟩ := EventValue.matches_ofAbi hasks
  have hsatisfies : entry.satisfies event (some (.ofList [(key, expected)])) = .ok verdict :=
    (LogEntry.satisfies_single hevent hstored).trans hmatches
  constructor
  · intro hP
    rw [hverdict.mpr hP] at hsatisfies
    rw [filterEvents_append, filterEvents, hsatisfies]
    cases filterEvents event (some (.ofList [(key, expected)])) before with
    | error e => rfl
    | ok found =>
      cases filterEvents event (some (.ofList [(key, expected)])) after <;> rfl
  · intro hP
    rw [Bool.eq_false_iff.mpr (mt hverdict.mp hP)] at hsatisfies
    rw [filterEvents_append, filterEvents_append, filterEvents, hsatisfies]

/-! ## A payment -/

section Payment

/-- A payment is logged with the account that is paid. -/
def paymentTo (payee : Address) : LogEntry :=
  ⟨.zero, some "Paid", .ofList [("to", .ofAbi (.address payee))]⟩

/-- The payee of the payment is found under its key. -/
theorem get?_paymentTo (payee : Address) :
    (paymentTo payee).args.get? "to" = some (.ofAbi (.address payee)) :=
  OrderedMap.get?_insert_self ∅ "to" _

/-- Payments to an account are found by its number. -/
theorem filterEvents_paymentTo :
    filterEvents "Paid" (some (.ofList [("to", .big (.ofNat 0xabcdef))]))
        [paymentTo (.ofNat 0xabcdef), paymentTo .zero] =
      .ok [paymentTo (.ofNat 0xabcdef)] := by
  have hpaid : (BigNumber.ofNat 0xabcdef).toInt = (Address.ofNat 0xabcdef).toNat := by decide
  have hother : (BigNumber.ofNat 0xabcdef).toInt ≠ Address.zero.toNat := by decide
  have hfound := (filterEvents_stored rfl (get?_paymentTo _) (.addressBig _ _) []
    [paymentTo .zero]).1 hpaid
  have hrest := (filterEvents_stored rfl (get?_paymentTo _) (.addressBig _ _) [] []).2 hother
  rw [List.nil_append] at hfound hrest
  rw [hfound, hrest]
  rfl

end Payment

end ContractHarness
