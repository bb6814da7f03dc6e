import ContractHarness.Proofs.BigNumber.Checksum
import ContractHarness.Proofs.Except
import ContractHarness.Rehearsal.Contract
import ContractHarness.Reversion

/-!
# What is compared when numbers are compared

A value of any kind that can be compared denotes an integer, or none. Converting it gives the number
of that integer, and fails exactly when there is no such number. `expectNumbersEqual` compares the
decimal forms of two numbers and `Callable.numberIs` the numbers themselves; since a number is
canonical, both compare the integers. They differ in what they make of a value that cannot be
converted: for the first it is an error of the test, for the second the assertion has failed.
-/

set_option autoImplicit false

namespace ContractHarness

variable {σ ε : Type}

namespace BigNumber

/-- The integer that a numeral denotes. -/
def Numeral.toInt (m : Numeral) : Int :=
  if m.negative then -(m.value : Int) else m.value

/-- A text is read as the number of an integer when it is a numeral of the integer, with blanks
around it. -/
theorem read_ok_iff_toInt {text : String} {n : BigNumber} :
    read text = .ok n ↔ ∃ m : Numeral, m.IsIn text ∧ m.toInt = n.toInt := by
  have hnumber {m : Numeral} (h : m.value < Word.size) : m.number.toInt = m.toInt := by
    rw [Numeral.number, toInt_ofSign, Word.toNat_ofNat_of_lt h, Numeral.toInt]
  rw [read_ok_iff_number]
  constructor
  · rintro ⟨m, hin, hlimit, rfl⟩
    exact ⟨m, hin, (hnumber hlimit).symm⟩
  · rintro ⟨m, hin, hinteger⟩
    have hvalue : m.value = n.magnitude.toNat := by
      have hmagnitude := n.natAbs_toInt
      rw [← hinteger, Numeral.toInt] at hmagnitude
      split at hmagnitude <;> omega
    have hlimit : m.value < Word.size := by
      rw [hvalue]
      exact n.magnitude.toNat_lt_size
    exact ⟨m, hin, hlimit, toInt_inj.mp (by rw [hnumber hlimit, hinteger])⟩

/-- A number that is made from an integer is the only one that denotes it. -/
theorem Made.ok_iff {a n : BigNumber} {z : Int} (h : Made a z) :
    (Except.ok a : Except ε BigNumber) = .ok n ↔ z = n.toInt := by
  rw [Except.ok.injEq, ← h.toInt_eq, toInt_inj]

end BigNumber

/-! ## Conversions -/

namespace Numeric

open BigNumber (Numeral)

/-- The value denotes the integer: a number of any width its own, an address that of its bits, and
a text that of the numeral in it. -/
inductive Denotes : Numeric → Int → Prop
  | text {text : String} {m : Numeral} (h : m.IsIn text) : Denotes (.text text) m.toInt
  | int32 (value : Int32) : Denotes (.int32 value) value.toInt
  | int64 (value : Int64) : Denotes (.int64 value) value.toInt
  | uint32 (value : UInt32) : Denotes (.uint32 value) value.toNat
  | uint64 (value : UInt64) : Denotes (.uint64 value) value.toNat
  | uint128 (value : BitVec 128) : Denotes (.uint128 value) value.toNat
  | uint256 (value : Word) : Denotes (.uint256 value) value.toNat
  | int256 (value : Word) : Denotes (.int256 value) value.toInt
  | big (value : BigNumber) : Denotes (.big value) value.toInt
  | address (value : Address) : Denotes (.address value) value.toNat
  | eventNumber (value : Int64) : Denotes (.event (.number value)) value.toInt
  | eventBig (value : BigNumber) : Denotes (.event (.big value)) value.toInt
  | eventText {text : String} {m : Numeral} (h : m.IsIn text) :
    Denotes (.event (.text text)) m.toInt
  | abiUint (bits : Nat) (word : Word) : Denotes (.abi (.uint bits word)) word.toNat
  | abiInt (bits : Nat) (word : Word) : Denotes (.abi (.int bits word)) word.toInt
  | abiAddress (value : Address) : Denotes (.abi (.address value)) value.toNat
  | abiString {text : String} {m : Numeral} (h : m.IsIn text) :
    Denotes (.abi (.string text)) m.toInt

variable {x y : Numeric} {m n : BigNumber} {z : Int}

/-- A value that is converted denotes the integer of the number that it becomes. -/
theorem denotes_of_toNumber (h : x.toNumber = .ok n) : x.Denotes n.toInt := by
  have htext {text : String}
      (h : (BigNumber.read text).mapError EventValue.NumberError.text = .ok n) :
      ∃ m : Numeral, m.IsIn text ∧ m.toInt = n.toInt :=
    BigNumber.read_ok_iff_toInt.mp (Except.mapError_ok_iff.mp h)
  cases x with
  | text text =>
    obtain ⟨m, hin, hm⟩ := htext h
    exact hm ▸ .text hin
  | int32 value => exact (BigNumber.Made.ofInt32 value).ok_iff.mp h ▸ .int32 value
  | int64 value => exact (BigNumber.Made.ofInt64 value).ok_iff.mp h ▸ .int64 value
  | uint32 value => exact (BigNumber.Made.ofUInt32 value).ok_iff.mp h ▸ .uint32 value
  | uint64 value => exact (BigNumber.Made.ofUInt64 value).ok_iff.mp h ▸ .uint64 value
  | uint128 value => exact (BigNumber.Made.ofUInt128 value).ok_iff.mp h ▸ .uint128 value
  | uint256 value => exact (BigNumber.Made.ofWord value).ok_iff.mp h ▸ .uint256 value
  | int256 value => exact (BigNumber.Made.ofSignedWord value).ok_iff.mp h ▸ .int256 value
  | big value => exact Except.ok.inj h ▸ .big value
  | address value => exact (BigNumber.Made.ofAddress value).ok_iff.mp h ▸ .address value
  | event value =>
    cases value with
    | number value => exact (BigNumber.Made.ofInt64 value).ok_iff.mp h ▸ .eventNumber value
    | big value => exact Except.ok.inj h ▸ .eventBig value
    | text text =>
      obtain ⟨m, hin, hm⟩ := htext h
      exact hm ▸ .eventText hin
    | _ => cases h
  | abi value =>
    cases value with
    | uint bits word => exact (BigNumber.Made.ofWord word).ok_iff.mp h ▸ .abiUint bits word
    | int bits word => exact (BigNumber.Made.ofSignedWord word).ok_iff.mp h ▸ .abiInt bits word
    | address value => exact (BigNumber.Made.ofAddress value).ok_iff.mp h ▸ .abiAddress value
    | string text =>
      obtain ⟨m, hin, hm⟩ := htext h
      exact hm ▸ .abiString hin
    | _ => cases h

/-- A value that denotes the integer of a number is converted to it. -/
theorem toNumber_of_denotes (h : x.Denotes z) (hz : z = n.toInt) : x.toNumber = .ok n := by
  have htext {text : String} {m : Numeral} (hin : m.IsIn text) (hm : m.toInt = n.toInt) :
      (BigNumber.read text).mapError EventValue.NumberError.text = .ok n :=
    Except.mapError_ok_iff.mpr (BigNumber.read_ok_iff_toInt.mpr ⟨m, hin, hm⟩)
  cases h with
  | text hin | eventText hin | abiString hin => exact htext hin hz
  | int32 value => exact (BigNumber.Made.ofInt32 value).ok_iff.mpr hz
  | int64 value | eventNumber value => exact (BigNumber.Made.ofInt64 value).ok_iff.mpr hz
  | uint32 value => exact (BigNumber.Made.ofUInt32 value).ok_iff.mpr hz
  | uint64 value => exact (BigNumber.Made.ofUInt64 value).ok_iff.mpr hz
  | uint128 value => exact (BigNumber.Made.ofUInt128 value).ok_iff.mpr hz
  | uint256 word | abiUint bits word => exact (BigNumber.Made.ofWord word).ok_iff.mpr hz
  | int256 word | abiInt bits word => exact (BigNumber.Made.ofSignedWord word).ok_iff.mpr hz
  | big value | eventBig value => exact congrArg Except.ok (BigNumber.toInt_inj.mp hz)
  | address value | abiAddress value => exact (BigNumber.Made.ofAddress value).ok_iff.mpr hz

/-- A value is converted to the number of the integer that it denotes. -/
theorem toNumber_ok_iff : x.toNumber = .ok n ↔ x.Denotes n.toInt :=
  ⟨denotes_of_toNumber, fun h => toNumber_of_denotes h rfl⟩

end Numeric

/-! ## Assertions -/

variable {x y : Numeric} {m n : BigNumber} {e : NumberError} {label : Option String}
  {output : AbiValue} {outputs rest : List AbiValue} {target : Numeric} {message method : String}

/-- Two values that are converted are equal when their numbers are, and otherwise the assertion
fails with both decimals. -/
theorem expectNumbersEqual_of_ok (hx : x.toNumber = .ok m) (hy : y.toNumber = .ok n) :
    expectNumbersEqual x y label =
      if m = n then .ok ()
      else .error (.assertion (inequality label m.decimal n.decimal)) := by
  unfold expectNumbersEqual
  rw [hx, hy]
  show (if m.decimal = n.decimal then _ else _) = _
  simp only [BigNumber.decimal_inj]

/-- When the first value is not converted, the assertion ends with the error and is not about the
second. -/
theorem expectNumbersEqual_of_error (hx : x.toNumber = .error e) :
    expectNumbersEqual x y label = .error (.ofText e.message) := by
  unfold expectNumbersEqual
  rw [hx]
  rfl

/-- When only the second value is not converted, the assertion ends with its error. -/
theorem expectNumbersEqual_of_ok_error (hx : x.toNumber = .ok m) (hy : y.toNumber = .error e) :
    expectNumbersEqual x y label = .error (.ofText e.message) := by
  unfold expectNumbersEqual
  rw [hx, hy]
  rfl

/-- The assertion holds exactly for values that are converted to one integer. -/
theorem expectNumbersEqual_ok_iff : expectNumbersEqual x y label = .ok () ↔
    ∃ m n, x.toNumber = .ok m ∧ y.toNumber = .ok n ∧ m.toInt = n.toInt := by
  simp only [BigNumber.toInt_inj]
  cases hx : x.toNumber with
  | error e => simp [expectNumbersEqual_of_error hx]
  | ok m =>
    cases hy : y.toNumber with
    | error e => simp [expectNumbersEqual_of_ok_error hx hy]
    | ok n =>
      rw [expectNumbersEqual_of_ok hx hy]
      constructor
      · intro h
        split at h
        · next hsame => exact ⟨m, n, rfl, rfl, hsame⟩
        · cases h
      · rintro ⟨_, _, ⟨⟩, ⟨⟩, hsame⟩
        exact if_pos hsame

/-- The assertion fails as one exactly for values that are converted to two integers. -/
theorem expectNumbersEqual_assertion_iff :
    (∃ text, expectNumbersEqual x y label = .error (.assertion text)) ↔
      ∃ m n, x.toNumber = .ok m ∧ y.toNumber = .ok n ∧ m.toInt ≠ n.toInt := by
  simp only [ne_eq, BigNumber.toInt_inj]
  cases hx : x.toNumber with
  | error e => simp [expectNumbersEqual_of_error hx, Failure.ofText]
  | ok m =>
    cases hy : y.toNumber with
    | error e => simp [expectNumbersEqual_of_ok_error hx hy, Failure.ofText]
    | ok n => by_cases h : m = n <;> simp [expectNumbersEqual_of_ok hx hy, h]

/-- A target that is not converted fails the assertion about an output. -/
theorem outputIs_of_target_error (htarget : target.toNumber = .error e) :
    outputIs outputs target message method = .error (.assertion e.message) := by
  unfold outputIs
  rw [htarget]
  rfl

/-- A method without outputs fails the assertion about an output. -/
theorem outputIs_nil (htarget : target.toNumber = .ok n) :
    outputIs [] target message method =
      .error (.assertion s!"{method} returned no values") := by
  unfold outputIs
  rw [htarget]
  rfl

/-- An output that is not converted fails the assertion about it. -/
theorem outputIs_of_output_error (htarget : target.toNumber = .ok n)
    (houtput : output.toNumber = .error e) :
    outputIs (output :: rest) target message method = .error (.assertion e.message) := by
  unfold outputIs
  rw [htarget]
  show (do let value ← output.toNumber.mapError _; _) = _
  rw [houtput]
  rfl

/-- The first output is compared with the target when both are converted, and the others are not
looked at. -/
theorem outputIs_of_ok (htarget : target.toNumber = .ok n) (houtput : output.toNumber = .ok m) :
    outputIs (output :: rest) target message method =
      if n = m then .ok ()
      else .error (.assertion (inequality (some message) m.decimal n.decimal)) := by
  unfold outputIs
  rw [htarget]
  show (do let value ← output.toNumber.mapError _; _) = _
  rw [houtput]
  rfl

/-- The first output is compared with the target as two values are, and whatever is wrong with
either of them makes the assertion fail. -/
theorem outputIs_cases (outputs : List AbiValue) (target : Numeric) (message method : String) :
    (outputIs outputs target message method = .ok () ↔ ∃ output rest, outputs = output :: rest ∧
        expectNumbersEqual (.abi output) target none = .ok ()) ∧
      ∀ f, outputIs outputs target message method = .error f → ∃ text, f = .assertion text := by
  simp only [expectNumbersEqual_ok_iff, BigNumber.toInt_inj]
  cases htarget : target.toNumber with
  | error e => simp [outputIs_of_target_error htarget]
  | ok n =>
    cases outputs with
    | nil => simp [outputIs_nil htarget]
    | cons output rest =>
      have hvalue : (Numeric.abi output).toNumber = output.toNumber := rfl
      cases houtput : output.toNumber with
      | error e => simp [outputIs_of_output_error htarget houtput, hvalue, houtput]
      | ok m =>
        simp only [outputIs_of_ok htarget houtput]
        by_cases h : n = m <;> simp [hvalue, houtput, h, eq_comm]

variable {contract : Callable σ} {args : List AbiValue} {world : σ}

/-- When the view returns, its outputs decide the assertion. -/
theorem result_numberIs (hview : ((contract.view method args).run world).result = .ok outputs) :
    ((contract.numberIs target message method args).run world).result =
      outputIs outputs target message method := by
  unfold Callable.numberIs
  rw [Action.run_bind, Action.run_mapError, hview]
  rfl

/-- A value of any kind is converted to the number of the integer that it denotes, and to no other.
Two values are found equal exactly when both can be converted and the integers are the same, and the
assertion fails exactly when both can be and the integers differ; otherwise it ends with the error
of the first value that cannot be converted. The assertion about a view that has returned holds
exactly when the first output is found equal to the target, and fails in all other cases. -/
theorem numbersEqual_iff_denotes (x y : Numeric) (label : Option String) (contract : Callable σ)
    (target : Numeric) (message method : String) (args : List AbiValue) (world : σ) :
    (∀ (value : Numeric) (n : BigNumber), value.toNumber = .ok n ↔ value.Denotes n.toInt) ∧
      (expectNumbersEqual x y label = .ok () ↔
        ∃ m n, x.toNumber = .ok m ∧ y.toNumber = .ok n ∧ m.toInt = n.toInt) ∧
      ((∃ text, expectNumbersEqual x y label = .error (.assertion text)) ↔
        ∃ m n, x.toNumber = .ok m ∧ y.toNumber = .ok n ∧ m.toInt ≠ n.toInt) ∧
      (∀ e, x.toNumber = .error e →
        expectNumbersEqual x y label = .error (.ofText e.message)) ∧
      (∀ m e, x.toNumber = .ok m → y.toNumber = .error e →
        expectNumbersEqual x y label = .error (.ofText e.message)) ∧
      ∀ outputs, ((contract.view method args).run world).result = .ok outputs →
        let result := ((contract.numberIs target message method args).run world).result
        (result = .ok () ↔ ∃ output rest, outputs = output :: rest ∧
            expectNumbersEqual (.abi output) target none = .ok ()) ∧
          ∀ f, result = .error f → ∃ text, f = .assertion text := by
  refine ⟨fun _ _ => Numeric.toNumber_ok_iff, expectNumbersEqual_ok_iff,
    expectNumbersEqual_assertion_iff, fun _ => expectNumbersEqual_of_error,
    fun _ _ => expectNumbersEqual_of_ok_error, fun outputs hview => ?_⟩
  rw [result_numberIs hview]
  exact outputIs_cases outputs target message method

/-! ## A balance -/

section Balance

/-- A contract whose views return the least signed number of eight bits. -/
def overdrawn : Callable (List Rehearsal.Invocation) :=
  Rehearsal.Part.callable { outputs := [.int 8 (-128)] } "Account"

/-- The balance is the machine integer and the numeral of the same value. A text that is no number
is an error of its own when it is compared, and makes the assertion about the balance fail. -/
theorem numbersEqual_overdrawn :
    expectNumbersEqual (.int32 (-128)) (.text " -0x8_0\n") none = .ok () ∧
      ((overdrawn.numberIs (.int64 (-128)) "balance" "balance" []).run []).result = .ok () ∧
      expectNumbersEqual (.int32 (-128)) (.text "none") none =
        .error (.ofText "invalid BigNumber value \"none\": invalid digit: n") ∧
      ∃ text, ((overdrawn.numberIs (.text "none") "balance" "balance" []).run []).result =
        .error (.assertion text) := by
  have hview : ((overdrawn.view "balance" []).run []).result = .ok [.int 8 (-128)] := rfl
  have hmessage : (EventValue.NumberError.text (.badDigits "none" (.invalid 0x6E))).message =
      "invalid BigNumber value \"none\": invalid digit: n" := by decide +kernel
  obtain ⟨-, hequal, -, -, -, hreturned⟩ := numbersEqual_iff_denotes (.int32 (-128))
    (.text " -0x8_0\n") none overdrawn (.int64 (-128)) "balance" "balance" [] []
  obtain ⟨hbalance, -⟩ := hreturned _ hview
  obtain ⟨-, -, -, -, herror, hother⟩ := numbersEqual_iff_denotes (.int32 (-128))
    (.text "none") none overdrawn (.text "none") "balance" "balance" [] []
  obtain ⟨hfails, hassertion⟩ := hother _ hview
  rw [← hmessage]
  refine ⟨hequal.mpr ⟨_, _, rfl, rfl, by decide⟩, ?_, herror _ _ rfl rfl, ?_⟩
  · exact hbalance.mpr ⟨_, _, rfl, expectNumbersEqual_ok_iff.mpr ⟨_, _, rfl, rfl, by decide⟩⟩
  · cases hresult : ((overdrawn.numberIs (.text "none") "balance" "balance" []).run []).result with
    | ok _ =>
      obtain ⟨_, _, _, hsame⟩ := hfails.mp hresult
      obtain ⟨_, _, _, hnumber, _⟩ := expectNumbersEqual_ok_iff.mp hsame
      cases hnumber
    | error f =>
      obtain ⟨text, rfl⟩ := hassertion f hresult
      exact ⟨text, rfl⟩

end Balance

end ContractHarness
