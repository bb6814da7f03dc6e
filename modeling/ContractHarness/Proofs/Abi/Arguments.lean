import ContractHarness.Proofs.Abi.Literal
import ContractHarness.Proofs.Except

/-!
# Arguments for parameters

Parameters admit values when there is one value for each of them and its type is that of the
parameter. `encodeAll_ok_iff` says that the encoder asks for this and for nothing else, and
`admit_of_coerceAll` that texts which are read as arguments give such values, so that what was read
is never refused by the encoder. Texts that are not read are refused for one reason: their number
when it is wrong, and otherwise the first parameter, in order, of which the type is unknown or the
text is no literal.
-/

set_option autoImplicit false

namespace ContractHarness

/-- There is one value for each parameter, and it is of the type of the parameter. -/
structure Param.Admit (params : List Param) (values : List AbiValue) : Prop where
  count : params.length = values.length
  each : ∀ p ∈ params.zip values, ∃ type, p.1.resolve? = some type ∧ OfType type p.2

/-- The values are arguments for the constructor. Without a constructor there are none. -/
def Interface.Constructs (abi : Interface) (args : List AbiValue) : Prop :=
  match abi.constructor? with
  | some inputs => Param.Admit inputs args
  | none => args = []

namespace Param

open ContractHarness.Except (bind_ok_iff map_ok_iff)

variable {param : Param} {params : List Param} {value : AbiValue} {values : List AbiValue}
  {text : String} {texts : List String}

/-- Without parameters only the empty list of values is admitted. -/
theorem admit_nil_iff : Admit [] values ↔ values = [] := by
  constructor
  · intro h
    exact List.eq_nil_of_length_eq_zero h.count.symm
  · rintro rfl
    exact ⟨rfl, fun p hp => absurd hp List.not_mem_nil⟩

/-- Parameters admit values when the first admits the first, and the others the others. -/
theorem admit_cons_iff : Admit (param :: params) (value :: values) ↔
    (∃ type, param.resolve? = some type ∧ OfType type value) ∧ Admit params values := by
  constructor
  · rintro ⟨hcount, heach⟩
    rw [List.zip_cons_cons, List.forall_mem_cons] at heach
    exact ⟨heach.1, Nat.succ.inj hcount, heach.2⟩
  · rintro ⟨hfirst, hcount, heach⟩
    refine ⟨congrArg (· + 1) hcount, ?_⟩
    rw [List.zip_cons_cons, List.forall_mem_cons]
    exact ⟨hfirst, heach⟩

/-- Parameters that admit values have types, and these accept the values. -/
theorem Admit.resolved (h : Admit params values) :
    ∃ types, resolveAll? params = some types ∧ AbiType.acceptsAll types values = true := by
  induction params generalizing values with
  | nil =>
    obtain rfl := admit_nil_iff.mp h
    exact ⟨[], rfl, rfl⟩
  | cons param params ih =>
    cases values with
    | nil => cases h.count
    | cons value values =>
      obtain ⟨⟨type, htype, hvalue⟩, hrest⟩ := admit_cons_iff.mp h
      obtain ⟨types, htypes, haccepts⟩ := ih hrest
      refine ⟨type :: types, ?_, ?_⟩
      · rw [resolveAll?, htype, htypes]
      · rw [AbiType.acceptsAll, AbiType.accepts_iff_ofType.mpr hvalue, haccepts]
        rfl

/-! ## Encoding -/

/-- Among as many values as parameters, the check passes exactly those that are admitted. -/
theorem checkAll_ok_iff (hcount : params.length = values.length) :
    checkAll params values = .ok () ↔ Admit params values := by
  induction params generalizing values with
  | nil =>
    obtain rfl := List.eq_nil_of_length_eq_zero hcount.symm
    exact iff_of_true rfl (admit_nil_iff.mpr rfl)
  | cons param params ih =>
    cases values with
    | nil => cases hcount
    | cons value values =>
      rw [checkAll, admit_cons_iff, ← ih (Nat.succ.inj hcount)]
      cases param.resolve? with
      | none => simp
      | some type =>
        cases haccepts : type.accepts value with
        | true => simp [haccepts, AbiType.accepts_iff_ofType.mp haccepts]
        | false =>
          have hother : ¬ OfType type value := by
            rw [← AbiType.accepts_iff_ofType, haccepts]
            exact Bool.false_ne_true
          simp [haccepts, hother]

/-- Values are encoded exactly when they are admitted, and then as a sequence. -/
theorem encodeAll_ok_iff {encoded : Bytes} : encodeAll params values = .ok encoded ↔
    Admit params values ∧ encoded = AbiValue.encodeSequence values := by
  unfold encodeAll
  by_cases hcount : params.length = values.length
  · rw [if_neg (by simpa using hcount), ← checkAll_ok_iff hcount, map_ok_iff]
    constructor
    · rintro ⟨u, hchecked, rfl⟩
      exact ⟨hchecked, rfl⟩
    · rintro ⟨hchecked, rfl⟩
      exact ⟨(), hchecked, rfl⟩
  · rw [if_pos hcount]
    refine iff_of_false nofun ?_
    rintro ⟨hadmits, -⟩
    exact hcount hadmits.count

/-! ## Texts -/

/-- A text is read as an argument when the type of the parameter is known and the text is a literal
of it. -/
theorem coerce_ok_iff : param.coerce text = .ok value ↔
    ∃ type, param.resolve? = some type ∧ Literal.read? type text = some value := by
  unfold coerce
  cases param.resolve? with
  | none => simp
  | some type => cases hread : Literal.read? type text <;> simp [hread]

/-- A text is refused when the type of the parameter is unknown or the text is no literal of it, and
the error says which. -/
theorem coerce_error_iff {e : CoerceError} : param.coerce text = .error e ↔
    (param.resolve? = none ∧ e = .unresolved param.name) ∨
      ∃ type, param.resolve? = some type ∧ Literal.read? type text = none ∧
        e = .unreadable text param.typeText := by
  unfold coerce
  cases param.resolve? with
  | none => simp [eq_comm]
  | some type => cases hread : Literal.read? type text <;> simp [hread, eq_comm]

/-- The reader of texts takes one pair of a parameter and a text after the other. -/
theorem coerceEach_eq_mapM :
    coerceEach params texts = (params.zip texts).mapM fun p => p.1.coerce p.2 := by
  induction params generalizing texts with
  | nil => rfl
  | cons param params ih =>
    cases texts with
    | nil => rfl
    | cons text texts =>
      rw [coerceEach, ih, List.zip_cons_cons, List.mapM_cons]

/-- What was read is one value for each parameter, which fits its type. -/
theorem coerceAll_ok (h : coerceAll params texts = .ok values) :
    params.length = values.length ∧
      ∀ p ∈ params.zip values, ∃ type, p.1.resolve? = some type ∧ FitsType type p.2 := by
  unfold coerceAll at h
  split at h
  · cases h
  next hcount =>
  replace hcount : params.length = texts.length := by simpa using hcount
  -- texts and values are consumed with the parameters
  induction params generalizing texts values with
  | nil =>
    obtain rfl := List.eq_nil_of_length_eq_zero hcount.symm
    cases h
    exact ⟨rfl, fun p hp => absurd hp List.not_mem_nil⟩
  | cons param params ih =>
    cases texts with
    | nil => cases hcount
    | cons text texts =>
      rw [coerceEach] at h
      obtain ⟨value, hvalue, h⟩ := bind_ok_iff.mp h
      obtain ⟨others, hothers, h⟩ := bind_ok_iff.mp h
      cases h
      obtain ⟨type, htype, hread⟩ := coerce_ok_iff.mp hvalue
      obtain ⟨hlength, heach⟩ := ih hothers (Nat.succ.inj hcount)
      refine ⟨congrArg (· + 1) hlength, ?_⟩
      rw [List.zip_cons_cons, List.forall_mem_cons]
      exact ⟨⟨type, htype, Literal.fitsType_of_read? hread⟩, heach⟩

/-- What texts are read as is admitted by the parameters. -/
theorem admit_of_coerceAll (h : coerceAll params texts = .ok values) : Admit params values := by
  obtain ⟨hcount, heach⟩ := coerceAll_ok h
  refine ⟨hcount, fun p hp => ?_⟩
  obtain ⟨type, htype, hfits⟩ := heach p hp
  exact ⟨type, htype, hfits.ofType⟩

/-- The number of the texts is looked at first, and then one parameter after the other. -/
theorem coerceAll_error_iff {e : CoerceError} : coerceAll params texts = .error e ↔
    (params.length ≠ texts.length ∧ e = .count params.length texts.length) ∨
      (params.length = texts.length ∧
        ∃ before p after, params.zip texts = before ++ p :: after ∧
          (∀ q ∈ before, ∃ value, q.1.coerce q.2 = .ok value) ∧ p.1.coerce p.2 = .error e) := by
  unfold coerceAll
  by_cases hcount : params.length = texts.length
  · rw [if_neg (by simpa using hcount), coerceEach_eq_mapM, Except.mapM_error_iff]
    simp [hcount]
  · rw [if_pos hcount]
    simp [hcount, eq_comm]

end Param

end ContractHarness
