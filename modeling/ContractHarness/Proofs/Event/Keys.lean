import ContractHarness.Event.Decoding

/-!
# The keys of arguments

An argument stands under the name of its parameter or, without a name, under its position. Names
that differ from each other and from positions keep all arguments of an event apart, and then the
arguments that have a name can be told by their keys.
-/

set_option autoImplicit false

namespace ContractHarness

/-- The text of a number is a position. -/
theorem LogEntry.isPosition_repr (n : Nat) : isPosition n.repr = true := by
  unfold isPosition
  rw [Nat.toList_repr, List.all_eq_true]
  intro c hc
  exact Nat.isDigit_of_mem_toDigits (by decide) (by decide) hc

namespace Event

variable {params : List Param} {param other : Param} {i j : Nat}

/-- Different positions have different texts. -/
theorem repr_ne (h : i ≠ j) : i.repr ≠ j.repr := by
  intro hrepr
  apply h
  have hdigits := congrArg String.toList hrepr
  rw [Nat.toList_repr, Nat.toList_repr] at hdigits
  rw [← Nat.ofDigitChars_ten_toDigits (n := i), hdigits, Nat.ofDigitChars_ten_toDigits]

/-- The key of a parameter without a name is its position. -/
theorem argumentKey_of_unnamed (h : param.name = "") (position : Nat) :
    argumentKey position param = position.repr := by
  simp [argumentKey, h]

/-- The key of a parameter with a name is the name. -/
theorem argumentKey_of_named (h : param.name ≠ "") (position : Nat) :
    argumentKey position param = param.name := by
  simp [argumentKey, String.isEmpty_iff, h]

/-- The keys of parameters at their positions. -/
def keysOf (params : List (Param × Nat)) : List String :=
  params.map fun p => argumentKey p.2 p.1

/-- The names of the parameters that have one. -/
def namesOf (params : List (Param × Nat)) : List String :=
  (params.filter fun p => p.1.name ≠ "").map fun p => p.1.name

/-- The names of parameters differ from each other and from positions. -/
structure Distinct (params : List Param) : Prop where
  apart : params.Pairwise fun a b => a.name = "" ∨ a.name ≠ b.name
  letters : ∀ param ∈ params, param.name ≠ "" → LogEntry.isPosition param.name = false

/-- Names that differ from each other and from positions still do without the first. -/
theorem Distinct.tail (h : Distinct (param :: params)) : Distinct params where
  apart := (List.pairwise_cons.mp h.apart).2
  letters := (List.forall_mem_cons.mp h.letters).2

/-- A parameter with a name has a key that is no position. -/
theorem isPosition_argumentKey
    (h : param.name ≠ "" → LogEntry.isPosition param.name = false) (position : Nat) :
    LogEntry.isPosition (argumentKey position param) = true ↔ param.name = "" := by
  by_cases hunnamed : param.name = ""
  · rw [argumentKey_of_unnamed hunnamed]
    simp [hunnamed, LogEntry.isPosition_repr]
  · rw [argumentKey_of_named hunnamed]
    simp [hunnamed, h hunnamed]

/-- Parameters have different keys at different positions. -/
theorem argumentKey_ne (hdistinct : param.name = "" ∨ param.name ≠ other.name)
    (hparam : param.name ≠ "" → LogEntry.isPosition param.name = false)
    (hother : other.name ≠ "" → LogEntry.isPosition other.name = false) (h : i ≠ j) :
    argumentKey i param ≠ argumentKey j other := by
  intro hkey
  have hboth : param.name = "" ↔ other.name = "" := by
    rw [← isPosition_argumentKey hparam i, ← isPosition_argumentKey hother j, hkey]
  by_cases hunnamed : param.name = ""
  · rw [argumentKey_of_unnamed hunnamed, argumentKey_of_unnamed (hboth.mp hunnamed)] at hkey
    exact repr_ne h hkey
  · rw [argumentKey_of_named hunnamed, argumentKey_of_named (mt hboth.mpr hunnamed)] at hkey
    exact hdistinct.resolve_left hunnamed hkey

/-- Parameters whose names differ from each other and from positions have distinct keys. -/
theorem Distinct.nodup_keysOf (h : Distinct params) (position : Nat) :
    (keysOf (params.zipIdx position)).Nodup := by
  induction params generalizing position with
  | nil => exact List.nodup_nil
  | cons param params ih =>
    have hfirst := (List.pairwise_cons.mp h.apart).1
    have hletters := List.forall_mem_cons.mp h.letters
    unfold keysOf at ih ⊢
    rw [List.zipIdx_cons, List.map_cons, List.nodup_cons]
    refine ⟨?_, ih h.tail (position + 1)⟩
    intro hmem
    obtain ⟨⟨other, i⟩, hp, hkey⟩ := List.mem_map.mp hmem
    have hother : other ∈ params := List.fst_mem_of_mem_zipIdx hp
    have hi : position + 1 ≤ i := List.le_snd_of_mem_zipIdx hp
    exact argumentKey_ne (hfirst other hother) hletters.1 (hletters.2 other hother) (by omega)
      hkey.symm

/-- The keys that are no positions are the names. -/
theorem filter_keysOf {params : List (Param × Nat)}
    (h : ∀ p ∈ params, p.1.name ≠ "" → LogEntry.isPosition p.1.name = false) :
    (keysOf params).filter (fun key => !LogEntry.isPosition key) = namesOf params := by
  induction params with
  | nil => rfl
  | cons p params ih =>
    obtain ⟨hp, hparams⟩ := List.forall_mem_cons.mp h
    have hrest := ih hparams
    have hposition := isPosition_argumentKey hp p.2
    unfold keysOf namesOf at hrest ⊢
    rw [List.map_cons]
    by_cases hunnamed : p.1.name = ""
    · have hskipped : LogEntry.isPosition (argumentKey p.2 p.1) = true := hposition.mpr hunnamed
      rw [List.filter_cons_of_neg (by simp [hskipped]), hrest,
        List.filter_cons_of_neg (by simp [hunnamed])]
    · have hkept : LogEntry.isPosition (argumentKey p.2 p.1) = false := by
        simpa [hunnamed] using hposition
      rw [List.filter_cons_of_pos (by simp [hkept]), hrest,
        List.filter_cons_of_pos (by simp [hunnamed]), List.map_cons, argumentKey_of_named hunnamed]

end Event

end ContractHarness
