import ContractHarness.Abi.Selection

/-!
# Selection of overloaded functions

A function of an interface can be selected in three ways: by its name and the number of arguments,
by its name alone, and by its signature. The first two never choose: they select a function only
where no other one could be meant. The third takes the first function with the signature, and of
several functions with one signature it does not matter which is taken, because they have the same
selector. So all three lead to one selector wherever they select at all.
-/

set_option autoImplicit false

namespace ContractHarness

variable {abi : Interface} {method text name : String} {count : Nat} {m f : Method}

/-- The signature of a function has the shape of a signature. -/
theorem Method.isSignature_signature (m : Method) : isSignature m.signature = true := by
  unfold isSignature Method.signature signatureOf
  simp

namespace Interface

/-- One function of the interface satisfies the condition, and this is it. -/
def HasOnly (abi : Interface) (p : Method → Prop) (m : Method) : Prop :=
  ∃ before after, abi.methods = before ++ m :: after ∧ p m ∧ ∀ f ∈ before ++ after, ¬ p f

/-- The function has a name and takes a number of arguments. -/
def Takes (name : String) (count : Nat) (f : Method) : Prop :=
  f.name = name ∧ f.inputs.length = count

/-- A function can be checked for a name and a number of arguments. -/
instance (name : String) (count : Nat) (f : Method) : Decidable (Takes name count f) :=
  inferInstanceAs (Decidable (_ ∧ _))

/-- A filter leaves one function exactly when the interface has only this one. -/
theorem filter_eq_singleton_iff {p : Method → Prop} [DecidablePred p] :
    (abi.methods.filter fun f => decide (p f)) = [m] ↔ abi.HasOnly p m := by
  rw [List.filter_eq_cons_iff]
  constructor
  · rintro ⟨before, after, hmethods, hbefore, hm, hafter⟩
    rw [List.filter_eq_nil_iff] at hafter
    refine ⟨before, after, hmethods, by simpa using hm, fun f hf => ?_⟩
    rcases List.mem_append.mp hf with hf | hf
    · simpa using hbefore f hf
    · simpa using hafter f hf
  · rintro ⟨before, after, hmethods, hm, hothers⟩
    refine ⟨before, after, hmethods, fun f hf => ?_, by simpa using hm, ?_⟩
    · simpa using hothers f (List.mem_append_left _ hf)
    · rw [List.filter_eq_nil_iff]
      intro f hf
      simpa using hothers f (List.mem_append_right _ hf)

/-- The only function with a condition is a function of the interface. -/
theorem HasOnly.mem {p : Method → Prop} (h : abi.HasOnly p m) : m ∈ abi.methods := by
  obtain ⟨before, after, hmethods, -⟩ := h
  rw [hmethods]
  exact List.mem_append_right _ List.mem_cons_self

/-- The only function with a condition has it. -/
theorem HasOnly.holds {p : Method → Prop} (h : abi.HasOnly p m) : p m := by
  obtain ⟨-, -, -, hm, -⟩ := h
  exact hm

/-- Every function with the condition is the only one. -/
theorem HasOnly.eq {p : Method → Prop} (h : abi.HasOnly p m) (hf : f ∈ abi.methods) (hp : p f) :
    f = m := by
  obtain ⟨before, after, hmethods, -, hothers⟩ := h
  rw [hmethods] at hf
  rcases List.mem_append.mp hf with hf | hf
  · exact absurd hp (hothers f (List.mem_append_left _ hf))
  · rcases List.mem_cons.mp hf with rfl | hf
    · rfl
    · exact absurd hp (hothers f (List.mem_append_right _ hf))

/-! ## By name and number of arguments -/

/-- How the selection by a name and a number of arguments ends. -/
inductive SelectsNamed (abi : Interface) (name : String) (count : Nat) :
    Except SelectError Method → Prop where
  | absent (unnamed : ∀ f ∈ abi.methods, f.name ≠ name) :
    SelectsNamed abi name count (.error (.noName name))
  | untaken (named : ∃ f ∈ abi.methods, f.name = name)
    (none : ∀ f ∈ abi.methods, ¬ Takes name count f) :
    SelectsNamed abi name count (.error (.noOverload name count))
  | only {m : Method} (only : abi.HasOnly (Takes name count) m) :
    SelectsNamed abi name count (.ok m)
  | several (two : 2 ≤ abi.methods.countP (Takes name count)) :
    SelectsNamed abi name count (.error (.ambiguous name count))

/-- A name has no overloads exactly when no function has the name. -/
theorem overloads_eq_nil_iff : abi.overloads name = [] ↔ ∀ f ∈ abi.methods, f.name ≠ name := by
  unfold overloads
  rw [List.filter_eq_nil_iff]
  simp

/-- The overloads that take a number of arguments are the functions with both the name and the
number. -/
theorem filter_overloads :
    (abi.overloads name).filter (·.inputs.length = count) =
      abi.methods.filter (Takes name count) := by
  unfold overloads
  rw [List.filter_filter]
  congr 1
  funext f
  rw [Bool.and_comm, ← Bool.decide_and]
  rfl

/-- The selection by a name and a number of arguments ends in one of the four ways, each with its
condition. -/
theorem selectsNamed (h : isSignature name = false) :
    SelectsNamed abi name count (abi.select name count) := by
  unfold select
  rw [if_neg (by simp [h])]
  split
  · next hnone => exact .absent (overloads_eq_nil_iff.mp hnone)
  · next hsome =>
    have hnamed : ∃ f ∈ abi.methods, f.name = name := by
      rw [overloads_eq_nil_iff] at hsome
      simpa using hsome
    rw [filter_overloads]
    split
    · next hone => exact .only (filter_eq_singleton_iff.mp hone)
    · next hnil =>
      rw [List.filter_eq_nil_iff] at hnil
      exact .untaken hnamed fun f hf => by simpa using hnil f hf
    · next hnotOne hnotNil =>
      refine .several ?_
      rw [List.countP_eq_length_filter]
      generalize abi.methods.filter (Takes name count) = taking at hnotOne hnotNil
      match taking, hnotOne, hnotNil with
      | [], _, hnotNil => exact absurd rfl hnotNil
      | [m], hnotOne, _ => exact absurd rfl (hnotOne m)
      | _ :: _ :: _, _, _ => exact Nat.le_add_left 2 _

/-- The only function of a name and a number of arguments is counted once. -/
theorem HasOnly.countP_eq_one (h : abi.HasOnly (Takes name count) m) :
    abi.methods.countP (Takes name count) = 1 := by
  rw [List.countP_eq_length_filter, filter_eq_singleton_iff.mpr h]
  rfl

/-- A name and a number of arguments select a function exactly when it is the only one that they
fit. -/
theorem select_ok_iff (h : isSignature name = false) :
    abi.select name count = .ok m ↔ abi.HasOnly (Takes name count) m := by
  have hselects := @selectsNamed abi name count h
  generalize abi.select name count = result at hselects
  cases hselects with
  | absent unnamed => exact iff_of_false nofun fun honly => unnamed m honly.mem honly.holds.1
  | untaken named none => exact iff_of_false nofun fun honly => none m honly.mem honly.holds
  | only only =>
    rw [Except.ok.injEq]
    constructor
    · rintro rfl
      exact only
    · intro honly
      exact honly.eq only.mem only.holds
  | several two =>
    refine iff_of_false nofun fun honly => ?_
    rw [honly.countP_eq_one] at two
    omega

/-- A selection by name is refused in three cases, which its message tells apart. -/
theorem select_error_iff (h : isSignature name = false) {e : SelectError} :
    abi.select name count = .error e ↔
      (e = .noName name ∧ ∀ f ∈ abi.methods, f.name ≠ name) ∨
      (e = .noOverload name count ∧ (∃ f ∈ abi.methods, f.name = name) ∧
        ∀ f ∈ abi.methods, ¬ Takes name count f) ∨
      (e = .ambiguous name count ∧ 2 ≤ abi.methods.countP (Takes name count)) := by
  have hselects := @selectsNamed abi name count h
  generalize abi.select name count = result at hselects
  -- the three cases and a selection exclude each other, by how many functions fit
  have hzero : (∀ f ∈ abi.methods, ¬ Takes name count f) →
      ¬ 2 ≤ abi.methods.countP (Takes name count) := by
    intro hnone
    rw [List.countP_eq_zero.mpr (by simpa using hnone)]
    omega
  cases hselects with
  | absent unnamed =>
    have hnone : ∀ f ∈ abi.methods, ¬ Takes name count f := fun f hf htakes =>
      unnamed f hf htakes.1
    have hnamed : ¬ ∃ f ∈ abi.methods, f.name = name := by simpa using unnamed
    rw [Except.error.injEq, eq_comm]
    constructor
    · intro he
      exact .inl ⟨he, unnamed⟩
    · rintro (⟨he, -⟩ | ⟨-, named, -⟩ | ⟨-, two⟩)
      · exact he
      · exact absurd named hnamed
      · exact absurd two (hzero hnone)
  | untaken named none =>
    have hunnamed : ¬ ∀ f ∈ abi.methods, f.name ≠ name := by simpa using named
    rw [Except.error.injEq, eq_comm]
    constructor
    · intro he
      exact .inr (.inl ⟨he, named, none⟩)
    · rintro (⟨-, unnamed⟩ | ⟨he, -, -⟩ | ⟨-, two⟩)
      · exact absurd unnamed hunnamed
      · exact he
      · exact absurd two (hzero none)
  | @only m only =>
    have hunnamed : ¬ ∀ f ∈ abi.methods, f.name ≠ name := fun h =>
      h m only.mem only.holds.1
    have hnone : ¬ ∀ f ∈ abi.methods, ¬ Takes name count f := fun h => h m only.mem only.holds
    have hone : ¬ 2 ≤ abi.methods.countP (Takes name count) := by
      rw [only.countP_eq_one]
      omega
    refine iff_of_false nofun ?_
    rintro (⟨-, unnamed⟩ | ⟨-, -, none⟩ | ⟨-, two⟩)
    · exact hunnamed unnamed
    · exact hnone none
    · exact hone two
  | several two =>
    have hnone : ¬ ∀ f ∈ abi.methods, ¬ Takes name count f := fun h => hzero h two
    have hunnamed : ¬ ∀ f ∈ abi.methods, f.name ≠ name := fun h =>
      hnone fun f hf htakes => h f hf htakes.1
    rw [Except.error.injEq, eq_comm]
    constructor
    · intro he
      exact .inr (.inr ⟨he, two⟩)
    · rintro (⟨-, unnamed⟩ | ⟨-, -, none⟩ | ⟨he, -⟩)
      · exact absurd unnamed hunnamed
      · exact absurd none hnone
      · exact he

/-! ## By signature -/

/-- A text with the shape of a signature selects by the signature, whatever the number of arguments
is. -/
theorem select_signature (h : isSignature text = true) :
    abi.select text count = abi.ofSignature text := by
  unfold select
  rw [if_pos h]

/-- A text with the shape of a signature has the selector of the function that has the signature. -/
theorem selectorBy_signature (hash : Bytes → Hash) (h : isSignature text = true) :
    abi.selectorBy hash text = (abi.ofSignature text).map fun m => .ofText hash m.signature := by
  unfold selectorBy
  rw [if_pos h]

/-- What a signature leads to is a function of the interface with this signature. -/
theorem ofSignature_ok (h : abi.ofSignature text = .ok f) :
    f ∈ abi.methods ∧ f.signature = text := by
  unfold ofSignature at h
  split at h
  · next hfind =>
    cases h
    exact ⟨List.mem_of_find?_eq_some hfind, by simpa using List.find?_some hfind⟩
  · cases h

/-- The signature of a function of the interface leads to some function. -/
theorem exists_ofSignature (h : f ∈ abi.methods) : ∃ g, abi.ofSignature f.signature = .ok g := by
  unfold ofSignature
  split
  · next g _ => exact ⟨g, rfl⟩
  · next hfind => exact absurd (by simp) (List.find?_eq_none.mp hfind f h)

/-- Functions of one signature have one selector. -/
theorem selector_eq_of_signature_eq (h : f.signature = m.signature) : f.selector = m.selector := by
  unfold Method.selector
  rw [h]

/-- The signature of a function selects the function, or another one of the same signature. -/
theorem select_signature_of_mem (h : f ∈ abi.methods) (other : Nat) :
    ∃ g, abi.select f.signature other = .ok g ∧ g.signature = f.signature ∧
      g.selector = f.selector := by
  obtain ⟨g, hg⟩ := exists_ofSignature h
  have hsignature : g.signature = f.signature := (ofSignature_ok hg).2
  exact ⟨g, by rw [select_signature f.isSignature_signature, hg], hsignature,
    selector_eq_of_signature_eq hsignature⟩

/-- The signature of a function of the interface has a selector under any hash, that of its text. -/
theorem selectorBy_signature_of_mem (hash : Bytes → Hash) (h : f ∈ abi.methods) :
    abi.selectorBy hash f.signature = .ok (.ofText hash f.signature) := by
  obtain ⟨g, hg⟩ := exists_ofSignature h
  rw [selectorBy_signature hash f.isSignature_signature, hg]
  exact congrArg (fun signature => Except.ok (Selector.ofText hash signature)) (ofSignature_ok hg).2

/-- The signature of a function of the interface leads to the selector of the function. -/
theorem selector_signature_of_mem (h : f ∈ abi.methods) :
    abi.selector f.signature = .ok f.selector :=
  selectorBy_signature_of_mem keccak256 h

/-! ## By name alone -/

/-- A name by itself has a selector exactly when one function has the name, and it is the one of
that function. -/
theorem selector_name_ok_iff (h : isSignature name = false) {s : Selector} :
    abi.selector name = .ok s ↔ ∃ m, abi.HasOnly (·.name = name) m ∧ m.selector = s := by
  unfold selector selectorBy
  rw [if_neg (by simp [h])]
  split
  · next hnone =>
    refine iff_of_false nofun ?_
    rintro ⟨m, honly, -⟩
    exact overloads_eq_nil_iff.mp hnone m honly.mem honly.holds
  · next m hone =>
    have honly : abi.HasOnly (·.name = name) m := filter_eq_singleton_iff.mp hone
    rw [Except.ok.injEq]
    constructor
    · intro hs
      exact ⟨m, honly, hs⟩
    · rintro ⟨f, hf, hs⟩
      rwa [honly.eq hf.mem hf.holds] at hs
  · next hnotOne =>
    -- several functions of the name
    refine iff_of_false nofun ?_
    rintro ⟨m, honly, -⟩
    exact hnotOne m (filter_eq_singleton_iff.mpr honly)

/-- The only function of a name is selected by the name with the number of its inputs, and with no
other number. -/
theorem HasOnly.select_iff (h : isSignature name = false) (honly : abi.HasOnly (·.name = name) m) :
    abi.select name count = .ok f ↔ count = m.inputs.length ∧ f = m := by
  rw [select_ok_iff h]
  constructor
  · intro hf
    obtain rfl : f = m := honly.eq hf.mem hf.holds.1
    exact ⟨hf.holds.2.symm, rfl⟩
  · rintro ⟨rfl, rfl⟩
    obtain ⟨before, after, hmethods, hname, hothers⟩ := honly
    exact ⟨before, after, hmethods, ⟨hname, rfl⟩, fun g hg htakes => hothers g hg htakes.1⟩

/-! ## The three of them together -/

/-- The ways to select a function of an interface agree. -/
structure SelectsAlike (abi : Interface) : Prop where
  /-- A name and a count select the only function that they fit, and its signature leads back to its
  selector, whatever the count. -/
  byName {name : String} {count : Nat} {f : Method} : isSignature name = false →
    abi.select name count = .ok f →
      abi.HasOnly (Takes name count) f ∧ abi.selector f.signature = .ok f.selector ∧
      ∀ other, ∃ g, abi.select f.signature other = .ok g ∧ g.signature = f.signature ∧
        g.selector = f.selector
  refused {name : String} {count : Nat} : isSignature name = false →
    ((∃ e, abi.select name count = .error e) ↔
      (∀ f ∈ abi.methods, f.name ≠ name) ∨
      ((∃ f ∈ abi.methods, f.name = name) ∧ ∀ f ∈ abi.methods, ¬ Takes name count f) ∨
      2 ≤ abi.methods.countP (Takes name count))
  /-- The three cases in which nothing is selected are told apart. -/
  reason {name : String} {count : Nat} {e : SelectError} : isSignature name = false →
    abi.select name count = .error e →
      (e = .noName name ∧ ∀ f ∈ abi.methods, f.name ≠ name) ∨
      (e = .noOverload name count ∧ (∃ f ∈ abi.methods, f.name = name) ∧
        ∀ f ∈ abi.methods, ¬ Takes name count f) ∨
      (e = .ambiguous name count ∧ 2 ≤ abi.methods.countP (Takes name count))
  /-- A name that has a selector by itself names one function, which one count selects. -/
  byNameAlone {name : String} {s : Selector} : isSignature name = false →
    abi.selector name = .ok s →
      ∃ m, abi.HasOnly (·.name = name) m ∧ m.selector = s ∧
        ∀ count f, abi.select name count = .ok f ↔ count = m.inputs.length ∧ f = m
  /-- A signature selects where a function has it, and nothing but a function that has it. -/
  bySignature {text : String} (count : Nat) : isSignature text = true →
    ((∃ f, abi.select text count = .ok f) ↔ ∃ f ∈ abi.methods, f.signature = text) ∧
    ∀ f, abi.select text count = .ok f → f ∈ abi.methods ∧ f.signature = text

/-- In every interface, the selection by name and count, the selector of a name and the signature
agree: each leads to the same function wherever it leads to one, and says in which way it does not
lead to one. -/
theorem selectsAlike (abi : Interface) : abi.SelectsAlike where
  byName := by
    intro name count f hname hselect
    have honly := (select_ok_iff hname).mp hselect
    exact ⟨honly, selector_signature_of_mem honly.mem, select_signature_of_mem honly.mem⟩
  refused := by
    intro name count hname
    simp only [select_error_iff hname]
    constructor
    · rintro ⟨e, ⟨-, unnamed⟩ | ⟨-, untaken⟩ | ⟨-, two⟩⟩
      · exact .inl unnamed
      · exact .inr (.inl untaken)
      · exact .inr (.inr two)
    · rintro (unnamed | untaken | two)
      · exact ⟨.noName name, .inl ⟨rfl, unnamed⟩⟩
      · exact ⟨.noOverload name count, .inr (.inl ⟨rfl, untaken⟩)⟩
      · exact ⟨.ambiguous name count, .inr (.inr ⟨rfl, two⟩)⟩
  reason := by
    intro name count e hname hselect
    exact (select_error_iff hname).mp hselect
  byNameAlone := by
    intro name s hname hselector
    obtain ⟨m, honly, hs⟩ := (selector_name_ok_iff hname).mp hselector
    exact ⟨m, honly, hs, fun count f => honly.select_iff hname⟩
  bySignature := by
    intro text count htext
    rw [select_signature htext]
    refine ⟨⟨?_, ?_⟩, fun f hf => ofSignature_ok hf⟩
    · rintro ⟨f, hf⟩
      exact ⟨f, ofSignature_ok hf⟩
    · rintro ⟨f, hf, rfl⟩
      exact exists_ofSignature hf

/-- An interface with two functions of one name, which take one and two numbers. -/
def mints : Interface :=
  ⟨none, [⟨"mint", [⟨"", "uint8", [], false⟩], []⟩,
    ⟨"mint", [⟨"", "uint8", [], false⟩, ⟨"", "uint8", [], false⟩], []⟩], []⟩

/-- Of two functions of one name, a count selects one, whose signature has its selector, and the
name alone and another count select none. -/
theorem selectsAlike_mints :
    ∃ f, mints.select "mint" 2 = .ok f ∧ mints.selector "mint(uint8,uint8)" = .ok f.selector ∧
      mints.selector "mint" = .error (.overloaded "mint") ∧
      mints.select "mint" 3 = .error (.noOverload "mint" 3) := by
  have htwo : mints.select "mint" 2 = .ok mints.methods[1] := rfl
  have hsignature : Method.signature mints.methods[1] = "mint(uint8,uint8)" := by decide
  obtain ⟨-, hselector, -⟩ := (selectsAlike mints).byName (by decide) htwo
  rw [hsignature] at hselector
  exact ⟨_, htwo, hselector, rfl, rfl⟩

end Interface

end ContractHarness
