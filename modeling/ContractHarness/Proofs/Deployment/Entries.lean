import ContractHarness.Deployment.Cache

/-!
# The entries of a deployment cache

What the operations of a cache do to the work in it, one statement for each operation, and the
invariant that they keep: the entry of a key is the one piece of work on that key that is not
superseded, and no work on the key was installed later. An entry that is evicted or replaced is
superseded in the same locked section, which is why neither half can hold without the other.
-/

set_option autoImplicit false

namespace ContractHarness.DeploymentCache

variable {cache : DeploymentCache} {slot other : CacheKey} {id j : Nat} {r : DeploymentRequest}

/-! ## What the operations do -/

/-- To change a piece of work changes no entry. -/
@[simp] theorem entries_update (f : Work → Work) : (cache.update id f).entries = cache.entries :=
  rfl

/-- A change of one piece of work leaves all others as they are. -/
theorem work?_update (f : Work → Work) :
    (cache.update id f).work? j = if id = j then (cache.work? j).map f else cache.work? j := by
  unfold work? update
  rw [List.getElem?_modify]
  split <;> simp

/-- Marking an entry marks the work of that entry and nothing else. -/
theorem work?_supersedeEntry :
    (cache.supersedeEntry slot).work? j =
      (cache.work? j).map fun w =>
        if cache.entries.get? slot = some j then { w with superseded := true } else w := by
  unfold supersedeEntry
  cases h : cache.entries.get? slot with
  | none => simp
  | some id =>
    simp only [supersede, work?_update, Option.some.injEq]
    by_cases hid : id = j <;> simp [hid]

/-- Marking an entry changes neither what work is about nor how far it is. -/
theorem exists_of_supersedeEntry {w : Work} (h : (cache.supersedeEntry slot).work? j = some w) :
    ∃ v, cache.work? j = some v ∧ w.request = v.request ∧ w.stage = v.stage ∧
      (v.superseded = true → w.superseded = true) := by
  rw [work?_supersedeEntry, Option.map_eq_some_iff] at h
  obtain ⟨v, hv, rfl⟩ := h
  refine ⟨v, hv, ?_⟩
  split <;> simp

/-- To mark work as superseded changes no entry. -/
@[simp] theorem entries_supersedeEntry : (cache.supersedeEntry slot).entries = cache.entries := by
  unfold supersedeEntry
  split <;> rfl

/-- To mark work as superseded adds none and takes none. -/
@[simp] theorem length_supersedeEntry :
    (cache.supersedeEntry slot).works.length = cache.works.length := by
  unfold supersedeEntry
  split
  · simp [supersede, update]
  · rfl

/-- Eviction marks the work of the entry. -/
theorem work?_evict : (cache.evict slot).work? j = (cache.supersedeEntry slot).work? j := rfl

/-- Eviction removes the entry. -/
theorem entries_evict : (cache.evict slot).entries = cache.entries.erase slot := rfl

/-- Installed work is new, and the work of the entry is marked. -/
theorem work?_install :
    (cache.install r).1.work? j =
      if j = cache.works.length then some { request := r }
      else (cache.supersedeEntry r.slot).work? j := by
  unfold install work?
  rw [List.getElem?_append]
  have hlength : (cache.supersedeEntry r.slot).works.length = cache.works.length := by simp
  rcases Nat.lt_trichotomy j cache.works.length with h | h | h
  · rw [if_pos (by omega), if_neg (by omega)]
  · rw [if_neg (by omega), if_pos h, h, hlength]
    simp
  · rw [if_neg (by omega), if_neg (by omega), List.getElem?_eq_none (by simp; omega),
      List.getElem?_eq_none (by omega)]

/-- Installed work is the entry of its key. -/
theorem entries_install :
    (cache.install r).1.entries = cache.entries.insert r.slot cache.works.length := rfl

/-- Work that is installed has the next number. -/
@[simp] theorem install_number : (cache.install r).2 = cache.works.length := rfl

/-- A request shares the work of its entry, unless it demands a new instance. -/
theorem obtain_of_entry (hentry : cache.entries.get? r.slot = some id) (hr : r.redeploy = false) :
    cache.obtain r = (cache, id) := by
  unfold obtain
  rw [hentry]
  simp [hr]

/-- Without an entry, or when a new instance is demanded, work is installed. -/
theorem obtain_of_install (h : r.redeploy = true ∨ cache.entries.get? r.slot = none) :
    cache.obtain r = cache.install r := by
  unfold obtain
  rcases h with h | h
  · split <;> simp [h]
  · rw [h]

/-- A request either shares the work of its entry or has work installed. -/
theorem obtain_cases (cache : DeploymentCache) (r : DeploymentRequest) :
    (∃ id, r.redeploy = false ∧ cache.entries.get? r.slot = some id ∧ cache.obtain r = (cache, id))
      ∨ ((r.redeploy = true ∨ cache.entries.get? r.slot = none)
        ∧ cache.obtain r = cache.install r) := by
  cases hr : r.redeploy with
  | true => exact .inr ⟨.inl rfl, obtain_of_install (.inl hr)⟩
  | false =>
    cases hentry : cache.entries.get? r.slot with
    | none => exact .inr ⟨.inr rfl, obtain_of_install (.inr hentry)⟩
    | some id => exact .inl ⟨id, rfl, rfl, obtain_of_entry hentry hr⟩

/-- Other work is as far as it was when some is obtained. -/
theorem exists_of_obtain {w : Work} (h : (cache.obtain r).1.work? j = some w)
    (hj : j ≠ (cache.obtain r).2) :
    ∃ v, cache.work? j = some v ∧ w.stage = v.stage := by
  rcases obtain_cases cache r with ⟨id, -, -, heq⟩ | ⟨-, heq⟩
  · rw [heq] at h
    exact ⟨w, h, rfl⟩
  · rw [heq] at h hj
    rw [install_number] at hj
    rw [work?_install, if_neg hj] at h
    obtain ⟨v, hv, -, hstage, -⟩ := exists_of_supersedeEntry h
    exact ⟨v, hv, hstage⟩

/-- Work has an outcome when it is settled. -/
theorem outcome?_eq_some_iff {x : Except ErrorChain Contract} :
    cache.outcome? id = some x ↔ ∃ w, cache.work? id = some w ∧ w.stage = .settled x := by
  unfold outcome?
  rw [Option.bind_eq_some_iff]
  have hstage : ∀ w : Work, w.stage.outcome? = some x ↔ w.stage = .settled x := by
    intro w
    cases w.stage <;> simp [Stage.outcome?]
  simp only [hstage]

/-- There is work under every number below the count of the works, and under no other. -/
theorem lt_of_work? {w : Work} (h : cache.work? id = some w) : id < cache.works.length :=
  (List.getElem?_eq_some_iff.mp h).1

/-! ## The invariant -/

/-- The work with a number is on the key and is not superseded. -/
def IsCurrent (cache : DeploymentCache) (slot : CacheKey) (id : Nat) : Prop :=
  ∃ w, cache.work? id = some w ∧ w.request.slot = slot ∧ w.superseded = false

/-- The entries are the work that is not superseded, and the latest on their keys. -/
structure Coherent (cache : DeploymentCache) : Prop where
  current_iff : ∀ slot id, cache.entries.get? slot = some id ↔ cache.IsCurrent slot id
  latest : ∀ id j w, cache.work? j = some w → cache.entries.get? w.request.slot = some id → j ≤ id

/-- Work is current when an entry was marked if it was before and is not of that entry. -/
theorem isCurrent_supersedeEntry :
    (cache.supersedeEntry slot).IsCurrent other id ↔
      cache.IsCurrent other id ∧ cache.entries.get? slot ≠ some id := by
  unfold IsCurrent
  simp only [work?_supersedeEntry, Option.map_eq_some_iff]
  by_cases h : cache.entries.get? slot = some id
  · simp [h]
  · simp [h]

/-- The empty cache is coherent. -/
theorem Coherent.empty : Coherent .empty := by
  constructor
  · intro slot id
    simp [IsCurrent, DeploymentCache.empty, work?]
  · intro id j w h
    simp [DeploymentCache.empty, work?] at h

/-- A piece of work is the entry of one key only. -/
theorem Coherent.slot_unique (hc : Coherent cache) (h : cache.entries.get? slot = some id)
    (h' : cache.entries.get? other = some id) : slot = other := by
  obtain ⟨w, hw, hslot, -⟩ := (hc.current_iff slot id).mp h
  obtain ⟨w', hw', hother, -⟩ := (hc.current_iff other id).mp h'
  rw [hw, Option.some.injEq] at hw'
  rw [← hslot, ← hother, hw']

/-- A cache stays coherent when work changes that keeps its request and its mark. -/
theorem Coherent.update (hc : Coherent cache) {w w' : Work} (hw : cache.work? id = some w)
    (hrequest : w'.request = w.request) (hmark : w'.superseded = w.superseded) :
    Coherent (cache.update id fun _ => w') := by
  have hwork : ∀ j v', (cache.update id fun _ => w').work? j = some v' →
      ∃ v, cache.work? j = some v ∧ v'.request = v.request ∧ v'.superseded = v.superseded := by
    intro j v' h
    rw [work?_update] at h
    split at h
    · next e =>
      subst e
      rw [hw] at h
      obtain rfl : w' = v' := by simpa using h
      exact ⟨w, hw, hrequest, hmark⟩
    · exact ⟨v', h, rfl, rfl⟩
  constructor
  · intro slot j
    rw [entries_update, hc.current_iff]
    constructor
    · rintro ⟨v, hv, hslot, hcurrent⟩
      unfold IsCurrent
      rw [work?_update, hv]
      split
      · next e =>
        subst e
        rw [hw, Option.some.injEq] at hv
        subst hv
        exact ⟨w', rfl, by rw [hrequest, hslot], by rw [hmark, hcurrent]⟩
      · exact ⟨v, rfl, hslot, hcurrent⟩
    · rintro ⟨v', hv', hslot, hcurrent⟩
      obtain ⟨v, hv, hreq, hsup⟩ := hwork j v' hv'
      exact ⟨v, hv, by rw [← hreq, hslot], by rw [← hsup, hcurrent]⟩
  · intro k j v' hv' hentry
    obtain ⟨v, hv, hreq, -⟩ := hwork j v' hv'
    rw [hreq, entries_update] at hentry
    exact hc.latest k j v hv hentry

/-- Eviction keeps the invariant: the mark and the removal go together. -/
theorem Coherent.evict (hc : Coherent cache) (slot : CacheKey) : Coherent (cache.evict slot) := by
  constructor
  · intro other id
    show (cache.entries.erase slot).get? other = some id ↔
      (cache.supersedeEntry slot).IsCurrent other id
    rw [isCurrent_supersedeEntry, ← hc.current_iff, OrderedMap.get?_erase]
    constructor
    · intro h
      split at h
      · cases h
      · next hne => exact ⟨h, fun hslot => hne (hc.slot_unique hslot h)⟩
    · rintro ⟨h, hslot⟩
      rw [if_neg, h]
      rintro rfl
      exact hslot h
  · intro id j w hw hentry
    obtain ⟨v, hv, hrequest, -⟩ := exists_of_supersedeEntry hw
    rw [entries_evict, OrderedMap.get?_erase, hrequest] at hentry
    split at hentry
    · cases hentry
    · exact hc.latest id j v hv hentry

/-- Installing keeps the invariant: what was there before is marked, and what is new is the
latest. -/
theorem Coherent.install (hc : Coherent cache) (r : DeploymentRequest) :
    Coherent (cache.install r).1 := by
  have hcurrent : ∀ other id, (cache.install r).1.IsCurrent other id ↔
      (id = cache.works.length ∧ r.slot = other) ∨
        (cache.entries.get? other = some id ∧ cache.entries.get? r.slot ≠ some id) := by
    intro other id
    rw [hc.current_iff, ← isCurrent_supersedeEntry]
    unfold IsCurrent
    rw [work?_install]
    split
    · next e =>
      have hnone : (cache.supersedeEntry r.slot).work? id = none := by
        apply List.getElem?_eq_none
        rw [length_supersedeEntry]
        omega
      simp [e] at hnone ⊢
      simp [hnone]
    · next e => simp [e]
  constructor
  · intro other id
    rw [hcurrent, entries_install, OrderedMap.get?_insert]
    -- the entry of the key is the new work; all others keep theirs
    split
    · next e =>
      subst e
      constructor
      · intro h
        exact .inl ⟨(Option.some.inj h).symm, rfl⟩
      · rintro (⟨rfl, -⟩ | ⟨h, hne⟩)
        · rfl
        · exact absurd h hne
    · next hne =>
      constructor
      · intro h
        exact .inr ⟨h, fun hslot => hne (hc.slot_unique hslot h)⟩
      · rintro (⟨-, h⟩ | ⟨h, -⟩)
        · exact absurd h hne
        · exact h
  · intro id j w hw hentry
    rw [entries_install, OrderedMap.get?_insert] at hentry
    rw [work?_install] at hw
    split at hentry
    · have hid : cache.works.length = id := Option.some.inj hentry
      split at hw
      · omega
      · have hlt := lt_of_work? hw
        rw [length_supersedeEntry] at hlt
        omega
    · next hne =>
      split at hw
      · cases hw
        exact absurd rfl hne
      · obtain ⟨v, hv, hrequest, -⟩ := exists_of_supersedeEntry hw
        rw [hrequest] at hentry
        exact hc.latest id j v hv hentry

/-- A cache stays coherent when work is obtained for a request. -/
theorem Coherent.obtain (hc : Coherent cache) (r : DeploymentRequest) :
    Coherent (cache.obtain r).1 := by
  rcases obtain_cases cache r with ⟨id, -, -, h⟩ | ⟨-, h⟩
  · rw [h]
    exact hc
  · rw [h]
    exact hc.install r

/-- What a request obtains is work on its key. -/
theorem Coherent.work?_obtain (hc : Coherent cache) (r : DeploymentRequest) :
    ∃ w, (cache.obtain r).1.work? (cache.obtain r).2 = some w ∧ w.request.slot = r.slot := by
  rcases obtain_cases cache r with ⟨id, -, hentry, h⟩ | ⟨-, h⟩
  · obtain ⟨w, hw, hslot, -⟩ := (hc.current_iff r.slot id).mp hentry
    rw [h]
    exact ⟨w, hw, hslot⟩
  · rw [h, work?_install, install_number, if_pos rfl]
    exact ⟨_, rfl, rfl⟩

/-- What a request obtains was not installed earlier than any work on its key. -/
theorem Coherent.le_obtain (hc : Coherent cache) {w : Work} (hw : cache.work? j = some w)
    (hslot : w.request.slot = r.slot) : j ≤ (cache.obtain r).2 := by
  rcases obtain_cases cache r with ⟨id, -, hentry, h⟩ | ⟨-, h⟩
  · rw [h]
    exact hc.latest id j w hw (by rw [hslot, hentry])
  · rw [h, install_number]
    exact Nat.le_of_lt (lt_of_work? hw)

/-- Obtained work is new, or was there before. -/
theorem Coherent.obtained_cases (hc : Coherent cache) (r : DeploymentRequest) :
    (cache.obtain r).1.work? (cache.obtain r).2 = some { request := r } ∨
      ∃ w, cache.work? (cache.obtain r).2 = some w ∧
        (cache.obtain r).1.work? (cache.obtain r).2 = some w := by
  rcases obtain_cases cache r with ⟨id, -, hentry, h⟩ | ⟨-, h⟩
  · obtain ⟨w, hw, -⟩ := (hc.current_iff r.slot id).mp hentry
    rw [h]
    exact .inr ⟨w, hw, hw⟩
  · rw [h, work?_install, install_number, if_pos rfl]
    exact .inl rfl

end ContractHarness.DeploymentCache
