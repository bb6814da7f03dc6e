/-!
# Maps that remember an order

A finite map whose entries keep the order in which their keys were first inserted. Inserting a key
that is present replaces its value and leaves it where it is.
-/

set_option autoImplicit false

namespace ContractHarness

/-- Entries in order of first insertion, each key once. -/
structure OrderedMap (κ α : Type) where
  entries : List (κ × α)
  nodup : (entries.map Prod.fst).Nodup
deriving DecidableEq

namespace OrderedMap

variable {κ α : Type}

/-- The map without entries. -/
def empty : OrderedMap κ α := ⟨[], List.nodup_nil⟩

/-- The map without entries. -/
instance : EmptyCollection (OrderedMap κ α) := ⟨empty⟩

/-- The empty map is the map where none is given. -/
instance : Inhabited (OrderedMap κ α) := ⟨empty⟩

/-- Maps are shown as the list of their entries. -/
instance [Repr κ] [Repr α] : Repr (OrderedMap κ α) :=
  ⟨fun m p => Repr.addAppParen ("OrderedMap " ++ reprArg m.entries) p⟩

/-- The keys in order. -/
def keys (m : OrderedMap κ α) : List κ :=
  m.entries.map Prod.fst

/-- The map has no entries. -/
def isEmpty (m : OrderedMap κ α) : Bool :=
  m.entries.isEmpty

/-- The entries of the keys that satisfy a test. -/
def filterKeys (m : OrderedMap κ α) (test : κ → Bool) : OrderedMap κ α where
  entries := m.entries.filter (test ·.1)
  nodup := m.nodup.sublist ((List.filter_sublist).map _)

/-- The keys of a filtered map are the filtered keys, in their order. -/
theorem keys_filterKeys (m : OrderedMap κ α) (test : κ → Bool) :
    (m.filterKeys test).keys = m.keys.filter test := by
  simp [keys, filterKeys, List.filter_map, Function.comp_def]

variable [DecidableEq κ]

/-- The value of a key in a list of entries. -/
def find? (key : κ) : List (κ × α) → Option α
  | [] => none
  | (k, value) :: rest => if k = key then some value else find? key rest

/-- Replaces the value of a key in a list of entries, or adds the entry at the end. -/
def put (key : κ) (value : α) : List (κ × α) → List (κ × α)
  | [] => [(key, value)]
  | (k, old) :: rest => if k = key then (key, value) :: rest else (k, old) :: put key value rest

/-- A key that is put again keeps its place, and a new one is put at the end. -/
theorem keys_put (key : κ) (value : α) (entries : List (κ × α)) :
    (put key value entries).map Prod.fst =
      if key ∈ entries.map Prod.fst then entries.map Prod.fst
      else entries.map Prod.fst ++ [key] := by
  induction entries with
  | nil => simp [put]
  | cons entry rest ih =>
    obtain ⟨k, old⟩ := entry
    by_cases h : k = key
    · subst h
      simp [put]
    · have h' : ¬ key = k := fun e => h e.symm
      simp only [put, if_neg h, List.map_cons, ih, List.mem_cons, h', false_or]
      split <;> rfl

/-- A key that was put is found with its value, and every other key as before. -/
theorem find?_put (key other : κ) (value : α) (entries : List (κ × α)) :
    find? other (put key value entries) =
      if key = other then some value else find? other entries := by
  induction entries with
  | nil => simp [put, find?]
  | cons entry rest ih =>
    obtain ⟨k, old⟩ := entry
    by_cases h : k = key
    · subst h
      by_cases h' : k = other <;> simp [put, find?, h']
    · by_cases h' : k = other
      · subst h'
        simp [put, find?, h, Ne.symm h]
      · simp [put, find?, h, h', ih]

/-- A key that is new is put at the end. -/
theorem put_of_notMem {key : κ} {entries : List (κ × α)} (value : α)
    (h : key ∉ entries.map Prod.fst) : put key value entries = entries ++ [(key, value)] := by
  induction entries with
  | nil => rfl
  | cons entry rest ih =>
    rw [List.map_cons, List.mem_cons, not_or] at h
    have hentry : entry.1 ≠ key := fun e => h.1 e.symm
    rw [put, if_neg hentry, ih h.2, List.cons_append]

/-- The value of a key. -/
def get? (m : OrderedMap κ α) (key : κ) : Option α :=
  find? key m.entries

/-- The map with the value of a key set. -/
def insert (m : OrderedMap κ α) (key : κ) (value : α) : OrderedMap κ α where
  entries := put key value m.entries
  nodup := by
    rw [keys_put]
    split
    · exact m.nodup
    · next h =>
      rw [List.nodup_append]
      refine ⟨m.nodup, by simp, ?_⟩
      intro a ha b hb
      rw [List.mem_singleton] at hb
      subst hb
      exact fun e => h (e ▸ ha)

/-- The map without a key. -/
def erase (m : OrderedMap κ α) (key : κ) : OrderedMap κ α :=
  m.filterKeys (· ≠ key)

/-- The map of a list of entries, of which the last of each key counts. -/
def ofList (entries : List (κ × α)) : OrderedMap κ α :=
  entries.foldl (fun m entry => m.insert entry.1 entry.2) empty

/-- Entries with distinct new keys are all added at the end, in their order. -/
theorem entries_foldl_insert (m : OrderedMap κ α) {entries : List (κ × α)}
    (h : ((m.entries ++ entries).map Prod.fst).Nodup) :
    (entries.foldl (fun m entry => m.insert entry.1 entry.2) m).entries = m.entries ++ entries := by
  induction entries generalizing m with
  | nil => rw [List.foldl_nil, List.append_nil]
  | cons entry rest ih =>
    have hnew : entry.1 ∉ m.entries.map Prod.fst := by
      rw [List.map_append, List.nodup_append] at h
      exact fun hmem => h.2.2 entry.1 hmem entry.1 List.mem_cons_self rfl
    have hentries : (m.insert entry.1 entry.2).entries = m.entries ++ [entry] :=
      put_of_notMem entry.2 hnew
    rw [List.foldl_cons, ih, hentries, List.append_assoc, List.singleton_append]
    rw [hentries, List.append_assoc, List.singleton_append]
    exact h

/-- Entries of which each has a key of its own stay as they are. -/
theorem entries_ofList {entries : List (κ × α)} (h : (entries.map Prod.fst).Nodup) :
    (ofList entries).entries = entries :=
  entries_foldl_insert empty h

/-- The empty map has no values. -/
@[simp] theorem get?_empty (key : κ) : (∅ : OrderedMap κ α).get? key = none := rfl

/-- A key has the value that was inserted with it. -/
@[simp] theorem get?_insert_self (m : OrderedMap κ α) (key : κ) (value : α) :
    (m.insert key value).get? key = some value := by
  simp [get?, insert, find?_put]

/-- Inserting a key changes the value of no other one. -/
theorem get?_insert (m : OrderedMap κ α) (key other : κ) (value : α) :
    (m.insert key value).get? other = if key = other then some value else m.get? other :=
  find?_put key other value m.entries

/-- A key is not found exactly when no entry has it. -/
theorem find?_eq_none_iff {key : κ} {entries : List (κ × α)} :
    find? key entries = none ↔ key ∉ entries.map Prod.fst := by
  induction entries with
  | nil => simp [find?]
  | cons entry rest ih =>
    obtain ⟨k, value⟩ := entry
    by_cases h : k = key
    · simp [find?, h]
    · have h' : ¬ key = k := fun e => h e.symm
      simp [find?, h, h', ih]

/-- The keys of a map are those with a value. -/
theorem mem_keys_iff {m : OrderedMap κ α} {key : κ} :
    key ∈ m.keys ↔ ∃ value, m.get? key = some value := by
  rw [← Option.ne_none_iff_exists', ne_eq, get?, find?_eq_none_iff, Classical.not_not, keys]

/-- A key that is inserted again keeps its place, and a new one comes last. -/
theorem keys_insert (m : OrderedMap κ α) (key : κ) (value : α) :
    (m.insert key value).keys = if key ∈ m.keys then m.keys else m.keys ++ [key] :=
  keys_put key value m.entries

/-- Of keys that are inserted one after another, the new ones come behind the old ones, each where
it came first. -/
theorem keys_foldl_insert (m : OrderedMap κ α) (entries : List (κ × α)) :
    (entries.foldl (fun m entry => m.insert entry.1 entry.2) m).keys =
      m.keys ++ ((entries.map Prod.fst).filter (· ∉ m.keys)).eraseDups := by
  induction entries generalizing m with
  | nil => simp
  | cons entry rest ih =>
    rw [List.foldl_cons, ih, keys_insert, List.map_cons]
    by_cases hold : entry.1 ∈ m.keys
    · rw [if_pos hold, List.filter_cons_of_neg (by simpa using hold)]
    · have hothers (key : κ) : decide (key ∉ m.keys ++ [entry.1]) =
          (!key == entry.1 && decide (key ∉ m.keys)) := by
        by_cases h : key = entry.1 <;> simp [h]
      rw [if_neg hold, List.filter_cons_of_pos (by simpa using hold), List.eraseDups_cons,
        List.filter_filter, List.append_assoc, List.singleton_append]
      simp only [hothers]

/-- The keys of a list stand in the order of their first occurrences. -/
theorem keys_ofList (entries : List (κ × α)) :
    (ofList entries).keys = (entries.map Prod.fst).eraseDups := by
  have hkeys := keys_foldl_insert (empty : OrderedMap κ α) entries
  have hnone : (empty : OrderedMap κ α).keys = [] := rfl
  have hall : (entries.map Prod.fst).filter (· ∉ (empty : OrderedMap κ α).keys) =
      entries.map Prod.fst := by
    rw [List.filter_eq_self]
    intro key _
    simp [hnone]
  rw [hall, hnone, List.nil_append] at hkeys
  exact hkeys

/-- Filtering entries by their keys hides exactly the keys that fail the test. -/
theorem find?_filter (key : κ) (test : κ → Bool) (entries : List (κ × α)) :
    find? key (entries.filter (test ·.1)) = if test key then find? key entries else none := by
  induction entries with
  | nil => simp [find?]
  | cons entry rest ih =>
    obtain ⟨k, value⟩ := entry
    by_cases ht : test k = true
    · by_cases h : k = key
      · subst h
        simp [ht, find?]
      · simp [ht, find?, h, ih]
    · by_cases h : k = key
      · subst h
        simp [ht, ih]
      · simp [ht, find?, h, ih]

/-- Filtering a map by its keys hides exactly the keys that fail the test. -/
theorem get?_filterKeys (m : OrderedMap κ α) (key : κ) (test : κ → Bool) :
    (m.filterKeys test).get? key = if test key then m.get? key else none :=
  find?_filter key test m.entries

/-- Erasing a key takes the value of no other one. -/
theorem get?_erase (m : OrderedMap κ α) (key other : κ) :
    (m.erase key).get? other = if key = other then none else m.get? other := by
  rw [erase, get?_filterKeys]
  by_cases h : other = key
  · subst h
    simp
  · simp [h, Ne.symm h]

end OrderedMap

end ContractHarness
