import ContractHarness.Artifact.Store
import ContractHarness.Proofs.Artifact.Names

/-!
# The index says nothing of listings

Paths are sorted before they are indexed, by an order in which two paths are equal only if they are
the same. So the sorted paths depend on what was found and not on the order in which it was found.
The first one of each name is indexed, and it is the least one because the paths are sorted; all
others are passed over.
-/

set_option autoImplicit false

namespace ContractHarness

/-! ## The order of paths -/

namespace FilePath

variable {a b : FilePath}

/-- Of two paths the shorter goes first, and of two equally long ones the one that is first in the
order of names. -/
theorem goesBefore_iff :
    a.goesBefore b = true ↔ a.length < b.length ∨ a.length = b.length ∧ a ≤ b := by
  unfold goesBefore
  simp

/-- Of two paths one goes before the other. -/
theorem goesBefore_total (a b : FilePath) : (a.goesBefore b || b.goesBefore a) = true := by
  rw [Bool.or_eq_true, goesBefore_iff, goesBefore_iff]
  rcases Nat.lt_trichotomy a.length b.length with h | h | h
  · exact .inl (.inl h)
  · rcases List.le_total a b with hle | hle
    · exact .inl (.inr ⟨h, hle⟩)
    · exact .inr (.inr ⟨h.symm, hle⟩)
  · exact .inr (.inl h)

/-- A path goes before itself. -/
theorem goesBefore_refl (a : FilePath) : a.goesBefore a = true := by
  simpa using goesBefore_total a a

/-- The order of paths is transitive. -/
theorem goesBefore_trans (a b c : FilePath) (hab : a.goesBefore b = true)
    (hbc : b.goesBefore c = true) : a.goesBefore c = true := by
  rw [goesBefore_iff] at *
  rcases hab with hab | ⟨hab, hle⟩ <;> rcases hbc with hbc | ⟨hbc, hle'⟩
  · exact .inl (Nat.lt_trans hab hbc)
  · exact .inl (hbc ▸ hab)
  · exact .inl (hab ▸ hbc)
  · exact .inr ⟨hab.trans hbc, List.le_trans hle hle'⟩

/-- Two paths that go before each other are one. -/
theorem goesBefore_antisymm (hab : a.goesBefore b = true) (hba : b.goesBefore a = true) :
    a = b := by
  rw [goesBefore_iff] at hab hba
  rcases hab with hab | ⟨hab, hle⟩ <;> rcases hba with hba | ⟨hba, hle'⟩
  · omega
  · omega
  · omega
  · exact List.le_antisymm hle hle'

end FilePath

/-! ## Adding paths one by one -/

namespace ArtifactIndex

variable {index : ArtifactIndex} {paths paths' : List FilePath} {path : FilePath}
  {name : ArtifactName}

/-- A path that is added is the one of its name, unless there is one already. -/
theorem get?_add :
    (index.add path).paths.get? name =
      (index.paths.get? name).or (if path.artifactName? = some name then some path else none) := by
  unfold add
  cases hname : path.artifactName? with
  | none => simp
  | some known =>
    dsimp only
    cases hknown : index.paths.get? known with
    | some first =>
      by_cases h : known = name
      · subst h
        simp [hknown]
      · simp [h]
    | none =>
      by_cases h : known = name
      · subst h
        simp [hknown]
      · simp [OrderedMap.get?_insert, h]

/-- The first path of a name stays with it. -/
theorem get?_foldl_add :
    (paths.foldl add index).paths.get? name =
      (index.paths.get? name).or (paths.find? fun path => path.artifactName? = some name) := by
  induction paths generalizing index with
  | nil => simp
  | cons path rest ih =>
    rw [List.foldl_cons, ih, get?_add, Option.or_assoc]
    congr 1
    by_cases h : path.artifactName? = some name <;> simp [h]

/-- A path is passed over if the index has its name, and otherwise it stands in the index if it has
a name. -/
theorem add_cases (index : ArtifactIndex) (path : FilePath) :
    ((index.add path).ignored = index.ignored ∧
        ∀ name, path.artifactName? = some name → (index.add path).paths.get? name = some path) ∨
      (index.add path).ignored = index.ignored ++ [path] ∧
        ∃ name first, path.artifactName? = some name ∧ index.paths.get? name = some first := by
  unfold add
  cases hname : path.artifactName? with
  | none => exact .inl ⟨rfl, nofun⟩
  | some known =>
    dsimp only
    cases hknown : index.paths.get? known with
    | some first => exact .inr ⟨rfl, known, first, rfl, hknown⟩
    | none =>
      left
      refine ⟨rfl, fun name h => ?_⟩
      obtain rfl := Option.some.inj h
      exact OrderedMap.get?_insert_self _ _ _

/-- The paths that are passed over are those that have a name and do not stand in the index. -/
theorem ignored_foldl_add (hnodup : paths.Nodup)
    (hnew : ∀ path ∈ paths, ∀ name, index.paths.get? name ≠ some path) :
    ∃ passed, (paths.foldl add index).ignored = index.ignored ++ passed ∧ passed.Sublist paths ∧
      ∀ path ∈ paths, path ∈ passed ↔ ∃ name, path.artifactName? = some name ∧
        (paths.foldl add index).paths.get? name ≠ some path := by
  induction paths generalizing index with
  | nil => exact ⟨[], by simp, .refl _, by simp⟩
  | cons path rest ih =>
    obtain ⟨hpath, hnodup⟩ := List.nodup_cons.mp hnodup
    have hrest : ∀ other ∈ rest, ∀ name, (index.add path).paths.get? name ≠ some other := by
      intro other hother name h
      rw [get?_add, Option.or_eq_some_iff] at h
      rcases h with h | ⟨-, h⟩
      · exact hnew other (List.mem_cons_of_mem _ hother) name h
      · split at h
        · obtain rfl := Option.some.inj h
          exact hpath hother
        · cases h
    obtain ⟨passed, hignored, hsublist, hpassed⟩ := ih hnodup hrest
    rw [List.foldl_cons]
    rcases add_cases index path with ⟨hkept, hstands⟩ | ⟨hmore, name, first, hname, hfirst⟩
    · refine ⟨passed, by rw [hignored, hkept], hsublist.cons _, ?_⟩
      rw [List.forall_mem_cons]
      refine ⟨?_, hpassed⟩
      have hnot : path ∉ passed := fun h => hpath (hsublist.mem h)
      simp only [hnot, false_iff, not_exists, not_and, ne_eq, Classical.not_not]
      intro name hname
      rw [get?_foldl_add, hstands name hname, Option.some_or]
    · refine ⟨path :: passed, by rw [hignored, hmore, List.append_assoc]; rfl,
        hsublist.cons_cons _, ?_⟩
      rw [List.forall_mem_cons]
      constructor
      · have hother : first ≠ path := by
          rintro rfl
          exact hnew first List.mem_cons_self name hfirst
        simp only [List.mem_cons_self, true_iff]
        refine ⟨name, hname, ?_⟩
        rw [get?_foldl_add, get?_add, hfirst, Option.some_or, Option.some_or]
        simpa using hother
      · intro other hmem
        have hne : other ≠ path := by
          rintro rfl
          exact hpath hmem
        rw [List.mem_cons, or_iff_right hne]
        exact hpassed other hmem

/-- Sorted paths go before each other in turn. -/
theorem pairwise_sorted (paths : List FilePath) :
    (paths.mergeSort FilePath.goesBefore).Pairwise fun a b => a.goesBefore b = true :=
  List.pairwise_mergeSort FilePath.goesBefore_trans FilePath.goesBefore_total paths

/-- Each path that has a name and does not stand in the index is passed over once. -/
theorem ignored_ofPaths (hnodup : paths.Nodup) :
    (ofPaths paths).ignored.Nodup ∧ ∀ path, path ∈ (ofPaths paths).ignored ↔
      path ∈ paths ∧ ∃ name, path.artifactName? = some name ∧
        (ofPaths paths).paths.get? name ≠ some path := by
  have hsorted : (paths.mergeSort FilePath.goesBefore).Nodup :=
    (List.mergeSort_perm _ _).nodup_iff.mpr hnodup
  have hnew : ∀ path ∈ paths.mergeSort FilePath.goesBefore, ∀ name : ArtifactName,
      ({} : ArtifactIndex).paths.get? name ≠ some path := by
    intro path _ name h
    cases h
  obtain ⟨passed, hignored, hsublist, hpassed⟩ := ignored_foldl_add hsorted hnew
  have hpassedOver : (ofPaths paths).ignored = passed := hignored
  rw [hpassedOver]
  refine ⟨hsublist.nodup hsorted, fun path => ⟨fun h => ?_, ?_⟩⟩
  · have hmem := hsublist.mem h
    exact ⟨List.mem_mergeSort.mp hmem, (hpassed path hmem).mp h⟩
  · rintro ⟨hmem, h⟩
    exact (hpassed path (List.mem_mergeSort.mpr hmem)).mpr h

/-- The index depends on the paths and not on their order. -/
theorem ofPaths_congr (h : paths.Perm paths') : ofPaths paths = ofPaths paths' := by
  have hperm : (paths.mergeSort FilePath.goesBefore).Perm
      (paths'.mergeSort FilePath.goesBefore) :=
    (List.mergeSort_perm _ _).trans (h.trans (List.mergeSort_perm _ _).symm)
  have hsorted := hperm.eq_of_pairwise (fun _ _ _ _ => FilePath.goesBefore_antisymm)
    (pairwise_sorted paths) (pairwise_sorted paths')
  unfold ofPaths
  rw [hsorted]

/-- The path of a name is the first in order with this name. -/
theorem get?_ofPaths :
    (ofPaths paths).paths.get? name =
      (paths.mergeSort FilePath.goesBefore).find? fun path => path.artifactName? = some name := by
  unfold ofPaths
  rw [get?_foldl_add]
  exact Option.none_or

/-- The path that stands in the index is the least one of its name. -/
theorem least_of_get?_ofPaths (h : (ofPaths paths).paths.get? name = some path) :
    (path ∈ paths ∧ path.artifactName? = some name) ∧
      ∀ other ∈ paths, other.artifactName? = some name → path.goesBefore other = true := by
  rw [get?_ofPaths, List.find?_eq_some_iff_append] at h
  obtain ⟨hname, before, after, hsplit, hbefore⟩ := h
  have hsorted := pairwise_sorted paths
  rw [hsplit] at hsorted
  have hmem (other : FilePath) : other ∈ paths ↔ other ∈ before ++ path :: after := by
    rw [← hsplit, List.mem_mergeSort]
  refine ⟨⟨(hmem path).mpr List.mem_append_cons_self, of_decide_eq_true hname⟩, ?_⟩
  intro other hother hsame
  rw [hmem, List.mem_append, List.mem_cons] at hother
  rcases hother with hother | rfl | hother
  · simpa [hsame] using hbefore other hother
  · exact FilePath.goesBefore_refl other
  · have hbehind := (List.pairwise_append.mp hsorted).2.1
    exact List.rel_of_pairwise_cons hbehind hother

/-- The path of a name is the least one among those that have the name. -/
theorem get?_ofPaths_iff :
    (ofPaths paths).paths.get? name = some path ↔
      (path ∈ paths ∧ path.artifactName? = some name) ∧
        ∀ other ∈ paths, other.artifactName? = some name → path.goesBefore other = true := by
  constructor
  · exact least_of_get?_ofPaths
  · rintro ⟨⟨hpath, hname⟩, hleast⟩
    have hsome : ((ofPaths paths).paths.get? name).isSome = true := by
      rw [get?_ofPaths, List.find?_isSome]
      exact ⟨path, List.mem_mergeSort.mpr hpath, by simpa using hname⟩
    obtain ⟨first, hfirst⟩ := Option.isSome_iff_exists.mp hsome
    obtain ⟨⟨hmem, hfirstName⟩, hleast'⟩ := least_of_get?_ofPaths hfirst
    -- each of the two goes before the other one
    rw [hfirst, FilePath.goesBefore_antisymm (hleast' path hpath hname)
      (hleast first hmem hfirstName)]

end ArtifactIndex

/-! ## Opening a store -/

namespace ArtifactStore

variable {files : Entry} {root : String} {entry : Entry}

/-- A store that is opened on a folder has the index of the artifacts of the folder, and no artifact
is remembered and no instance set. -/
theorem create_of_folder (hfind : files.find? root = .ok entry) (hfolder : entry.isFolder = true) :
    create files root =
      (.ok { root, paths := (ArtifactIndex.ofPaths entry.artifacts).paths },
        (ArtifactIndex.ofPaths entry.artifacts).notices) := by
  unfold create
  simp only [hfind, hfolder, if_true]

/-- What a store has indexed that was opened on a tree, and what is told about it. -/
structure Indexes (entry : Entry) (store : ArtifactStore) (notices : List Notice) : Prop where
  /-- The names are those of the artifacts. -/
  names : ∀ name, name ∈ store.paths.keys ↔ ∃ path, entry.HasArtifact name path
  /-- A name leads to the artifact with the shortest path, and to the least one among those. -/
  first : ∀ name path, store.paths.get? name = some path ↔ entry.HasArtifact name path ∧
    ∀ other, entry.HasArtifact name other →
      path.length < other.length ∨ path.length = other.length ∧ path ≤ other
  /-- There is one warning for each artifact that no name leads to. -/
  warnings : ∃ ignored : List FilePath, ignored.Nodup ∧
    (∀ path, path ∈ ignored ↔
      ∃ name, entry.HasArtifact name path ∧ store.paths.get? name ≠ some path) ∧
    notices = ignored.map (fun _ => .warn "Found more than one artifact with the same name") ++
      [.info "Indexed the contract artifacts"]

/-- The index of the artifacts of a proper tree has each name with its first path, and tells of each
other path. -/
theorem indexes_ofPaths (hproper : entry.Proper) :
    Indexes entry { root, paths := (ArtifactIndex.ofPaths entry.artifacts).paths }
      (ArtifactIndex.ofPaths entry.artifacts).notices := by
  have hfirst : ∀ name path,
      (ArtifactIndex.ofPaths entry.artifacts).paths.get? name = some path ↔
        entry.HasArtifact name path ∧ ∀ other, entry.HasArtifact name other →
          path.length < other.length ∨ path.length = other.length ∧ path ≤ other := by
    intro name path
    rw [ArtifactIndex.get?_ofPaths_iff, Entry.hasArtifact_iff]
    simp only [FilePath.goesBefore_iff, Entry.hasArtifact_iff, and_imp]
  constructor
  case names =>
    intro name
    rw [OrderedMap.mem_keys_iff]
    constructor
    · rintro ⟨path, hpath⟩
      exact ⟨path, ((hfirst name path).mp hpath).1⟩
    · rintro ⟨path, hpath⟩
      rw [Entry.hasArtifact_iff] at hpath
      rw [← Option.isSome_iff_exists, ArtifactIndex.get?_ofPaths, List.find?_isSome]
      exact ⟨path, List.mem_mergeSort.mpr hpath.1, by simpa using hpath.2⟩
  case first => exact hfirst
  case warnings =>
    obtain ⟨hnodup, hignored⟩ := ArtifactIndex.ignored_ofPaths hproper.nodup_artifacts
    refine ⟨_, hnodup, ?_, rfl⟩
    intro path
    rw [hignored]
    constructor
    · rintro ⟨hmem, name, hname, hother⟩
      exact ⟨name, Entry.hasArtifact_iff.mpr ⟨hmem, hname⟩, hother⟩
    · rintro ⟨name, hartifact, hother⟩
      obtain ⟨hmem, hname⟩ := Entry.hasArtifact_iff.mp hartifact
      exact ⟨hmem, name, hname, hother⟩

/-- A store knows exactly the artifacts below its folder, each under the shortest path, and warns of
every other one. In whatever order the folders are listed, the store is the same. -/
theorem create_indexes (hfind : files.find? root = .ok entry) (hfolder : entry.isFolder = true)
    (hproper : entry.Proper) :
    ∃ store notices, create files root = (.ok store, notices) ∧ Indexes entry store notices ∧
      ∀ files' entry', files'.find? root = .ok entry' → entry.Relisted entry' →
        create files' root = (.ok store, notices) := by
  refine ⟨_, _, create_of_folder hfind hfolder, indexes_ofPaths hproper, ?_⟩
  intro files' entry' hfind' hrelisted
  have hfolder' : entry'.isFolder = true := hrelisted.isFolder.trans hfolder
  rw [create_of_folder hfind' hfolder',
    ArtifactIndex.ofPaths_congr hrelisted.perm_artifacts]

/-! ## Two artifacts of a token -/

section Tokens

open FileName (ofText)

/-- The file of a token without functions. -/
def tokenFile : String :=
  "\x7b\"abi\":[],\"bytecode\":\"0x00\"\x7d"

/-- A token that was compiled twice, with notes and a folder that is called like an artifact. -/
def tokens : Entry :=
  .folder [
    (ofText "old", .folder [(ofText "Token.JSON", .file ""), (ofText "Token.dbg.json", .file "")]),
    (ofText "Token.json", .file tokenFile),
    (ofText "Vault.json", .folder [])]

/-- The same files, listed from the last to the first. -/
def tokensBackwards : Entry :=
  .folder [
    (ofText "Vault.json", .folder []),
    (ofText "Token.json", .file tokenFile),
    (ofText "old", .folder [(ofText "Token.dbg.json", .file ""), (ofText "Token.JSON", .file "")])]

/-- The two trees differ in the order of their lists only. -/
theorem relisted_tokens : tokens.Relisted tokensBackwards := by
  refine .trans (.reorder (List.reverse_perm _).symm) ?_
  exact @Entry.Relisted.inside [_, _] [] _ _ _ (.reorder (.swap _ _ _))

/-- The tree of the tokens is proper. -/
theorem proper_tokens : tokens.Proper := by
  refine .folder (by decide) ?_
  simp only [List.forall_mem_cons, List.not_mem_nil, false_imp_iff, implies_true, and_true]
  refine ⟨.folder (by decide) ?_, .file _, .folder (by decide) nofun⟩
  simp only [List.forall_mem_cons, List.not_mem_nil, false_imp_iff, implies_true, and_true]
  exact ⟨.file _, .file _⟩

/-- The tree has a token at the top. -/
theorem hasArtifact_tokens : tokens.HasArtifact "Token" [ofText "Token.json"] := by
  refine ⟨.inside (List.mem_cons_of_mem _ List.mem_cons_self) (.here _), [], ofText "json", rfl,
    by decide, by decide, by decide⟩

/-- The tree has another token in a folder, with its extension in capital letters. -/
theorem hasArtifact_old : tokens.HasArtifact "Token" [ofText "old", ofText "Token.JSON"] := by
  refine ⟨.inside List.mem_cons_self (.inside List.mem_cons_self (.here _)), [ofText "old"],
    ofText "JSON", rfl, by decide, by decide, by decide⟩

/-- There is one file in the folder itself, and all others are further down. -/
theorem get?_tokens {store : ArtifactStore} {notices : List Notice}
    (h : Indexes tokens store notices) :
    store.paths.get? "Token" = some [ofText "Token.json"] := by
  refine (h.first _ _).mpr ⟨hasArtifact_tokens, ?_⟩
  rintro other ⟨hfile, folders, extension, rfl, -⟩
  cases folders with
  | cons folder folders =>
    left
    simp
  | nil =>
    right
    rw [List.nil_append, Entry.hasFile_cons_iff] at hfile
    obtain ⟨below, hlisted, hbelow⟩ := hfile
    rw [Entry.hasFile_nil_iff] at hbelow
    simp only [tokens, Entry.entries, List.mem_cons, Prod.mk.injEq, List.not_mem_nil,
      or_false] at hlisted
    rcases hlisted with ⟨-, rfl⟩ | ⟨hname, -⟩ | ⟨-, rfl⟩
    · cases hbelow
    · rw [List.nil_append, hname]
      exact ⟨rfl, List.le_refl _⟩
    · cases hbelow

/-- The path of one dot leads to the folder itself. -/
theorem find?_here (entries : List (FileName × Entry)) :
    (Entry.folder entries).find? "." = .ok (.folder entries) := by
  have hstart : ¬ ("." = "" ∨ ".".startsWith "/" = true) := by simp
  have hsplit : ".".splitOn "/" = ["."] := by
    unfold String.splitOn
    rw [if_neg (by decide), String.splitOnAux, if_neg (by decide), if_neg (by decide),
      String.splitOnAux, if_pos (by decide)]
    rfl
  unfold Entry.find? FilePath.ofText
  rw [if_neg hstart, hsplit]
  rfl

/-- A store on either tree has the token at the top and warns of the other one. -/
theorem create_tokens :
    ∃ store notices, create tokens "." = (.ok store, notices) ∧
      store.paths.get? "Token" = some [ofText "Token.json"] ∧
      .warn "Found more than one artifact with the same name" ∈ notices ∧
      create tokensBackwards "." = (.ok store, notices) := by
  have hfind : tokens.find? "." = .ok tokens := find?_here _
  obtain ⟨store, notices, hcreate, hindexes, hrelisted⟩ := create_indexes hfind rfl proper_tokens
  have hget := get?_tokens hindexes
  refine ⟨store, notices, hcreate, hget, ?_, hrelisted _ _ (find?_here _) relisted_tokens⟩
  obtain ⟨ignored, -, hignored, hnotices⟩ := hindexes.warnings
  have hold : [ofText "old", ofText "Token.JSON"] ∈ ignored := by
    refine (hignored _).mpr ⟨"Token", hasArtifact_old, ?_⟩
    rw [hget]
    decide
  rw [hnotices]
  exact List.mem_append_left _ (List.mem_map_of_mem hold)

end Tokens

end ArtifactStore

end ContractHarness
