import ContractHarness.Proofs.Artifact.Folders
import ContractHarness.Proofs.Artifact.Index
import ContractHarness.Proofs.Artifact.Shut
import Mathlib.Data.List.Nodup

/-!
# What a search does from its start to its end

The moves of a search below a written path: every artifact is returned once, every folder is read
once, and nothing else happens (`ArtifactSearch.explores`). A path that leads nowhere is a root that
cannot be read. When folders of the tree are shut, the moves behind them are missing, and the others
are made in the same order.
-/

set_option autoImplicit false

namespace ContractHarness

/-! ## Names of artifacts -/

namespace FileName

/-- The name has the extension `json`, in letters of any case, and is not that of the notes that a
compiler keeps beside an artifact: a text that ends in `.dbg.json`. -/
def NamesArtifact (name : FileName) : Prop :=
  (∃ stem extension, name = stem ++ dot :: extension ∧ stem ≠ [] ∧
    extension.map lowerByte = ofText "json") ∧
  ¬ ((∃ text : String, name = Utf8.encode text) ∧ ofText ".dbg.json" <:+ name)

/-- The names of artifacts are those that the search takes for such. -/
theorem namesArtifact_iff {name : FileName} : name.NamesArtifact ↔ name.isArtifact = true := by
  unfold NamesArtifact isArtifact isDebug
  rw [Bool.and_eq_true, isJson_iff, Bool.not_eq_true', Bool.eq_false_iff, ne_eq, Bool.and_eq_true,
    Utf8.isValid_iff, List.isSuffixOf_iff_suffix]

end FileName

/-! ## The tree at a place -/

namespace Entry

variable {files entry : Entry} {name : FileName} {path : FilePath}

/-- The children of a proper tree are proper. -/
theorem Proper.child? (h : files.Proper) (hchild : files.child? name = some entry) :
    entry.Proper := by
  obtain ⟨listed, hfind, rfl⟩ := Option.map_eq_some_iff.mp hchild
  have hlisted := List.mem_of_find?_eq_some hfind
  cases h with
  | folder names below => exact below listed hlisted
  | file content => cases hlisted
  | sealed => cases hlisted
  | other => cases hlisted

/-- A walk through a proper tree ends at a proper entry. -/
theorem Proper.walk {above : List Entry} (habove : ∀ parent ∈ above, parent.Proper)
    (h : files.Proper) (hwalk : Entry.walk above files path = .ok entry) : entry.Proper := by
  induction path generalizing above files with
  | nil =>
    cases hwalk
    exact h
  | cons name rest ih =>
    unfold Entry.walk at hwalk
    split at hwalk
    · cases hwalk
    · next entries =>
      split at hwalk
      · exact ih habove h hwalk
      split at hwalk
      · split at hwalk
        · cases hwalk
        · next parent above =>
          rw [List.forall_mem_cons] at habove
          exact ih habove.2 habove.1 hwalk
      · split at hwalk
        · next child hchild =>
          exact ih (List.forall_mem_cons.mpr ⟨h, habove⟩) (h.child? hchild) hwalk
        · cases hwalk
    · cases hwalk

/-- What a path leads to in a proper tree is proper. -/
theorem Proper.find? {root : String} (h : files.Proper) (hfind : files.find? root = .ok entry) :
    entry.Proper := by
  unfold Entry.find? at hfind
  split at hfind
  · cases hfind
  · exact Proper.walk (List.forall_mem_nil _) h hfind

/-- What is at a path is a file or a folder, and not both. -/
theorem Proper.not_hasFolder (h : entry.Proper) (hfile : entry.HasFile path) :
    ¬ entry.HasFolder path := by
  induction hfile with
  | here content =>
    intro hfolder
    cases hfolder.isFolder
  | @inside entries name below path listed hbelow ih =>
    intro hfolder
    obtain ⟨under, hlisted, hunder⟩ := hasFolder_cons_iff.mp hfolder
    cases h with
    | folder names all =>
      cases List.inj_on_of_nodup_map names hlisted listed rfl
      exact ih (all _ listed) hunder

end Entry

namespace ArtifactSearch

variable {moves before : List Move} {root : Entry} {path : FilePath} {search : ArtifactSearch}

/-! ## All moves of a search -/

/-- The moves of a search at a place, from its start to its end. -/
structure Explores (place : Except PlaceError Entry) (search : ArtifactSearch)
    (moves : List Move) : Prop where
  /-- The search comes to its end with these moves. -/
  ends : search.Run moves done
  /-- It does nothing else, so it cannot go on for ever. -/
  only : ∀ before s, search.Run before s → before <+: moves
  /-- Whenever it is called for the next file, it reads folders until there is one, or all that are
  left. -/
  calls : ∀ before s, search.Run before s →
    (∀ path t, s.next? = some (path, t) ↔
      ∃ folders : List FilePath, s.Run (folders.map .reads ++ [.returns path]) t) ∧
    (s.next? = none ↔ ∃ folders : List FilePath, s.Run (folders.map .reads) done)
  /-- What it returns is what it finds by being called again and again. -/
  listed : moves.filterMap Move.file? = search.toList
  /-- No folder is read twice, and no file returned twice. -/
  once : moves.Nodup
  /-- The artifacts of the place are returned, and nothing else. -/
  files : ∀ path, .returns path ∈ moves ↔ ∃ root, place = .ok root ∧ root.HasFile path ∧
    ∃ name, path.getLast? = some name ∧ name.NamesArtifact
  /-- Reading is tried at the place itself and at all folders below it, and nowhere else. -/
  folders : ∀ path, .reads path ∈ moves ↔
    path = [] ∨ ∃ root, place = .ok root ∧ root.HasFolder path
  /-- What is read as a folder is not returned, whatever its name. -/
  descends : ∀ path, .reads path ∈ moves → .returns path ∉ moves
  /-- Before a folder is read, all artifacts of the folders read so far were returned. -/
  patient : ∀ before folder after, moves = before ++ .reads folder :: after →
    ∀ path name, .reads path ∈ before → .returns (path ++ [name]) ∈ moves →
      .returns (path ++ [name]) ∈ before

/-- A search that is done has no artifacts left. -/
theorem toList_done : done.toList = [] :=
  toList_nil

/-- The files that a whole search returns are the artifacts of the tree, in its order. -/
theorem Run.files_eq (h : Run (ofRoot root) moves done) :
    moves.filterMap Move.file? = root.artifacts := by
  have hall := h.toList
  rw [toList_done, List.append_nil] at hall
  exact hall.symm

/-- A whole search returns exactly the artifacts of the tree. -/
theorem Run.mem_returns_iff (h : Run (ofRoot root) moves done) :
    .returns path ∈ moves ↔ path ∈ root.artifacts := by
  rw [← mem_files_iff, h.files_eq]

/-- A whole search tries to read exactly the folders of the tree. -/
theorem Run.mem_reads_iff (h : Run (ofRoot root) moves done) :
    .reads path ∈ moves ↔ path ∈ root.readPaths := by
  rw [← mem_folders_iff, h.perm_readPaths.mem_iff]

/-- Moves are distinct when the folders that are read and the files that are returned are. -/
theorem nodup_of_paths (hfolders : (moves.filterMap Move.folder?).Nodup)
    (hfiles : (moves.filterMap Move.file?).Nodup) : moves.Nodup := by
  induction moves with
  | nil => exact List.nodup_nil
  | cons m moves ih =>
    cases m with
    | reads folder =>
      obtain ⟨hnew, hrest⟩ := List.nodup_cons.mp hfolders
      exact List.nodup_cons.mpr ⟨fun hmem => hnew (mem_folders_iff.mpr hmem), ih hrest hfiles⟩
    | returns file =>
      obtain ⟨hnew, hrest⟩ := List.nodup_cons.mp hfiles
      exact List.nodup_cons.mpr ⟨fun hmem => hnew (mem_files_iff.mpr hmem), ih hfolders hrest⟩

/-- A whole search makes no move twice. -/
theorem Run.nodup (h : Run (ofRoot root) moves done) (hproper : root.Proper) : moves.Nodup := by
  refine nodup_of_paths (h.perm_readPaths.nodup_iff.mpr hproper.nodup_readPaths) ?_
  rw [h.files_eq]
  exact hproper.nodup_artifacts

/-- What a search reads as a folder it does not return as a file. -/
theorem Run.not_returns (h : Run (ofRoot root) moves done) (hproper : root.Proper)
    (hread : .reads path ∈ moves) : .returns path ∉ moves := by
  intro hreturn
  obtain ⟨hfile, name, hlast, -⟩ := Entry.mem_artifacts_iff.mp (h.mem_returns_iff.mp hreturn)
  rcases Entry.mem_readPaths_iff.mp (h.mem_reads_iff.mp hread) with rfl | hfolder
  · cases hlast
  · exact hproper.not_hasFolder hfile hfolder

/-- A folder is read when there are no files to return. -/
theorem Run.found_eq_nil {s : ArtifactSearch} {folder : FilePath} {after : List Move}
    {t : ArtifactSearch} (h : Run s (.reads folder :: after) t) : s.found = [] := by
  cases h with
  | cons first rest =>
    cases first
    rfl

/-- A whole search of a folder reads and returns what it should. -/
theorem explores_of_run (hproper : root.Proper) (h : Run (ofRoot root) moves done) :
    Explores (.ok root) (ofRoot root) moves where
  ends := h
  only := by
    intro before s hrun
    obtain ⟨after, rfl, -⟩ := hrun.rest h
    exact List.prefix_append before after
  calls := fun _ _ _ => ⟨fun _ _ => next?_eq_some_iff, next?_eq_none_iff⟩
  listed := h.files_eq
  once := h.nodup hproper
  files := by
    intro path
    rw [h.mem_returns_iff, Entry.mem_artifacts_iff]
    simp [FileName.namesArtifact_iff]
  folders := by
    intro path
    rw [h.mem_reads_iff, Entry.mem_readPaths_iff]
    simp
  descends := fun _ => h.not_returns hproper
  patient := by
    rintro before folder after rfl path name hread hreturn
    obtain ⟨s, hbefore, hafter⟩ := h.split
    exact hbefore.returned hproper hafter.found_eq_nil hread (h.mem_returns_iff.mp hreturn)

/-- Where nothing is, a search does what it does at a place that is no folder. -/
theorem Explores.missing (h : Explores (.ok .other) search moves) (e : PlaceError) :
    Explores (.error e) search moves :=
  { h with
    files := by
      intro path
      rw [h.files]
      constructor
      · rintro ⟨root, hroot, hfile, -⟩
        cases hroot
        cases hfile
      · rintro ⟨root, hroot, -⟩
        cases hroot
    folders := by
      intro path
      rw [h.folders]
      refine or_congr_right ⟨?_, ?_⟩
      · rintro ⟨root, hroot, hfolder⟩
        cases hroot
        cases hfolder.isFolder
      · rintro ⟨root, hroot, -⟩
        cases hroot }

/-- A search at a place that there is starts from the entry there. -/
theorem ofPlace_of_ok {files : Entry} {text : String} (h : files.find? text = .ok root) :
    ofPlace files text = ofRoot root := by
  unfold ofPlace
  rw [h]
  rfl

/-- A search at a place that there is not has nothing to read. -/
theorem ofPlace_of_error {files : Entry} {text : String} {e : PlaceError}
    (h : files.find? text = .error e) : ofPlace files text = ofRoot .other := by
  unfold ofPlace
  rw [h]
  rfl

/-- A search below a written path returns the artifacts there, each once, and reads the folders,
each once and each when the files before it were returned. When folders are shut, only the moves
behind them are missing. -/
theorem explores (files : Entry) (root : String) (hproper : files.Proper) :
    ∃ moves, Explores (files.find? root) (ofPlace files root) moves ∧
      ∀ entry, files.find? root = .ok entry → ∀ shut : FilePath → Bool,
        Explores (.ok (entry.shutAt shut [])) (ofRoot (entry.shutAt shut []))
          (moves.filter fun m => !m.path.isBehind shut) := by
  obtain ⟨moves, hrun⟩ := exists_run_done (ofPlace files root)
  refine ⟨moves, ?_⟩
  cases hfind : files.find? root with
  | error e =>
    rw [ofPlace_of_error hfind] at hrun ⊢
    refine ⟨(explores_of_run .other hrun).missing e, ?_⟩
    intro entry hentry
    cases hentry
  | ok entry =>
    rw [ofPlace_of_ok hfind] at hrun ⊢
    have hentry := hproper.find? hfind
    refine ⟨explores_of_run hentry hrun, ?_⟩
    rintro _ ⟨⟩ shut
    have hfewer : Run ((ofRoot entry).withShut shut) _ (done.withShut shut) := hrun.withShut
    rw [withShut_ofRoot, withShut_done] at hfewer
    exact explores_of_run hentry.shutAt hfewer

/-! ## A folder that is called like an artifact -/

section Nested

open FileName (ofText)

/-- A file in a folder of the same name, beside a folder that cannot be read. -/
def nested : Entry :=
  .folder [
    (ofText "Vault.json", .folder [(ofText "Vault.json", .file "")]),
    (ofText "cache", .sealed),
    (ofText "Token.json", .file "")]

/-- The nested folders are proper. -/
theorem proper_nested : nested.Proper := by
  refine .folder (by decide) ?_
  simp only [List.forall_mem_cons, List.not_mem_nil, false_imp_iff, implies_true, and_true]
  refine ⟨.folder (by decide) ?_, .sealed, .file _⟩
  simp only [List.forall_mem_cons, List.not_mem_nil, false_imp_iff, implies_true, and_true]
  exact .file _

/-- Both folders are read, what lies in the first one is found, and shutting it hides nothing but
that. An empty path leads nowhere. -/
theorem explores_nested : nested.Proper ∧
    (∃ moves, Explores (.ok nested) (ofPlace nested ".") moves ∧
      .reads [ofText "Vault.json"] ∈ moves ∧ .returns [ofText "Vault.json"] ∉ moves ∧
      .reads [ofText "cache"] ∈ moves ∧
      .returns [ofText "Vault.json", ofText "Vault.json"] ∈ moves ∧
      ∃ fewer, Explores (.ok (nested.shutAt (· = [ofText "Vault.json"]) []))
          (ofRoot (nested.shutAt (· = [ofText "Vault.json"]) [])) fewer ∧
        .returns [ofText "Vault.json", ofText "Vault.json"] ∉ fewer ∧
        .returns [ofText "Token.json"] ∈ fewer) ∧
    ∃ moves, Explores (.error .notFound) (ofPlace nested "") moves ∧
      ∀ path, .returns path ∉ moves := by
  have hvault : nested.HasFolder [ofText "Vault.json"] :=
    .inside List.mem_cons_self (.here rfl)
  have hcache : nested.HasFolder [ofText "cache"] :=
    .inside (List.mem_cons_of_mem _ List.mem_cons_self) (.here rfl)
  have hinner : nested.HasFile [ofText "Vault.json", ofText "Vault.json"] :=
    .inside List.mem_cons_self (.inside List.mem_cons_self (.here _))
  have htoken : nested.HasFile [ofText "Token.json"] :=
    .inside (List.mem_cons_of_mem _ (List.mem_cons_of_mem _ List.mem_cons_self)) (.here _)
  have hvaultName : (ofText "Vault.json").NamesArtifact :=
    FileName.namesArtifact_iff.mpr (by decide +kernel)
  have htokenName : (ofText "Token.json").NamesArtifact :=
    FileName.namesArtifact_iff.mpr (by decide +kernel)
  have hhere : nested.find? "." = .ok nested := ArtifactStore.find?_here _
  have hnowhere : nested.find? "" = .error .notFound := if_pos (.inl rfl)
  refine ⟨proper_nested, ?_, ?_⟩
  · obtain ⟨moves, h, hshut⟩ := explores nested "." proper_nested
    rw [hhere] at h
    have hread := (h.folders [ofText "Vault.json"]).mpr (.inr ⟨_, rfl, hvault⟩)
    have hreturned := (h.files [ofText "Token.json"]).mpr ⟨_, rfl, htoken, _, rfl, htokenName⟩
    refine ⟨moves, h, hread, h.descends _ hread, (h.folders _).mpr (.inr ⟨_, rfl, hcache⟩),
      (h.files _).mpr ⟨_, rfl, hinner, _, rfl, hvaultName⟩, _, hshut _ hhere _, ?_, ?_⟩
    · intro hmem
      exact absurd (List.mem_filter.mp hmem).2 (by decide)
    · exact List.mem_filter.mpr ⟨hreturned, by decide⟩
  · obtain ⟨moves, h, -⟩ := explores nested "" proper_nested
    rw [hnowhere] at h
    refine ⟨moves, h, fun path hmem => ?_⟩
    obtain ⟨root, hroot, -⟩ := (h.files path).mp hmem
    cases hroot

end Nested

end ArtifactSearch

end ContractHarness
