import ContractHarness.Proofs.Artifact.Moves

/-!
# The folders that a search reads

The folders that are read are those of the tree, each of them once. As with the files, what was read
is counted together with what the folders on the stack still lead to: `Run.perm_reads` is shown for
a move, and from it for a run.

A folder is read only when all files of the folders before it were returned: `Run.returned` has them
all among the moves whenever there is nothing on the stack of files.
-/

set_option autoImplicit false

namespace ContractHarness

/-! ## The folders of a tree -/

namespace Entry

/-- There is a folder at a path below an entry. -/
inductive HasFolder : Entry → FilePath → Prop where
  | here {entry : Entry} (folder : entry.isFolder = true) : HasFolder entry []
  | inside {entries : List (FileName × Entry)} {name : FileName} {entry : Entry} {path : FilePath}
    (listed : (name, entry) ∈ entries) (below : HasFolder entry path) :
    HasFolder (.folder entries) (name :: path)

mutual
/-- The paths at which a search below an entry tries to read a folder. -/
def readPaths : Entry → List FilePath
  | .folder entries => [] :: readPathsAmong entries
  | .file _ => [[]]
  | .sealed => [[]]
  | .other => [[]]

/-- The paths at which a search reads folders among the entries of a folder and below them. -/
def readPathsAmong : List (FileName × Entry) → List FilePath
  | [] => []
  | (name, entry) :: rest =>
    (if entry.isFolder then entry.readPaths.map (name :: ·) else []) ++ readPathsAmong rest
end

variable {entry : Entry} {entries : List (FileName × Entry)} {name : FileName} {path : FilePath}

/-- The paths at which a search reads for an entry that is listed under a name. -/
def readPathsOf (listed : FileName × Entry) : List FilePath :=
  if listed.2.isFolder then listed.2.readPaths.map (listed.1 :: ·) else []

/-- The readings among entries are those of each entry in turn. -/
theorem readPathsAmong_eq : readPathsAmong entries = entries.flatMap readPathsOf := by
  induction entries with
  | nil => rw [readPathsAmong, List.flatMap_nil]
  | cons listed rest ih => rw [readPathsAmong, List.flatMap_cons, ih, readPathsOf]

/-- A search reads an entry itself and then what its entries lead to. -/
theorem readPaths_eq : entry.readPaths = [] :: entry.entries.flatMap readPathsOf := by
  cases entry with
  | folder entries =>
    rw [readPaths, readPathsAmong_eq]
    rfl
  | file content =>
    rw [readPaths]
    rfl
  | sealed =>
    rw [readPaths]
    rfl
  | other =>
    rw [readPaths]
    rfl

/-- A folder further down is a folder below an entry of the first name. -/
theorem hasFolder_cons_iff : entry.HasFolder (name :: path) ↔
    ∃ below, (name, below) ∈ entry.entries ∧ below.HasFolder path := by
  constructor
  · rintro (_ | ⟨listed, below⟩)
    exact ⟨_, listed, below⟩
  · rintro ⟨below, listed, h⟩
    cases entry with
    | folder entries => exact .inside listed h
    | file content => cases listed
    | sealed => cases listed
    | other => cases listed

/-- An entry with a folder at a path below it is a folder. -/
theorem HasFolder.isFolder (h : entry.HasFolder path) : entry.isFolder = true := by
  cases h with
  | here folder => exact folder
  | inside listed below => rfl

/-- A listed entry leads to a reading at the paths that start with its name, when it is a folder,
and go on with a reading in it. -/
theorem mem_readPathsOf_iff {listed : FileName × Entry} : name :: path ∈ readPathsOf listed ↔
    listed.1 = name ∧ listed.2.isFolder = true ∧ path ∈ listed.2.readPaths := by
  unfold readPathsOf
  split
  · next h =>
    rw [List.mem_map]
    constructor
    · rintro ⟨rest, hrest, heq⟩
      cases heq
      exact ⟨rfl, h, hrest⟩
    · rintro ⟨rfl, -, hpath⟩
      exact ⟨path, hpath, rfl⟩
  · next h =>
    refine iff_of_false List.not_mem_nil ?_
    rintro ⟨-, hfolder, -⟩
    exact h hfolder

/-- A search reads at its root, and at each folder below it. -/
theorem mem_readPaths_iff : path ∈ entry.readPaths ↔ path = [] ∨ entry.HasFolder path := by
  rw [readPaths_eq, List.mem_cons]
  induction path generalizing entry with
  | nil => simp
  | cons name rest ih =>
    rw [hasFolder_cons_iff, List.mem_flatMap]
    refine or_congr_right ?_
    constructor
    · rintro ⟨⟨other, below⟩, hlisted, h⟩
      obtain ⟨rfl, hfolder, hrest⟩ := mem_readPathsOf_iff.mp h
      rw [readPaths_eq, List.mem_cons] at hrest
      refine ⟨below, hlisted, ?_⟩
      rcases ih.mp hrest with rfl | hbelow
      · exact .here hfolder
      · exact hbelow
    · rintro ⟨below, hlisted, hbelow⟩
      refine ⟨(name, below), hlisted, mem_readPathsOf_iff.mpr ⟨rfl, hbelow.isFolder, ?_⟩⟩
      rw [readPaths_eq, List.mem_cons]
      exact ih.mpr (.inr hbelow)

/-- Every reading that a listed entry leads to is at a path that starts with its name. -/
theorem head_of_mem_readPathsOf {listed : FileName × Entry} (h : path ∈ readPathsOf listed) :
    path.head? = some listed.1 := by
  cases path with
  | nil =>
    unfold readPathsOf at h
    split at h
    · obtain ⟨rest, -, heq⟩ := List.mem_map.mp h
      cases heq
    · cases h
  | cons name rest => rw [(mem_readPathsOf_iff.mp h).1, List.head?_cons]

/-- A listed entry leads to no reading twice when the entry itself does not. -/
theorem nodup_readPathsOf {listed : FileName × Entry} (h : listed.2.readPaths.Nodup) :
    (readPathsOf listed).Nodup := by
  unfold readPathsOf
  split
  · refine List.pairwise_map.mpr (h.imp fun hne heq => hne ?_)
    exact (List.cons.inj heq).2
  · exact List.nodup_nil

/-- Where the names in each folder are distinct, no folder is read twice. -/
theorem Proper.nodup_readPaths (h : entry.Proper) : entry.readPaths.Nodup := by
  induction h with
  | @folder entries names below ih =>
    rw [readPaths_eq, List.nodup_cons]
    constructor
    · rw [List.mem_flatMap]
      rintro ⟨listed, -, h⟩
      cases head_of_mem_readPathsOf h
    · refine List.pairwise_flatMap.mpr
        ⟨fun listed hlisted => nodup_readPathsOf (ih listed hlisted), ?_⟩
      refine (List.pairwise_map.mp names).imp ?_
      intro listed other hnames path hpath path' hpath' heq
      have hhead := head_of_mem_readPathsOf hpath
      rw [heq, head_of_mem_readPathsOf hpath', Option.some.injEq] at hhead
      exact hnames hhead.symm
  | file content => exact List.pairwise_singleton _ _
  | sealed => exact List.pairwise_singleton _ _
  | other => exact List.pairwise_singleton _ _

/-- A file is listed in a folder. -/
theorem HasFile.hasFolder (h : entry.HasFile (path ++ [name])) : entry.HasFolder path := by
  induction path generalizing entry with
  | nil =>
    cases h with
    | inside listed below => exact .here rfl
  | cons first rest ih =>
    obtain ⟨below, listed, hbelow⟩ := hasFile_cons_iff.mp h
    exact hasFolder_cons_iff.mpr ⟨below, listed, ih hbelow⟩

end Entry

namespace ArtifactSearch

variable {s t : ArtifactSearch} {m : Move} {moves before : List Move}
  {folders : List (FilePath × Entry)} {path : FilePath} {name : FileName} {entry root : Entry}

/-! ## Each folder is read once -/

/-- The paths at which a folder on the stack leads to a reading. -/
def readsBelow (folder : FilePath × Entry) : List FilePath :=
  folder.2.readPaths.map (folder.1 ++ ·)

/-- The folders of a folder lead, from the last to the first, to the readings of its entries. -/
theorem flatMap_subfolders (path : FilePath) (entries : List (FileName × Entry)) :
    (subfolders path entries).reverse.flatMap readsBelow =
      (entries.flatMap Entry.readPathsOf).map (path ++ ·) := by
  unfold subfolders
  rw [List.reverse_reverse]
  induction entries with
  | nil => rfl
  | cons listed rest ih =>
    rw [List.flatMap_cons, List.map_append, ← ih]
    unfold Entry.readPathsOf
    cases hfolder : listed.2.isFolder with
    | false => simp [hfolder]
    | true => simp [hfolder, readsBelow]

/-- A folder on the stack leads to its own reading first and then to those of the folders in it. -/
theorem readsBelow_eq : readsBelow (path, entry) =
    path :: (subfolders path entry.entries).reverse.flatMap readsBelow := by
  rw [flatMap_subfolders, readsBelow, Entry.readPaths_eq, List.map_cons, List.append_nil]

/-- A move takes the folder that it reads, and no other, from the readings that the stack leads to.
-/
theorem Step.perm_reads (h : Step s m t) : (s.folders.flatMap readsBelow).Perm
    (m.folder?.toList ++ t.folders.flatMap readsBelow) := by
  cases h with
  | reads path entry folders =>
    have hread := List.reverse_perm (subfolders path entry.entries)
    rw [List.flatMap_cons, readsBelow_eq, read, List.flatMap_append]
    exact ((hread.flatMap_right readsBelow).append_right _).cons path
  | returns folders path found => exact .refl _

/-- What was read and what is still to be read is what was to be read before. -/
theorem Run.perm_reads (h : Run s moves t) : (s.folders.flatMap readsBelow).Perm
    (moves.filterMap Move.folder? ++ t.folders.flatMap readsBelow) := by
  induction h with
  | refl s => exact .refl _
  | @cons s t u m moves first rest ih =>
    have hall := first.perm_reads.trans (ih.append_left _)
    rw [← List.append_assoc] at hall
    cases m <;> exact hall

/-- The stack of a search that starts leads to the readings of its root. -/
theorem readsBelow_root : (ofRoot root).folders.flatMap readsBelow = root.readPaths := by
  simp [ofRoot, readsBelow]

/-- A whole search reads every folder once, whatever the order is. -/
theorem Run.perm_readPaths (h : Run (ofRoot root) moves done) :
    (moves.filterMap Move.folder?).Perm root.readPaths := by
  have hall := h.perm_reads
  rw [readsBelow_root] at hall
  simpa [done] using hall.symm

/-! ## Files are returned before the next folder is read -/

/-- While a search has no files to return, it has returned all artifacts of the folders that it has
read. -/
theorem Run.returned (h : Run (ofRoot root) before s) (hproper : root.Proper) (hnone : s.found = [])
    (hread : .reads path ∈ before) (hfile : path ++ [name] ∈ root.artifacts) :
    .returns (path ++ [name]) ∈ before := by
  unfold Entry.artifacts at hfile
  rw [h.toList, List.mem_append, mem_files_iff] at hfile
  refine hfile.resolve_right fun hlater => ?_
  -- otherwise a folder on the stack leads to the file, and so to the folder that was read
  rw [s.toList_perm.mem_iff, hnone, List.nil_append, List.mem_flatMap] at hlater
  obtain ⟨⟨start, entry⟩, hstack, hbelow⟩ := hlater
  obtain ⟨rest, hrest, heq⟩ := List.mem_map.mp hbelow
  obtain rfl | ⟨folder, last, rfl⟩ := rest.eq_nil_or_concat
  · exact Entry.nil_notMem_artifactPaths hrest
  · rw [List.concat_eq_append, ← List.append_assoc] at heq
    rw [List.concat_eq_append] at hrest
    obtain ⟨rfl, heq⟩ := List.append_inj' heq rfl
    have hfolder := (Entry.mem_artifactPaths_iff.mp hrest).1.hasFolder
    have hagain : start ++ folder ∈ s.folders.flatMap readsBelow := by
      refine List.mem_flatMap.mpr ⟨_, hstack, List.mem_map.mpr ⟨folder, ?_, rfl⟩⟩
      exact Entry.mem_readPaths_iff.mpr (.inr hfolder)
    have honce := hproper.nodup_readPaths
    rw [← readsBelow_root, h.perm_reads.nodup_iff, List.nodup_append] at honce
    exact honce.2.2 _ (mem_folders_iff.mpr hread) _ hagain rfl

end ArtifactSearch

end ContractHarness
