import ContractHarness.Artifact.Search

/-!
# What a search finds

A search keeps two stacks: folders that are not read yet, and files that were found. What it finds
in the end is what the recursion over the tree finds, in another order: `toList_perm` is shown with
what is still on the stacks, by induction on how much there is left to do.

A file is found once, because the names in a folder are distinct. The order in which folders are
listed can only change the order in which the files are found.
-/

set_option autoImplicit false

namespace ContractHarness

namespace Entry

/-! ## The files of a tree -/

/-- There is a regular file at a path below an entry. -/
inductive HasFile : Entry → FilePath → Prop where
  | here (content : String) : HasFile (.file content) []
  | inside {entries : List (FileName × Entry)} {name : FileName} {entry : Entry} {path : FilePath}
    (listed : (name, entry) ∈ entries) (below : HasFile entry path) :
    HasFile (.folder entries) (name :: path)

/-- No folder lists a name twice. -/
inductive Proper : Entry → Prop where
  | file (content : String) : Proper (.file content)
  | folder {entries : List (FileName × Entry)} (names : (entries.map Prod.fst).Nodup)
    (below : ∀ listed ∈ entries, Proper listed.2) : Proper (.folder entries)
  | sealed : Proper .sealed
  | other : Proper .other

/-- The second tree is the first one with its folders listed in other orders. -/
inductive Relisted : Entry → Entry → Prop where
  | refl (entry : Entry) : Relisted entry entry
  | reorder {entries entries' : List (FileName × Entry)} (perm : entries.Perm entries') :
    Relisted (.folder entries) (.folder entries')
  | inside {before after : List (FileName × Entry)} {name : FileName} {entry entry' : Entry}
    (below : Relisted entry entry') :
    Relisted (.folder (before ++ (name, entry) :: after))
      (.folder (before ++ (name, entry') :: after))
  | trans {first second third : Entry} (left : Relisted first second)
    (right : Relisted second third) : Relisted first third

/-- The path of an entry that is an artifact, from the folder that lists it. -/
def ownPaths (name : FileName) (entry : Entry) : List FilePath :=
  if entry.isFile && name.isArtifact then [[name]] else []

mutual
/-- The paths of the artifacts below an entry. -/
def artifactPaths : Entry → List FilePath
  | .folder entries => pathsAmong entries
  | .file _ => []
  | .sealed => []
  | .other => []

/-- The paths of the artifacts among the entries of a folder and below them. -/
def pathsAmong : List (FileName × Entry) → List FilePath
  | [] => []
  | (name, entry) :: rest =>
    entry.ownPaths name ++ entry.artifactPaths.map (name :: ·) ++ pathsAmong rest
end

variable {entry entry' : Entry} {entries : List (FileName × Entry)} {name : FileName}
  {path : FilePath}

/-- The paths of an entry that is listed under a name. -/
def pathsOf (listed : FileName × Entry) : List FilePath :=
  listed.2.ownPaths listed.1 ++ listed.2.artifactPaths.map (listed.1 :: ·)

/-- The artifacts among entries are those of each entry in turn. -/
theorem pathsAmong_eq : pathsAmong entries = entries.flatMap pathsOf := by
  induction entries with
  | nil => rw [pathsAmong, List.flatMap_nil]
  | cons listed rest ih => rw [pathsAmong, List.flatMap_cons, ih, pathsOf]

/-- The artifacts below an entry are those of the entries that it lists. -/
theorem artifactPaths_eq : entry.artifactPaths = entry.entries.flatMap pathsOf := by
  cases entry with
  | folder entries =>
    rw [artifactPaths, pathsAmong_eq]
    rfl
  | file content =>
    rw [artifactPaths]
    rfl
  | sealed =>
    rw [artifactPaths]
    rfl
  | other =>
    rw [artifactPaths]
    rfl

/-- An entry that lists nothing has no artifacts below it. -/
theorem artifactPaths_of_entries (h : entry.entries = []) : entry.artifactPaths = [] := by
  rw [artifactPaths_eq, h, List.flatMap_nil]

/-- A listed entry is an artifact itself when it is a regular file with the name of one. -/
theorem mem_ownPaths_iff :
    path ∈ entry.ownPaths name ↔
      path = [name] ∧ entry.isFile = true ∧ name.isArtifact = true := by
  unfold ownPaths
  split
  · next h => simpa using fun _ => Bool.and_eq_true_iff.mp h
  · next h =>
    rw [Bool.and_eq_true] at h
    simp only [List.not_mem_nil, false_iff, not_and]
    exact fun _ hfile hname => h ⟨hfile, hname⟩

/-- An entry is a file itself when it is a regular one. -/
theorem hasFile_nil_iff : entry.HasFile [] ↔ entry.isFile = true := by
  constructor
  · rintro ⟨content⟩
    rfl
  · intro h
    cases entry with
    | file content => exact .here content
    | folder entries => cases h
    | sealed => cases h
    | other => cases h

/-- A file further down is a file below an entry of the first name. -/
theorem hasFile_cons_iff :
    entry.HasFile (name :: path) ↔ ∃ below, (name, below) ∈ entry.entries ∧ below.HasFile path := by
  constructor
  · rintro (_ | ⟨listed, below⟩)
    exact ⟨_, listed, below⟩
  · rintro ⟨below, listed, h⟩
    cases entry with
    | folder entries => exact .inside listed h
    | file content => cases listed
    | sealed => cases listed
    | other => cases listed

/-- No artifact is at the root itself. -/
theorem nil_notMem_artifactPaths : [] ∉ entry.artifactPaths := by
  rw [artifactPaths_eq, List.mem_flatMap]
  rintro ⟨listed, -, h⟩
  rw [pathsOf, List.mem_append, mem_ownPaths_iff, List.mem_map] at h
  rcases h with ⟨h, -⟩ | ⟨rest, -, h⟩
  · cases h
  · cases h

/-- An artifact is at the name of a regular file that is listed, or further down. -/
theorem cons_mem_artifactPaths_iff :
    name :: path ∈ entry.artifactPaths ↔ ∃ below, (name, below) ∈ entry.entries ∧
      ((path = [] ∧ below.isFile = true ∧ name.isArtifact = true) ∨
        path ∈ below.artifactPaths) := by
  rw [artifactPaths_eq, List.mem_flatMap]
  constructor
  · rintro ⟨⟨other, below⟩, hlisted, h⟩
    rw [pathsOf, List.mem_append, mem_ownPaths_iff, List.mem_map] at h
    rcases h with ⟨h, hfile⟩ | ⟨rest, hrest, h⟩
    · obtain ⟨rfl, rfl⟩ := List.cons.inj h
      exact ⟨below, hlisted, .inl ⟨rfl, hfile⟩⟩
    · obtain ⟨rfl, rfl⟩ := List.cons.inj h
      exact ⟨below, hlisted, .inr hrest⟩
  · rintro ⟨below, hlisted, h⟩
    refine ⟨(name, below), hlisted, ?_⟩
    rw [pathsOf, List.mem_append, mem_ownPaths_iff, List.mem_map]
    rcases h with ⟨rfl, hfile⟩ | h
    · exact .inl ⟨rfl, hfile⟩
    · exact .inr ⟨path, h, rfl⟩

/-- The paths are those of the regular files whose names are those of artifacts. -/
theorem mem_artifactPaths_iff :
    path ∈ entry.artifactPaths ↔
      entry.HasFile path ∧ ∃ name, path.getLast? = some name ∧ name.isArtifact = true := by
  induction path generalizing entry with
  | nil => simp [nil_notMem_artifactPaths]
  | cons name rest ih =>
    rw [cons_mem_artifactPaths_iff, hasFile_cons_iff]
    cases rest with
    | nil =>
      simp only [nil_notMem_artifactPaths, hasFile_nil_iff, or_false, true_and,
        List.getLast?_singleton, Option.some.injEq, exists_eq_left']
      constructor
      · rintro ⟨below, hlisted, hfile, hname⟩
        exact ⟨⟨below, hlisted, hfile⟩, hname⟩
      · rintro ⟨⟨below, hlisted, hfile⟩, hname⟩
        exact ⟨below, hlisted, hfile, hname⟩
    | cons next rest =>
      rw [List.getLast?_cons_cons]
      constructor
      · rintro ⟨below, hlisted, ⟨h, -⟩ | h⟩
        · cases h
        · obtain ⟨hfile, hlast⟩ := ih.mp h
          exact ⟨⟨below, hlisted, hfile⟩, hlast⟩
      · rintro ⟨⟨below, hlisted, hfile⟩, hlast⟩
        exact ⟨below, hlisted, .inr (ih.mpr ⟨hfile, hlast⟩)⟩

/-- A regular file has no artifacts below it. -/
theorem artifactPaths_of_isFile (h : entry.isFile = true) : entry.artifactPaths = [] := by
  cases entry with
  | file content => exact artifactPaths_of_entries rfl
  | folder entries => cases h
  | sealed => cases h
  | other => cases h

/-- Every artifact of a listed entry is at a path that starts with its name. -/
theorem head_of_mem_pathsOf {listed : FileName × Entry} (h : path ∈ pathsOf listed) :
    path.head? = some listed.1 := by
  rw [pathsOf, List.mem_append, mem_ownPaths_iff, List.mem_map] at h
  rcases h with ⟨rfl, -⟩ | ⟨rest, -, rfl⟩
  · rfl
  · rfl

/-- A listed entry has no artifact twice when the entry itself has none twice. -/
theorem nodup_pathsOf {listed : FileName × Entry} (h : listed.2.artifactPaths.Nodup) :
    (pathsOf listed).Nodup := by
  have hbelow : (listed.2.artifactPaths.map (listed.1 :: ·)).Nodup := by
    refine List.pairwise_map.mpr (h.imp fun hne heq => hne ?_)
    exact (List.cons.inj heq).2
  unfold pathsOf ownPaths
  split
  · next hown =>
    -- a file that is an artifact has nothing below it
    rw [artifactPaths_of_isFile (Bool.and_eq_true_iff.mp hown).1]
    exact List.pairwise_singleton _ _
  · rw [List.nil_append]
    exact hbelow

/-- Where the names in each folder are distinct, the paths are. -/
theorem Proper.nodup_artifactPaths (h : entry.Proper) : entry.artifactPaths.Nodup := by
  induction h with
  | @folder entries names below ih =>
    rw [artifactPaths_eq]
    refine List.pairwise_flatMap.mpr ⟨fun listed hlisted => nodup_pathsOf (ih listed hlisted), ?_⟩
    refine (List.pairwise_map.mp names).imp ?_
    intro listed other hnames path hpath path' hpath' heq
    have hhead := head_of_mem_pathsOf hpath
    rw [heq, head_of_mem_pathsOf hpath', Option.some.injEq] at hhead
    exact hnames hhead.symm
  | file content =>
    rw [artifactPaths_of_entries rfl]
    exact List.nodup_nil
  | sealed =>
    rw [artifactPaths_of_entries rfl]
    exact List.nodup_nil
  | other =>
    rw [artifactPaths_of_entries rfl]
    exact List.nodup_nil

/-- A regular file stays one when folders are listed in other orders. -/
theorem Relisted.isFile (h : Relisted entry entry') : entry'.isFile = entry.isFile := by
  induction h with
  | refl entry => rfl
  | reorder perm => rfl
  | inside below ih => rfl
  | trans left right ihLeft ihRight => exact ihRight.trans ihLeft

/-- A folder stays one when it is listed in another order. -/
theorem Relisted.isFolder (h : Relisted entry entry') : entry'.isFolder = entry.isFolder := by
  induction h with
  | refl entry => rfl
  | reorder perm => rfl
  | inside below ih => rfl
  | trans left right ihLeft ihRight => exact ihRight.trans ihLeft

/-- Another order of listing changes nothing but the order of the paths. -/
theorem Relisted.perm_artifactPaths (h : Relisted entry entry') :
    entry.artifactPaths.Perm entry'.artifactPaths := by
  induction h with
  | refl entry => exact .refl _
  | reorder perm =>
    rw [artifactPaths_eq, artifactPaths_eq]
    exact perm.flatMap_right _
  | @inside before after name entry entry' below ih =>
    have hpaths : (pathsOf (name, entry)).Perm (pathsOf (name, entry')) := by
      unfold pathsOf ownPaths
      rw [below.isFile]
      exact (ih.map _).append_left _
    rw [artifactPaths_eq, artifactPaths_eq]
    simp only [Entry.entries, List.flatMap_append, List.flatMap_cons]
    exact (hpaths.append_right _).append_left _
  | trans left right ihLeft ihRight => exact ihLeft.trans ihRight

end Entry

namespace ArtifactSearch

variable {folders : List (FilePath × Entry)} {found : List FilePath} {path : FilePath}
  {entry : Entry} {entries : List (FileName × Entry)}

/-! ## What the search does in one go -/

/-- The list of a search is its next file, if there is one, and the list of what is left. -/
theorem toList_eq (s : ArtifactSearch) :
    s.toList = match s.next? with
      | none => []
      | some (path, rest) => path :: rest.toList := by
  rw [toList]
  split <;> simp_all

/-- A search with nothing to do has no files. -/
theorem toList_nil : toList ⟨[], []⟩ = [] := by
  rw [toList_eq, next?]

/-- A file that was found comes first. -/
theorem toList_found : toList ⟨folders, path :: found⟩ = path :: toList ⟨folders, found⟩ := by
  rw [toList_eq, next?]

/-- Without files that were found, the first folder on the stack is read. -/
theorem toList_folder :
    toList ⟨(path, entry) :: folders, []⟩ = toList (read path entry folders) := by
  rw [toList_eq, toList_eq (read path entry folders), next?]

/-! ## The search loses nothing and finds nothing else -/

/-- The paths that a folder on the stack leads to. -/
def pathsBelow (folder : FilePath × Entry) : List FilePath :=
  folder.2.artifactPaths.map (folder.1 ++ ·)

/-- A folder on the stack that lists nothing leads to no artifact. -/
theorem pathsBelow_of_entries (h : entry.entries = []) : pathsBelow (path, entry) = [] := by
  rw [pathsBelow, Entry.artifactPaths_of_entries h, List.map_nil]

/-- A listed entry has its own artifact and those that it leads to as a folder on the stack. -/
theorem map_pathsOf (name : FileName) :
    (Entry.pathsOf (name, entry)).map (path ++ ·) =
      (entry.ownPaths name).map (path ++ ·) ++ pathsBelow (path ++ [name], entry) := by
  simp [Entry.pathsOf, pathsBelow]

/-- Each entry of a folder is an artifact, or a folder to read, or leads to no path. -/
theorem perm_listed (path : FilePath) (entries : List (FileName × Entry)) :
    ((artifacts path entries).reverse ++
        (subfolders path entries).reverse.flatMap pathsBelow).Perm
      ((entries.flatMap Entry.pathsOf).map (path ++ ·)) := by
  unfold artifacts subfolders
  rw [List.reverse_reverse, List.reverse_reverse]
  induction entries with
  | nil => exact .refl _
  | cons listed rest ih =>
    obtain ⟨name, entry⟩ := listed
    rw [List.flatMap_cons, List.map_append, map_pathsOf]
    cases entry with
    | file content =>
      have hnone : pathsBelow (path ++ [name], .file content) = [] := pathsBelow_of_entries rfl
      rw [hnone, List.append_nil]
      unfold Entry.ownPaths
      cases hname : name.isArtifact <;> simpa [Entry.isFile, Entry.isFolder, hname] using ih
    | folder entries =>
      have hown : (Entry.folder entries).ownPaths name = [] := rfl
      rw [hown, List.map_nil, List.nil_append]
      -- its paths stand behind those of the files
      refine List.Perm.trans ?_ (ih.append_left _)
      simpa [Entry.isFile, Entry.isFolder] using List.perm_append_comm_assoc _ _ _
    | sealed =>
      have hnone : pathsBelow (path ++ [name], .sealed) = [] := pathsBelow_of_entries rfl
      simpa [Entry.isFile, Entry.isFolder, Entry.ownPaths, hnone] using ih
    | other =>
      have hnone : pathsBelow (path ++ [name], .other) = [] := pathsBelow_of_entries rfl
      simpa [Entry.isFile, Entry.isFolder, Entry.ownPaths, hnone] using ih

/-- What reading a folder puts on the stacks leads to the paths below that folder. -/
theorem perm_read :
    ((read path entry folders).found ++ (read path entry folders).folders.flatMap pathsBelow).Perm
      (pathsBelow (path, entry) ++ folders.flatMap pathsBelow) := by
  have hfound := List.reverse_perm (artifacts path entry.entries)
  have hfolders := (List.reverse_perm (subfolders path entry.entries)).flatMap_right pathsBelow
  have hbelow : ((entry.entries.flatMap Entry.pathsOf).map (path ++ ·)) =
      pathsBelow (path, entry) := by
    rw [← Entry.artifactPaths_eq]
    rfl
  have hread := (hfound.append hfolders).symm.trans (perm_listed path entry.entries)
  rw [hbelow] at hread
  unfold read
  rw [List.flatMap_append, ← List.append_assoc]
  exact hread.append_right _

/-- The search returns the files that it has found and those below the folders that it has still to
read. -/
theorem toList_perm (s : ArtifactSearch) :
    s.toList.Perm (s.found ++ s.folders.flatMap pathsBelow) := by
  generalize hsize : s.size = size
  induction size using Nat.strongRecOn generalizing s with
  | ind size ih =>
    subst hsize
    match s with
    | ⟨[], []⟩ =>
      rw [toList_nil]
      exact .refl _
    | ⟨folders, path :: found⟩ =>
      rw [toList_found]
      have hless : size ⟨folders, found⟩ < size ⟨folders, path :: found⟩ := by simp [size]
      exact (ih _ hless _ rfl).cons path
    | ⟨(path, entry) :: folders, []⟩ =>
      rw [toList_folder]
      have hless : size (read path entry folders) < size ⟨(path, entry) :: folders, []⟩ :=
        size_read path entry folders
      exact (ih _ hless _ rfl).trans perm_read

end ArtifactSearch

namespace Entry

variable {entry entry' : Entry}

/-- A search returns the artifacts below the root, each as often as it is there. -/
theorem artifacts_perm (entry : Entry) : entry.artifacts.Perm entry.artifactPaths := by
  have hperm := (ArtifactSearch.ofRoot entry).toList_perm
  have hbelow : ArtifactSearch.pathsBelow ([], entry) = entry.artifactPaths := List.map_id' _
  unfold Entry.artifacts
  simpa [ArtifactSearch.ofRoot, hbelow] using hperm

/-- A search returns exactly the regular files with the name of an artifact. -/
theorem mem_artifacts_iff {path : FilePath} :
    path ∈ entry.artifacts ↔
      entry.HasFile path ∧ ∃ name, path.getLast? = some name ∧ name.isArtifact = true := by
  rw [entry.artifacts_perm.mem_iff]
  exact mem_artifactPaths_iff

/-- A search of a proper tree returns no file twice. -/
theorem Proper.nodup_artifacts (h : entry.Proper) : entry.artifacts.Nodup :=
  entry.artifacts_perm.nodup_iff.mpr h.nodup_artifactPaths

/-- The order of listing has no influence on which files a search returns. -/
theorem Relisted.perm_artifacts (h : Relisted entry entry') :
    entry.artifacts.Perm entry'.artifacts :=
  entry.artifacts_perm.trans (h.perm_artifactPaths.trans entry'.artifacts_perm.symm)

end Entry

end ContractHarness
