import ContractHarness.Proofs.Artifact.Moves

/-!
# Searching with shut folders

Folders of a tree are shut, so that they can no longer be read. What a search then does is what it
did before, without the moves behind the folders that are shut (`Run.withShut`): each move of the
search of the whole tree is a move of the other one, or happens behind a shut folder and changes
nothing there. So the loss of a folder neither stops the search nor hides what lies elsewhere.
-/

set_option autoImplicit false

namespace ContractHarness

variable {shut : FilePath → Bool} {path : FilePath} {name : FileName}

/-- A folder on the way to the path is shut. -/
def FilePath.isBehind (shut : FilePath → Bool) (path : FilePath) : Bool :=
  (List.range path.length).any fun n => shut (path.take n)

/-- A path is behind a shut folder when the folder that it is in is behind one or shut. -/
theorem FilePath.isBehind_append_singleton :
    (path ++ [name]).isBehind shut = (path.isBehind shut || shut path) := by
  unfold FilePath.isBehind
  rw [List.length_append, List.length_singleton, List.range_succ, List.any_append, List.any_cons,
    List.any_nil, Bool.or_false, List.take_left]
  congr 1
  rw [Bool.eq_iff_iff, List.any_eq_true, List.any_eq_true]
  refine exists_congr fun n => and_congr_right fun hn => ?_
  rw [List.take_append_of_le_length (Nat.le_of_lt (List.mem_range.mp hn))]

namespace Entry

variable {entry : Entry} {entries : List (FileName × Entry)}

mutual
/-- An entry at a path when folders are shut. -/
def shutAt (shut : FilePath → Bool) (path : FilePath) : Entry → Entry
  | .folder entries => if shut path then .sealed else .folder (shutAmong shut path entries)
  | .file content => .file content
  | .sealed => .sealed
  | .other => .other

/-- The entries of the folder at a path when folders are shut. -/
def shutAmong (shut : FilePath → Bool) (path : FilePath) :
    List (FileName × Entry) → List (FileName × Entry)
  | [] => []
  | (name, entry) :: rest =>
    (name, entry.shutAt shut (path ++ [name])) :: shutAmong shut path rest
end

/-- An entry that is listed in the folder at a path, when folders are shut. -/
def shutListed (shut : FilePath → Bool) (path : FilePath) (listed : FileName × Entry) :
    FileName × Entry :=
  (listed.1, listed.2.shutAt shut (path ++ [listed.1]))

/-- Shutting folders goes through the entries of a folder one by one. -/
theorem shutAmong_eq : shutAmong shut path entries = entries.map (shutListed shut path) := by
  induction entries with
  | nil => rw [shutAmong, List.map_nil]
  | cons listed rest ih => rw [shutAmong, List.map_cons, ih, shutListed]

/-- A shut folder lists nothing, and every other entry lists what it did, with folders shut in it.
-/
theorem entries_shutAt : (entry.shutAt shut path).entries =
    if shut path then [] else entry.entries.map (shutListed shut path) := by
  cases entry with
  | folder entries =>
    rw [shutAt]
    split
    · rfl
    · exact shutAmong_eq
  | file content => simp [shutAt, Entry.entries]
  | sealed => simp [shutAt, Entry.entries]
  | other => simp [shutAt, Entry.entries]

/-- A folder that is shut is still a folder. -/
theorem isFolder_shutAt : (entry.shutAt shut path).isFolder = entry.isFolder := by
  cases entry with
  | folder entries =>
    rw [shutAt]
    split <;> rfl
  | file content => rw [shutAt]
  | sealed => rw [shutAt]
  | other => rw [shutAt]

/-- Shutting folders makes no file of an entry and loses none. -/
theorem isFile_shutAt : (entry.shutAt shut path).isFile = entry.isFile := by
  cases entry with
  | folder entries =>
    rw [shutAt]
    split <;> rfl
  | file content => rw [shutAt]
  | sealed => rw [shutAt]
  | other => rw [shutAt]

/-- A proper tree stays proper when folders are shut. -/
theorem Proper.shutAt (h : entry.Proper) : (entry.shutAt shut path).Proper := by
  induction h generalizing path with
  | @folder entries names below ih =>
    rw [Entry.shutAt, shutAmong_eq]
    split
    · exact .sealed
    · refine .folder ?_ ?_
      · rw [List.map_map]
        exact names
      · intro listed hlisted
        obtain ⟨first, hfirst, rfl⟩ := List.mem_map.mp hlisted
        exact ih first hfirst
  | file content =>
    rw [Entry.shutAt]
    exact .file content
  | sealed =>
    rw [Entry.shutAt]
    exact .sealed
  | other =>
    rw [Entry.shutAt]
    exact .other

end Entry

namespace ArtifactSearch

variable {s t : ArtifactSearch} {m : Move} {moves : List Move} {entry : Entry}

/-- The folders on a stack when folders are shut. -/
def shutFolders (shut : FilePath → Bool) (folders : List (FilePath × Entry)) :
    List (FilePath × Entry) :=
  (folders.filter fun folder => !folder.1.isBehind shut).map fun folder =>
    (folder.1, folder.2.shutAt shut folder.1)

/-- What a search has still to do when folders are shut. -/
def withShut (shut : FilePath → Bool) (s : ArtifactSearch) : ArtifactSearch where
  folders := shutFolders shut s.folders
  found := s.found.filter fun file => !file.isBehind shut

/-- Shutting folders goes through the parts of a stack in turn. -/
theorem shutFolders_append (a b : List (FilePath × Entry)) :
    shutFolders shut (a ++ b) = shutFolders shut a ++ shutFolders shut b := by
  unfold shutFolders
  rw [List.filter_append, List.map_append]

/-- A folder behind a shut one is never on the stack. -/
theorem shutFolders_cons_of_behind (h : path.isBehind shut = true)
    (folders : List (FilePath × Entry)) :
    shutFolders shut ((path, entry) :: folders) = shutFolders shut folders := by
  simp [shutFolders, h]

/-- A folder that is not behind a shut one stays on the stack. -/
theorem shutFolders_cons_of_open (h : path.isBehind shut = false)
    (folders : List (FilePath × Entry)) : shutFolders shut ((path, entry) :: folders) =
      (path, entry.shutAt shut path) :: shutFolders shut folders := by
  simp [shutFolders, h]

/-! ## What a folder lists when folders are shut -/

/-- An entry that is a folder comes behind the folders that are listed after it. -/
theorem subfolders_cons (path : FilePath) (listed : FileName × Entry)
    (rest : List (FileName × Entry)) : subfolders path (listed :: rest) =
      subfolders path rest ++
        if listed.2.isFolder then [(path ++ [listed.1], listed.2)] else [] := by
  unfold subfolders
  cases hfolder : listed.2.isFolder <;> simp [hfolder]

/-- An entry that is an artifact comes behind those that are listed after it. -/
theorem artifacts_cons (path : FilePath) (listed : FileName × Entry)
    (rest : List (FileName × Entry)) : artifacts path (listed :: rest) =
      artifacts path rest ++
        if listed.2.isFile && listed.1.isArtifact then [path ++ [listed.1]] else [] := by
  unfold artifacts
  cases hfile : listed.2.isFile && listed.1.isArtifact <;> simp [hfile]

/-- Of the folders in a folder that is shut or behind one, none is on the stack, and otherwise all
are, with folders shut in them. -/
theorem shutFolders_subfolders (path : FilePath) (entries : List (FileName × Entry)) :
    shutFolders shut (subfolders path entries) =
      if path.isBehind shut || shut path then []
      else subfolders path (entries.map (Entry.shutListed shut path)) := by
  induction entries with
  | nil => split <;> rfl
  | cons listed rest ih =>
    rw [subfolders_cons, shutFolders_append, ih, List.map_cons, subfolders_cons]
    unfold Entry.shutListed
    rw [Entry.isFolder_shutAt]
    cases hbehind : path.isBehind shut || shut path <;> cases listed.2.isFolder <;>
      simp [shutFolders, FilePath.isBehind_append_singleton, hbehind]

/-- Of the artifacts in a folder that is shut or behind one, none is found, and otherwise all are.
-/
theorem filter_artifacts (path : FilePath) (entries : List (FileName × Entry)) :
    ((artifacts path entries).filter fun file => !file.isBehind shut) =
      if path.isBehind shut || shut path then []
      else artifacts path (entries.map (Entry.shutListed shut path)) := by
  induction entries with
  | nil => split <;> rfl
  | cons listed rest ih =>
    rw [artifacts_cons, List.filter_append, ih, List.map_cons, artifacts_cons]
    unfold Entry.shutListed
    rw [Entry.isFile_shutAt]
    cases hbehind : path.isBehind shut || shut path <;>
      cases listed.2.isFile && listed.1.isArtifact <;>
      simp [FilePath.isBehind_append_singleton, hbehind]

/-! ## The same search with less to find -/

/-- A search of a root where folders are shut starts from the root with folders shut in it. -/
theorem withShut_ofRoot (root : Entry) :
    (ofRoot root).withShut shut = ofRoot (root.shutAt shut []) :=
  rfl

/-- A search that is done stays so when folders are shut. -/
theorem withShut_done : done.withShut shut = done :=
  rfl

/-- What is read behind a shut folder is not there. -/
theorem withShut_read_of_behind (h : path.isBehind shut = true)
    (folders : List (FilePath × Entry)) :
    (read path entry folders).withShut shut = withShut shut ⟨(path, entry) :: folders, []⟩ := by
  unfold read withShut
  rw [shutFolders_append, shutFolders_subfolders, filter_artifacts,
    shutFolders_cons_of_behind h, h, Bool.true_or, if_pos rfl, if_pos rfl]
  rfl

/-- Reading another folder comes to the same with shut folders: it is shut itself, or it lists the
same names. -/
theorem withShut_read_of_open (h : path.isBehind shut = false)
    (folders : List (FilePath × Entry)) : (read path entry folders).withShut shut =
      read path (entry.shutAt shut path) (shutFolders shut folders) := by
  unfold read withShut
  rw [shutFolders_append, shutFolders_subfolders, filter_artifacts, Entry.entries_shutAt, h,
    Bool.false_or]
  split <;> rfl

/-- A move behind a shut folder does not take place when folders are shut. -/
theorem Step.withShut_of_behind (h : Step s m t) (hbehind : m.path.isBehind shut = true) :
    t.withShut shut = s.withShut shut := by
  cases h with
  | reads path entry folders => exact withShut_read_of_behind hbehind folders
  | returns folders path found =>
    have hfile : path.isBehind shut = true := hbehind
    simp [withShut, hfile]

/-- A move that is not behind a shut folder takes place when folders are shut. -/
theorem Step.withShut_of_open (h : Step s m t) (hopen : m.path.isBehind shut = false) :
    Step (s.withShut shut) m (t.withShut shut) := by
  cases h with
  | reads path entry folders =>
    have hfolder : path.isBehind shut = false := hopen
    rw [withShut_read_of_open hfolder, ArtifactSearch.withShut, shutFolders_cons_of_open hfolder]
    exact .reads path _ _
  | returns folders path found =>
    have hfile : path.isBehind shut = false := hopen
    simpa [withShut, hfile] using Step.returns _ path _

/-- With shut folders a search makes the same moves, but for those behind them. -/
theorem Run.withShut (h : Run s moves t) : Run (s.withShut shut)
    (moves.filter fun m => !m.path.isBehind shut) (t.withShut shut) := by
  induction h with
  | refl s => exact .refl _
  | @cons s t u m moves first rest ih =>
    cases hbehind : m.path.isBehind shut with
    | false =>
      rw [List.filter_cons_of_pos (by rw [hbehind, Bool.not_false])]
      exact .cons (first.withShut_of_open hbehind) ih
    | true =>
      rw [List.filter_cons_of_neg (by rw [hbehind, Bool.not_true]; exact Bool.false_ne_true),
        ← first.withShut_of_behind hbehind]
      exact ih

end ArtifactSearch

end ContractHarness
