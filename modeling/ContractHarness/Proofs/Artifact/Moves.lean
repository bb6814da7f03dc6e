import ContractHarness.Proofs.Artifact.Search

/-!
# The moves of a search

A search does two things: it reads a folder, and it returns a file. `Step` is one of these moves and
`Run` any number of them. A call for the next file is a run of readings up to the first file
(`next?_eq_some_iff`), so the runs tell what happens between the calls as well.

Every move leaves less to do, and there is only one move at a time. So a search comes to its end in
one way, and whatever it does is the beginning of that way (`Run.rest`).
-/

set_option autoImplicit false

namespace ContractHarness

namespace ArtifactSearch

/-! ## Moves -/

/-- What a search can do at a path. -/
inductive Move where
  /-- It reads a folder, or finds that it cannot be read. -/
  | reads (folder : FilePath)
  /-- It returns a file. -/
  | returns (file : FilePath)
deriving DecidableEq, Repr

namespace Move

/-- The path of the folder or the file. -/
def path : Move → FilePath
  | .reads folder => folder
  | .returns file => file

/-- The folder that is read. -/
def folder? : Move → Option FilePath
  | .reads folder => some folder
  | .returns _ => none

/-- The file that is returned. -/
def file? : Move → Option FilePath
  | .reads _ => none
  | .returns file => some file

end Move

/-- A search with nothing left to do. -/
def done : ArtifactSearch where
  folders := []
  found := []

/-- One move of a search. -/
inductive Step : ArtifactSearch → Move → ArtifactSearch → Prop where
  /-- While there are no files to return, the next folder is read. -/
  | reads (path : FilePath) (entry : Entry) (folders : List (FilePath × Entry)) :
    Step ⟨(path, entry) :: folders, []⟩ (.reads path) (read path entry folders)
  /-- While there are files, the next one is returned. -/
  | returns (folders : List (FilePath × Entry)) (path : FilePath) (found : List FilePath) :
    Step ⟨folders, path :: found⟩ (.returns path) ⟨folders, found⟩

/-- Moves of a search, one after the other. -/
inductive Run : ArtifactSearch → List Move → ArtifactSearch → Prop where
  | refl (s : ArtifactSearch) : Run s [] s
  | cons {s t u : ArtifactSearch} {m : Move} {moves : List Move} (first : Step s m t)
    (rest : Run t moves u) : Run s (m :: moves) u

variable {s t u : ArtifactSearch} {m m' : Move} {moves before after : List Move}
  {path : FilePath}

/-- Every move makes a search smaller. -/
theorem Step.size_lt (h : Step s m t) : t.size < s.size := by
  cases h with
  | reads path entry folders => exact size_read path entry folders
  | returns folders path found => simp [size]

/-- A search has one move at a time. -/
theorem Step.unique (h : Step s m t) (h' : Step s m' u) : m' = m ∧ u = t := by
  cases h with
  | reads path entry folders =>
    cases h'
    exact ⟨rfl, rfl⟩
  | returns folders path found =>
    cases h'
    exact ⟨rfl, rfl⟩

/-- A search that is done has no move. -/
theorem not_step_done : ¬ Step done m t := by
  rintro ⟨⟩

/-- A search is done or has a move. -/
theorem eq_done_or_exists_step (s : ArtifactSearch) : s = done ∨ ∃ m t, Step s m t := by
  match s with
  | ⟨[], []⟩ => exact .inl rfl
  | ⟨folders, path :: found⟩ => exact .inr ⟨_, _, .returns folders path found⟩
  | ⟨(path, entry) :: folders, []⟩ => exact .inr ⟨_, _, .reads path entry folders⟩

/-! ## Runs -/

/-- One move is a run. -/
theorem Run.single (h : Step s m t) : Run s [m] t :=
  .cons h (.refl t)

/-- Two runs, one after the other, are a run. -/
theorem Run.append (h : Run s before t) (h' : Run t after u) : Run s (before ++ after) u := by
  induction h with
  | refl s => exact h'
  | cons first rest ih => exact .cons first (ih h')

/-- A run can be interrupted between any two moves. -/
theorem Run.split (h : Run s (before ++ after) u) : ∃ t, Run s before t ∧ Run t after u := by
  induction before generalizing s with
  | nil => exact ⟨s, .refl s, h⟩
  | cons m before ih =>
    cases h with
    | cons first rest =>
      obtain ⟨t, hbefore, hafter⟩ := ih rest
      exact ⟨t, .cons first hbefore, hafter⟩

/-- A search comes to its end. -/
theorem exists_run_done (s : ArtifactSearch) : ∃ moves, Run s moves done := by
  generalize hsize : s.size = size
  induction size using Nat.strongRecOn generalizing s with
  | ind size ih =>
    subst hsize
    rcases eq_done_or_exists_step s with rfl | ⟨m, t, hstep⟩
    · exact ⟨[], .refl _⟩
    · obtain ⟨moves, hrun⟩ := ih t.size hstep.size_lt t rfl
      exact ⟨m :: moves, .cons hstep hrun⟩

/-- The way to the end goes on from wherever a search is. -/
theorem Run.rest (h : Run s before t) (hdone : Run s moves done) :
    ∃ after, moves = before ++ after ∧ Run t after done := by
  induction h generalizing moves with
  | refl s => exact ⟨moves, rfl, hdone⟩
  | cons first rest ih =>
    cases hdone with
    | refl => exact absurd first not_step_done
    | cons first' rest' =>
      obtain ⟨rfl, rfl⟩ := first.unique first'
      obtain ⟨after, rfl, hafter⟩ := ih rest'
      exact ⟨after, rfl, hafter⟩

/-! ## Calls -/

/-- A search that is done returns no file. -/
theorem next?_done : done.next? = none := by
  unfold done
  rw [next?]

/-- To read a folder changes nothing about the next file. -/
theorem Step.next?_of_reads (h : Step s (.reads path) t) : s.next? = t.next? := by
  cases h
  rw [next?]

/-- The next file is the one that a move returns. -/
theorem Step.next?_of_returns (h : Step s (.returns path) t) : s.next? = some (path, t) := by
  cases h
  rw [next?]

/-- To read folders changes nothing about the next file. -/
theorem Run.next?_of_reads {folders : List FilePath} (h : Run s (folders.map .reads) t) :
    s.next? = t.next? := by
  induction folders generalizing s with
  | nil =>
    cases h
    rfl
  | cons folder folders ih =>
    cases h with
    | cons first rest => rw [first.next?_of_reads, ih rest]

/-- A search can read until there is a file to return, or nothing left. -/
theorem exists_reads (s : ArtifactSearch) : ∃ (folders : List FilePath) (t : ArtifactSearch),
    Run s (folders.map .reads) t ∧ (t = done ∨ ∃ path u, Step t (.returns path) u) := by
  generalize hsize : s.size = size
  induction size using Nat.strongRecOn generalizing s with
  | ind size ih =>
    subst hsize
    rcases eq_done_or_exists_step s with rfl | ⟨m, t, hstep⟩
    · exact ⟨[], done, .refl _, .inl rfl⟩
    · cases m with
      | returns file => exact ⟨[], s, .refl _, .inr ⟨file, t, hstep⟩⟩
      | reads folder =>
        obtain ⟨folders, u, hrun, hend⟩ := ih t.size hstep.size_lt t rfl
        exact ⟨folder :: folders, u, .cons hstep hrun, hend⟩

/-- A call that returns a file reads folders until there is one. -/
theorem next?_eq_some_iff : s.next? = some (path, t) ↔
    ∃ folders : List FilePath, Run s (folders.map .reads ++ [.returns path]) t := by
  constructor
  · intro h
    obtain ⟨folders, u, hrun, rfl | ⟨file, v, hstep⟩⟩ := exists_reads s
    · rw [hrun.next?_of_reads, next?_done] at h
      cases h
    · rw [hrun.next?_of_reads, hstep.next?_of_returns] at h
      cases h
      exact ⟨folders, hrun.append (.single hstep)⟩
  · rintro ⟨folders, hrun⟩
    obtain ⟨u, hreads, hlast⟩ := hrun.split
    cases hlast with
    | cons step rest =>
      cases rest
      rw [hreads.next?_of_reads, step.next?_of_returns]

/-- A call that returns nothing reads all folders that are left. -/
theorem next?_eq_none_iff :
    s.next? = none ↔ ∃ folders : List FilePath, Run s (folders.map .reads) done := by
  constructor
  · intro h
    obtain ⟨folders, u, hrun, rfl | ⟨file, v, hstep⟩⟩ := exists_reads s
    · exact ⟨folders, hrun⟩
    · rw [hrun.next?_of_reads, hstep.next?_of_returns] at h
      cases h
  · rintro ⟨folders, hrun⟩
    rw [hrun.next?_of_reads, next?_done]

/-! ## What a run returns -/

/-- A move takes the file that it returns, and nothing else, from the start of the list. -/
theorem Step.toList (h : Step s m t) : s.toList = m.file?.toList ++ t.toList := by
  cases h with
  | reads path entry folders => exact toList_folder
  | returns folders path found => exact toList_found

/-- A run takes the files that it returns, in its order, from the start of the list. -/
theorem Run.toList (h : Run s moves t) : s.toList = moves.filterMap Move.file? ++ t.toList := by
  induction h with
  | refl s => rfl
  | @cons s t u m moves first rest ih =>
    rw [first.toList, ih, ← List.append_assoc]
    cases m <;> rfl

/-- A file is among those of the moves when a move returns it. -/
theorem mem_files_iff : path ∈ moves.filterMap Move.file? ↔ .returns path ∈ moves := by
  rw [List.mem_filterMap]
  constructor
  · rintro ⟨m, hmem, hfile⟩
    cases m with
    | reads folder => cases hfile
    | returns file =>
      cases hfile
      exact hmem
  · intro h
    exact ⟨_, h, rfl⟩

/-- A folder is among those of the moves when a move reads it. -/
theorem mem_folders_iff : path ∈ moves.filterMap Move.folder? ↔ .reads path ∈ moves := by
  rw [List.mem_filterMap]
  constructor
  · rintro ⟨m, hmem, hfolder⟩
    cases m with
    | returns file => cases hfolder
    | reads folder =>
      cases hfolder
      exact hmem
  · intro h
    exact ⟨_, h, rfl⟩

end ArtifactSearch

end ContractHarness
