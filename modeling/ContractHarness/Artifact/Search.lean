import ContractHarness.Artifact.Tree

/-!
# Searching for artifacts

Artifacts are the regular files below a folder whose extension is `json`, without the notes that a
compiler keeps beside them. The search reads one folder at a time, and only when every file that it
has found so far was returned. A folder that cannot be read has nothing in it, and neither has a
root that is no folder.
-/

set_option autoImplicit false

namespace ContractHarness

/-- A file of this name is an artifact. -/
def FileName.isArtifact (name : FileName) : Bool :=
  name.isJson && !name.isDebug

/-- What a search has still to do. -/
structure ArtifactSearch where
  /-- The folders that are not read yet, the next one first. -/
  folders : List (FilePath × Entry)
  /-- The files that were found and not returned, the next one first. -/
  found : List FilePath

namespace ArtifactSearch

/-- The search below a root. -/
def ofRoot (root : Entry) : ArtifactSearch where
  folders := [([], root)]
  found := []

/-- The search below a written path. Where the path leads nowhere there is no folder to read. -/
def ofPlace (files : Entry) (root : String) : ArtifactSearch :=
  ofRoot ((files.find? root).toOption.getD .other)

/-- The folders among the entries of a folder, the last one first. -/
def subfolders (path : FilePath) (entries : List (FileName × Entry)) : List (FilePath × Entry) :=
  ((entries.filter (·.2.isFolder)).map fun (name, entry) => (path ++ [name], entry)).reverse

/-- The artifacts among the entries of a folder, the last one first. -/
def artifacts (path : FilePath) (entries : List (FileName × Entry)) : List FilePath :=
  ((entries.filter fun (name, entry) => entry.isFile && name.isArtifact).map
    fun (name, _) => path ++ [name]).reverse

/-- Reads a folder, whose own folders come next. -/
def read (path : FilePath) (entry : Entry) (folders : List (FilePath × Entry)) :
    ArtifactSearch where
  folders := subfolders path entry.entries ++ folders
  found := artifacts path entry.entries

/-- How many entries the folders have that are not read yet. -/
def weight : List (FilePath × Entry) → Nat
  | [] => 0
  | (_, entry) :: folders => entry.size + weight folders

/-- The weight of folders is the sum of the weights of their parts. -/
theorem weight_append (a b : List (FilePath × Entry)) : weight (a ++ b) = weight a + weight b := by
  induction a with
  | nil => simp [weight]
  | cons folder folders ih => simp [weight, ih, Nat.add_assoc]

/-- The weight of folders does not depend on their order from the end or the start. -/
theorem weight_reverse (folders : List (FilePath × Entry)) :
    weight folders.reverse = weight folders := by
  induction folders with
  | nil => rfl
  | cons folder folders ih => simp [weight_append, weight, ih, Nat.add_comm]

/-- What a folder adds to a search is no larger than its entries are together. -/
theorem size_subfolders (path : FilePath) (entries : List (FileName × Entry)) :
    weight (subfolders path entries) + (artifacts path entries).length ≤ Entry.sizes entries := by
  induction entries with
  | nil => simp [subfolders, artifacts, weight, Entry.sizes]
  | cons first rest ih =>
    obtain ⟨name, entry⟩ := first
    simp only [subfolders, artifacts, weight_reverse, List.length_reverse, List.length_map,
      Entry.sizes] at ih ⊢
    by_cases hname : name.isArtifact <;> cases entry <;>
      simp [Entry.isFolder, Entry.isFile, Entry.size, weight, hname] at ih ⊢ <;> omega

/-- How much a search has still to do. -/
def size (s : ArtifactSearch) : Nat :=
  weight s.folders + s.found.length

/-- Reading a folder makes a search smaller. -/
theorem size_read (path : FilePath) (entry : Entry) (folders : List (FilePath × Entry)) :
    (read path entry folders).size < weight ((path, entry) :: folders) := by
  have below := size_subfolders path entry.entries
  have less := entry.sizes_entries_lt
  simp only [size, read, weight_append]
  have : weight ((path, entry) :: folders) = entry.size + weight folders := by simp [weight]
  omega

/-- The next file, found by reading folders while there are none. -/
def next? (s : ArtifactSearch) : Option (FilePath × ArtifactSearch) :=
  match s with
  | ⟨folders, path :: found⟩ => some (path, ⟨folders, found⟩)
  | ⟨[], []⟩ => none
  | ⟨(path, entry) :: folders, []⟩ => next? (read path entry folders)
termination_by s.size
decreasing_by
  exact size_read path entry folders

/-- A search is smaller after each path that it returns. -/
theorem size_of_next? {s t : ArtifactSearch} {path : FilePath} (h : s.next? = some (path, t)) :
    t.size < s.size := by
  fun_induction next? s with
  | case1 folders first found => simp_all [size]; obtain ⟨-, rfl⟩ := h; simp
  | case2 => simp at h
  | case3 path' entry folders ih =>
    have := size_read path' entry folders
    have := ih h
    simp only [size, List.length_nil] at *
    omega

/-- All files that a search finds, in the order in which it returns them. -/
def toList (s : ArtifactSearch) : List FilePath :=
  match _h : s.next? with
  | none => []
  | some (path, rest) => path :: toList rest
termination_by s.size
decreasing_by
  exact size_of_next? _h

end ArtifactSearch

/-- The artifacts below an entry. -/
def Entry.artifacts (root : Entry) : List FilePath :=
  (ArtifactSearch.ofRoot root).toList

/-- A path below a root that is written as a text. -/
def FilePath.shownUnder (root : String) (path : FilePath) : String :=
  let start := if root.endsWith "/" then root else root ++ "/"
  start ++ "/".intercalate (path.map Utf8.decode)

end ContractHarness
