import ContractHarness.Artifact.Search
import ContractHarness.Contract
import ContractHarness.Notice
import ContractHarness.OrderedMap

/-!
# The index of artifacts

An artifact is known by the stem of its file name. Where several files share a stem, the one with
the shortest path is meant, and among those of equal length the one that comes first when paths are
compared name by name. So the index depends on the files only, and not on the order in which their
folders are listed. A stem that is no text names no artifact.
-/

set_option autoImplicit false

namespace ContractHarness

/-- The first path goes before the second or is the same: it is shorter, or of equal length and not
greater. -/
def FilePath.goesBefore (a b : FilePath) : Bool :=
  a.length < b.length || (a.length = b.length && decide (a ≤ b))

/-- The name of the artifact in a file, if the file has one. -/
def FilePath.artifactName? (path : FilePath) : Option ArtifactName :=
  path.getLast?.bind fun name =>
    if Utf8.isValid name.stem then some (Utf8.decode name.stem) else none

/-- Where the artifacts are, and which files are passed over because of their names. -/
structure ArtifactIndex where
  paths : OrderedMap ArtifactName FilePath := ∅
  ignored : List FilePath := []

namespace ArtifactIndex

/-- Adds a file, unless another one has its name already. -/
def add (index : ArtifactIndex) (path : FilePath) : ArtifactIndex :=
  match path.artifactName? with
  | none => index
  | some name =>
    match index.paths.get? name with
    | some _ => { index with ignored := index.ignored ++ [path] }
    | none => { index with paths := index.paths.insert name path }

/-- The index of files. -/
def ofPaths (paths : List FilePath) : ArtifactIndex :=
  (paths.mergeSort FilePath.goesBefore).foldl add {}

/-- What is told about an index: a warning for each file that is passed over, and that it is
done. -/
def notices (index : ArtifactIndex) : List Notice :=
  index.ignored.map (fun _ => .warn "Found more than one artifact with the same name")
    ++ [.info "Indexed the contract artifacts"]

end ArtifactIndex

end ContractHarness
