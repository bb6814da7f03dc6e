import ContractHarness.Text.Utf8

/-!
# Trees of files

What a build leaves on the disk: folders, files, and whatever else a folder may list. A name is a
sequence of bytes and need not be text. A folder lists its entries in some order, on which nothing
should depend.

A place is found by walking from a folder through names, where `.` stays and `..` goes back.
-/

set_option autoImplicit false

namespace ContractHarness

/-- The name of an entry in its folder. -/
abbrev FileName := List UInt8

/-- The names on the way from a folder to a place below it. -/
abbrev FilePath := List FileName

/-- What a folder can list under a name. -/
inductive Entry where
  /-- A regular file. -/
  | file (content : String)
  /-- A folder with its entries, in the order in which they are listed. -/
  | folder (entries : List (FileName × Entry))
  /-- A folder that cannot be read. -/
  | sealed
  /-- Neither a file nor a folder. -/
  | other
deriving Repr, Inhabited

namespace FileName

/-- The byte between the stem and the extension of a name. -/
def dot : UInt8 := 0x2E

/-- A name of ASCII characters. -/
def ofText (text : String) : FileName :=
  Utf8.encode text

/-- The part before the last dot and the part behind it. A name without a dot, or with its last dot
in front, has no extension. -/
def split (name : FileName) : FileName × Option FileName :=
  let behind := (name.reverse.takeWhile (· ≠ dot)).reverse
  let before := name.take (name.length - behind.length - 1)
  if behind.length = name.length ∨ before.isEmpty then (name, none) else (before, some behind)

/-- The name without its extension. -/
def stem (name : FileName) : FileName :=
  name.split.1

/-- A byte in lower case, if it is an ASCII letter. -/
def lowerByte (b : UInt8) : UInt8 :=
  if 0x41 ≤ b ∧ b ≤ 0x5A then b + 0x20 else b

/-- The name has the extension `json`, in letters of any case. -/
def isJson (name : FileName) : Bool :=
  name.split.2.any fun extension => extension.map lowerByte = ofText "json"

/-- The name is that of the notes that a compiler keeps beside an artifact. -/
def isDebug (name : FileName) : Bool :=
  Utf8.isValid name && (ofText ".dbg.json").isSuffixOf name

end FileName

namespace Entry

mutual
/-- How many entries there are, with the entry itself. -/
def size : Entry → Nat
  | .folder entries => sizes entries + 1
  | _ => 1

/-- How many entries there are below a list of them. -/
def sizes : List (FileName × Entry) → Nat
  | [] => 0
  | (_, entry) :: rest => entry.size + sizes rest
end

/-- The entry is a folder. -/
def isFolder : Entry → Bool
  | .folder _ => true
  | .sealed => true
  | _ => false

/-- The entry is a regular file. -/
def isFile : Entry → Bool
  | .file _ => true
  | _ => false

/-- What the entry lists. -/
def entries : Entry → List (FileName × Entry)
  | .folder entries => entries
  | _ => []

/-- The entry of a name. -/
def child? (entry : Entry) (name : FileName) : Option Entry :=
  (entry.entries.find? (·.1 = name)).map Prod.snd

/-- The entries of a folder are smaller together than the folder is. -/
theorem sizes_entries_lt (entry : Entry) : sizes entry.entries < entry.size := by
  cases entry <;> simp [entries, size, sizes]

end Entry

/-- Why there is nothing to read at a place. -/
inductive PlaceError where
  | notFound
  | notFolder
  | isFolder
  | denied
deriving DecidableEq, Repr

/-- The words of the system for an error. -/
def PlaceError.message : PlaceError → String
  | .notFound => "No such file or directory (os error 2)"
  | .notFolder => "Not a directory (os error 20)"
  | .isFolder => "Is a directory (os error 21)"
  | .denied => "Permission denied (os error 13)"

namespace Entry

/-- Walks from an entry through names, with the folders that were left behind on the way. -/
def walk (above : List Entry) (here : Entry) : FilePath → Except PlaceError Entry
  | [] => .ok here
  | name :: rest =>
    match here with
    | .sealed => .error .denied
    | .folder _ =>
      if name = FileName.ofText "." then walk above here rest
      else if name = FileName.ofText ".." then
        match above with
        | [] => .error .notFound
        | parent :: above => walk above parent rest
      else
        match here.child? name with
        | some entry => walk (here :: above) entry rest
        | none => .error .notFound
    | _ => .error .notFolder

/-- The entry at the end of a path. -/
def at? (entry : Entry) (path : FilePath) : Except PlaceError Entry :=
  walk [] entry path

end Entry

/-- The steps of a path that is written with slashes, seen from the current folder. -/
def FilePath.ofText (text : String) : FilePath :=
  (text.splitOn "/").filterMap fun name => if name = "" then none else some (FileName.ofText name)

namespace Entry

/-- The entry at a written path. The empty path leads nowhere, and so does one from the root of the
disk. -/
def find? (entry : Entry) (path : String) : Except PlaceError Entry :=
  if path = "" ∨ path.startsWith "/" then .error .notFound else entry.at? (FilePath.ofText path)

/-- Puts an entry under a name, where it replaces what was there. -/
def put (name : FileName) (entry : Entry) : List (FileName × Entry) → List (FileName × Entry)
  | [] => [(name, entry)]
  | (key, old) :: rest =>
    if key = name then (name, entry) :: rest else (key, old) :: put name entry rest

/-- Writes an entry at a path below a folder, with the folders on the way to it. -/
def write (here : Entry) (entry : Entry) : FilePath → Entry
  | [] => entry
  | name :: rest =>
    let below := (here.child? name).getD (.folder [])
    .folder (put name (below.write entry rest) here.entries)

/-- Removes the entry at a path below a folder. -/
def remove (here : Entry) : FilePath → Entry
  | [] => here
  | [name] => .folder (here.entries.filter (·.1 ≠ name))
  | name :: rest =>
    match here.child? name with
    | some below => .folder (put name (below.remove rest) here.entries)
    | none => here

end Entry

end ContractHarness
