import ReasonBindings.Files.Access

/-!
# Files in memory

A disk holds a tree of directories and files and knows its current directory.
Paths are followed part by part: every part but the last must name a directory,
and `..` leads back to the directory above.

A disk also knows which characters can be encoded.  A file is opened before the text
for it is encoded, so a text that has no encoding leaves an empty file behind.
-/

namespace ReasonBindings

/-- A file or a directory. -/
inductive Entry where
  | file (bytes : List UInt8)
  | directory (entries : List (String × Entry))

namespace Entry

/-- The entry that a directory has under a name. -/
def child? (name : String) : Entry → Option Entry
  | file _ => none
  | directory entries => entries.lookup name

/-- Whether an entry is a directory. -/
def isDirectory : Entry → Bool
  | file _ => false
  | directory _ => true

/-- The entries of a directory. -/
def entries : Entry → List (String × Entry)
  | file _ => []
  | directory entries => entries

/-- The entry at a place below. -/
def at? (entry : Entry) : List String → Option Entry
  | [] => some entry
  | name :: place => (entry.child? name).bind (·.at? place)

/-- The list with an entry under a name, in the place of the one that had the name. -/
def withEntry (name : String) (entry : Entry) (entries : List (String × Entry)) :
    List (String × Entry) :=
  (name, entry) :: entries.filter (·.1 != name)

/-- The tree with another entry at a place; directories on the way are made where they are
missing. -/
def put : Entry → List String → Entry → Entry
  | _, [], new => new
  | entry, name :: place, new =>
    directory (withEntry name (((entry.child? name).getD (directory [])).put place new)
      entry.entries)

/-- The tree without the entry at a place. -/
def remove : Entry → List String → Entry
  | _, [] => directory []
  | file bytes, [_] => file bytes
  | directory entries, [name] => directory (entries.filter (·.1 != name))
  | entry, name :: place =>
    match entry.child? name with
    | some child => directory (withEntry name (child.remove place) entry.entries)
    | none => entry

/-- What is put at a place is there. -/
@[simp] theorem at?_put (entry new : Entry) (place : List String) :
    (entry.put place new).at? place = some new := by
  induction place generalizing entry with
  | nil => rfl
  | cons name place ih => simp [put, at?, child?, withEntry, ih]

end Entry

/-- How a character can be encoded. -/
inductive Coding where
  /-- As text. -/
  | text
  /-- In paths only, where it stands for a byte that is no text. -/
  | path
  /-- Not at all. -/
  | never
deriving Repr, BEq, DecidableEq

/-- Directories and files, and the current directory. -/
structure Disk where
  /-- The absolute path of the current directory. -/
  directory : String
  root : Entry
  /-- How the characters can be encoded. -/
  coding : Char → Coding := fun _ => .text

namespace Disk

/-- The parts of a path from the root on. -/
def partsOf (disk : Disk) (path : String) : List String :=
  let parts := Path.properParts path.toList
  let full := if Path.rootSlashes path.toList = 0 then
      Path.properParts disk.directory.toList ++ parts
    else parts
  full.map String.ofList

/-- A disk with nothing but an empty current directory. -/
def empty (directory : String) : Disk where
  directory := directory
  root := (Entry.directory []).put ((Path.properParts directory.toList).map String.ofList)
    (.directory [])

/-- The longest name of an entry, in bytes. -/
def nameLimit : Nat := 255

/-- The longest path, in bytes. -/
def pathLimit : Nat := 4095

/-- The place of an entry of the directory at a place. -/
def step (root : Entry) (place : List String) (name : String) : Except Refusal (List String) :=
  match root.at? place with
  | none => .error .notFound
  | some entry =>
    if !entry.isDirectory then .error .notDirectory
    else if name = ".." then .ok place.dropLast
    else if name.utf8ByteSize > nameLimit then .error .nameTooLong
    else if (entry.child? name).isSome then .ok (place ++ [name])
    else .error .notFound

/-- The contents of the file at a path. -/
def read (disk : Disk) (path : String) : Except Refusal (List UInt8) := do
  if path.utf8ByteSize > pathLimit then throw .nameTooLong
  let place ← (disk.partsOf path).foldlM (step disk.root) []
  match disk.root.at? place with
  | some (.file bytes) => return bytes
  | some (.directory _) => throw .isDirectory
  | none => throw .notFound

/-- The place of the file that is written at a path; the file itself may be missing. -/
def target (disk : Disk) (path : String) : Except Refusal (List String) := do
  if path.utf8ByteSize > pathLimit then throw .nameTooLong
  let parts := disk.partsOf path
  match parts.getLast? with
  | none => throw .isDirectory
  | some name =>
    let directory ← parts.dropLast.foldlM (step disk.root) []
    match step disk.root directory name with
    | .ok place =>
      if (disk.root.at? place).any Entry.isDirectory then throw .isDirectory
      return place
    | .error refusal =>
      if refusal = .notFound then return directory ++ [name]
      throw refusal

/-- Whether a path can be encoded. -/
def names (disk : Disk) (path : String) : Bool :=
  (disk.partsOf path).all (·.toList.all (disk.coding · != .never))

/-- Whether a text can be encoded. -/
def encodes (disk : Disk) (text : String) : Bool :=
  text.toList.all (disk.coding · == .text)

/-- The place of the file that is opened at a path to be written, or why it cannot be opened. -/
def openFor (disk : Disk) (path : String) : Except Obstacle (List String) :=
  if disk.names path then (disk.target path).mapError .refused else .error .unencodable

/-- The disk with a file at a place. -/
def withFile (disk : Disk) (place : List String) (bytes : List UInt8) : Disk :=
  { disk with root := disk.root.put place (.file bytes) }

/-- Makes a text the contents of the file at a path.  The file is emptied when it is opened. -/
def write (disk : Disk) (path text : String) : Except Obstacle Unit × Disk :=
  match disk.openFor path with
  | .error obstacle => (.error obstacle, disk)
  | .ok place =>
    if disk.encodes text then (.ok (), disk.withFile place text.toUTF8.toList)
    else (.error .unencodable, disk.withFile place [])

/-- The disk with another entry at a path; directories on the way are made where they are
missing, and an empty directory does not take the place of one that is there. -/
def put (disk : Disk) (path : String) (entry : Entry) : Disk :=
  let place := disk.partsOf path
  match entry, disk.root.at? place with
  | .directory [], some (.directory _) => disk
  | _, _ => { disk with root := disk.root.put place entry }

/-- The disk without the entry at a path. -/
def remove (disk : Disk) (path : String) : Disk :=
  { disk with root := disk.root.remove (disk.partsOf path) }

instance : FileSystem Disk where
  read disk path :=
    if disk.names path then (disk.read path).mapError .refused else .error .unencodable
  write := write

end Disk

end ReasonBindings
