import ReasonBindings.Text.Quoted
import ReasonBindings.TracedIn

/-!
# Access to files

The commands read and write whole files.  They are stated over any monad that
offers these two operations, so that the same commands run on the files of the
computer and on files in memory.

Paths and names come from outside and need not be text: what is no text in them is
held by characters that have no encoding.  Such a character can be part of a path,
but it cannot be written to a file, and this is noticed only when the file has been
opened.
-/

namespace ReasonBindings

/-- Why a file cannot be opened: the number and the wording of the reason. -/
structure Refusal where
  number : Nat
  reason : String
deriving Repr, BEq, DecidableEq

namespace Refusal

/-- There is nothing at the path. -/
def notFound : Refusal := ⟨2, "No such file or directory"⟩

/-- Something on the way is not a directory. -/
def notDirectory : Refusal := ⟨20, "Not a directory"⟩

/-- There is a directory at the path. -/
def isDirectory : Refusal := ⟨21, "Is a directory"⟩

/-- A part of the path, or the path as a whole, is too long. -/
def nameTooLong : Refusal := ⟨36, "File name too long"⟩

/-- The wording of a refusal for a certain path. -/
def message (refusal : Refusal) (path : String) : String :=
  s!"[Errno {refusal.number}] {refusal.reason}: {Text.quoted path}"

end Refusal

/-- What keeps a file from being read or written. -/
inductive Obstacle where
  /-- The operating system refuses. -/
  | refused (refusal : Refusal)
  /-- The path or the text has no encoding. -/
  | unencodable
deriving Repr, BEq, DecidableEq

/-- The operations on files. -/
class FileAccess (m : Type → Type) where
  /-- The contents of a file. -/
  read : String → m (Except Obstacle (List UInt8))
  /-- Makes a text the contents of a file. -/
  write : String → String → m (Except Obstacle Unit)

/-- Files as a state: what is read in a state, and the state after something has been written. -/
class FileSystem (σ : Type) where
  /-- The contents of a file. -/
  read : σ → String → Except Obstacle (List UInt8)
  /-- Whether a text became the contents of a file, and the state afterwards in either case. -/
  write : σ → String → String → Except Obstacle Unit × σ

instance {σ : Type} [FileSystem σ] : FileAccess (StateM σ) where
  read path := return FileSystem.read (← get) path
  write path text := modifyGet (FileSystem.write · path text)

namespace FileAccess

variable {m : Type → Type} [Monad m] [FileAccess m]

/-- An operation on the file at a path.  A refusal is worded; a path with a NUL character cannot
be handed to a file system at all, and a text without encoding cannot be written. -/
def atPath {α : Type} (path : String) (operation : m (Except Obstacle α)) :
    TracedIn m (Except String α) :=
  if path.toList.contains '\x00' then TracedIn.ofTraced (Traced.fault .nulInPath)
  else do
    match ← operation with
    | .ok value => return .ok value
    | .error (.refused refusal) => return .error (refusal.message path)
    | .error .unencodable => Traced.fault .unencodable

/-- The contents of the file at a path, or why it cannot be read. -/
def contents (path : String) : TracedIn m (Except String (List UInt8)) :=
  atPath path (read path)

/-- Makes a text the contents of the file at a path, or says why that is impossible. -/
def replace (path text : String) : TracedIn m (Except String Unit) :=
  atPath path (write path text)

end FileAccess

end ReasonBindings
