import ReasonBindings.Files.Access
import ReasonBindings.Model.Build
import ReasonBindings.Model.Print
import ReasonBindings.ParseTree.Source
import ReasonBindings.Text.Newline

/-!
# The bindings of declaration files

The way from a declaration file to its bindings: the bytes of the file are read as
text, the text is parsed, the declarations are turned into the model of a library,
and the model is printed.  Only a file that cannot be read has no bindings.
-/

namespace ReasonBindings

open Model Syntax

/-- The bindings of the declarations in a syntax tree, with a name for the library if it is not the
one that the name of the file gives. -/
def bindingsOf (file : Node) (name : Option String) : Traced String := do
  (← fileOf file name).print

variable [SourceParser]

/-- The bindings of the declarations in a source text. -/
def bindingsOfSource (text fileName : String) (name : Option String) : Traced String := do
  bindingsOf (← parseDeclarations text fileName) name

/-- The bytes of a source file as text, or why they are none. -/
def sourceOfBytes (bytes : List UInt8) : Except String String :=
  match Text.Utf8.firstFlaw bytes with
  | some flaw => .error flaw.message
  | none => .ok (String.ofList (Text.unifyNewlines (Text.Utf8.decodeFrom none bytes)))

/-- The error of a declaration file that cannot be read. -/
def unreadable (path reason : String) : LocatedError :=
  .locate s!"Cannot read declarations: {reason}" .absent (some path) none

/-- The bindings of a declaration file, given its contents or why there are none. -/
def bindingsOfContents (path : String) (name : Option String)
    (contents : Except String (List UInt8)) : Traced String :=
  match contents.bind sourceOfBytes with
  | .error reason => Traced.fault (.located (unreadable path reason))
  | .ok text => bindingsOfSource text path name

/-- Reads a declaration file and gives its bindings. -/
def bindingsOfFile {m : Type → Type} [Monad m] [FileAccess m] (path : String)
    (name : Option String) : TracedIn m String := do
  Traced.note (.reading (Path.normal path))
  let contents ← FileAccess.contents (Path.normal path)
  bindingsOfContents (Path.normal path) name contents

end ReasonBindings
