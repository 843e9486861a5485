import ReasonBindings.Text.Blank

/-!
# Paths

A path is a text whose parts are separated by slashes.  Its *normal form* keeps
every `..` and drops empty parts and single dots; its *absolute form* starts from
a given directory and also resolves every `..` against the part before it.  Two
leading slashes are a root of their own, three or more mean the same as one.
-/

namespace ReasonBindings.Path

open ReasonBindings.Text

/-- The parts of a path, among them the empty parts between repeated slashes. -/
def rawParts (path : List Char) : List (List Char) :=
  pieces '/' path

/-- Whether a part names something: empty parts and single dots name nothing. -/
def isProper (part : List Char) : Bool :=
  !part.isEmpty && part != ['.']

/-- The number of slashes that the root of a path is written with. -/
def rootSlashes (path : List Char) : Nat :=
  match (path.takeWhile (· = '/')).length with
  | 0 => 0
  | 2 => 2
  | _ => 1

/-- Parts with slashes between them. -/
def join (parts : List (List Char)) : List Char :=
  ['/'].intercalate parts

/-- A root with parts below it; a single dot when there is neither. -/
def write (slashes : Nat) (parts : List (List Char)) : List Char :=
  if slashes = 0 && parts.isEmpty then ['.']
  else List.replicate slashes '/' ++ join parts

/-- The proper parts of a path. -/
def properParts (path : List Char) : List (List Char) :=
  (rawParts path).filter isProper

/-- The path without empty parts, single dots and trailing slashes. -/
def normal (path : String) : String :=
  String.ofList (write (rootSlashes path.toList) (properParts path.toList))

/-- What follows the last slash of a list of parts, which is never empty. -/
def lastPart (path : List Char) : List Char :=
  (rawParts path).getLastD []

/-- The text after the last slash. -/
def base (path : String) : String :=
  String.ofList (lastPart path.toList)

/-- Adds a part to an absolute directory, whose parts are held innermost first: `..` leaves the
directory, and leaving the root stays there. -/
def enter (directory : List (List Char)) (part : List Char) : List (List Char) :=
  if part = ['.', '.'] then directory.drop 1 else part :: directory

/-- The parts of an absolute path with every `..` resolved. -/
def resolve (parts : List (List Char)) : List (List Char) :=
  (parts.foldl enter []).reverse

/-- The path as seen from the root when `directory` is the current directory. -/
def absolute (directory path : String) : String :=
  let slashes := rootSlashes path.toList
  let parts := properParts path.toList
  String.ofList (if slashes = 0 then
      write (rootSlashes directory.toList) (resolve (properParts directory.toList ++ parts))
    else write slashes (resolve parts))

/-- The path without the given ending, if it has that ending. -/
def dropEnding? (ending path : List Char) : Option (List Char) :=
  if ending.isSuffixOf path then some (path.take (path.length - ending.length)) else none

/-- The endings of declaration files, longer ones before those they end in. -/
def declarationEndings : List String :=
  [".d.ts", ".d.mts", ".d.cts", ".ts"]

/-- The path without the first ending of declaration files that it has, if it has one. -/
def stem? (path : List Char) : Option (List Char) :=
  declarationEndings.findSome? fun ending => dropEnding? ending.toList path

/-- The path without its ending of declaration files. -/
def stem (path : List Char) : List Char :=
  (stem? path).getD path

/-- The name of the module that a declaration file describes. -/
def moduleName (path : String) : String :=
  String.ofList (stem (lastPart path.toList))

/-- The file that the bindings of a declaration file are written to by default. -/
def bindingsFile (path : String) : String :=
  normal (String.ofList (stem path.toList ++ ".re".toList))

/-- Nothing is the current directory. -/
theorem normal_empty : normal "" = "." := by decide

/-- An ending comes off what it was put on. -/
theorem dropEnding?_append (ending path : List Char) :
    dropEnding? ending (path ++ ending) = some path := by
  simp [dropEnding?]

end ReasonBindings.Path
