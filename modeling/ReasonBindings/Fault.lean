import ReasonBindings.Path
import ReasonBindings.Syntax.Node

/-!
# Faults

A fault ends a computation.  Syntax trees come from outside and may hold any node
in any place, so reading an attribute that a node does not have is a fault; so is
asking a parse tree for the first part of a node that has none.  A declaration
file that cannot be read gives a *located error*, whose text names the file and
the line as far as they are known.  A path or a text that cannot be handed to the
system at all is a fault as well.
-/

namespace ReasonBindings

/-- An error with the place it belongs to. -/
structure LocatedError where
  message : String
  filePath : Option String
  line : Option Int
deriving Repr, BEq, DecidableEq

namespace LocatedError

/-- The error with a message in a file, at the given line or else at the line of the node that it
concerns. -/
def locate (message : String) (node : Syntax.Node) (filePath : Option String)
    (line : Option Int) : LocatedError where
  message := message
  filePath := filePath
  line := line.or (node.line?.getD none)

/-- The mention of the file, when a path is known and not empty. -/
def fileInfo (error : LocatedError) : String :=
  match error.filePath with
  | none => ""
  | some path => if path = "" then "" else s!" in {Path.base path}"

/-- The mention of the line, when a line is known and not zero. -/
def lineInfo (error : LocatedError) : String :=
  match error.line with
  | none => ""
  | some line => if line = 0 then "" else s!" at line {line}"

/-- The message followed by the place. -/
def text (error : LocatedError) : String :=
  error.message ++ error.fileInfo ++ error.lineInfo

end LocatedError

/-- What can end a computation. -/
inductive Fault where
  /-- A node was asked for an attribute that nodes of its class do not have. -/
  | missingAttribute
  /-- A node of a parse tree has no part where the first one is needed. -/
  | missingChild
  /-- A path with a NUL character was handed to the file system. -/
  | nulInPath
  /-- A path or a text holds a character that has no encoding. -/
  | unencodable
  /-- A declaration file cannot be turned into bindings. -/
  | located (error : LocatedError)
deriving Repr, BEq, DecidableEq

end ReasonBindings
