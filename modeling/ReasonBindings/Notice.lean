/-!
# Notices

What a computation reports on its way.  A notice names its cause; its level and
its wording follow from that.  Notices are values: every operation of the library
that reports returns the list of its notices in the order in which they arose.
-/

namespace ReasonBindings

/-- How much attention a notice asks for. -/
inductive Level where
  | debug
  | info
  | warning
  | error
deriving Repr, BEq, DecidableEq

namespace Level

/-- The levels in ascending order of weight. -/
def weight : Level → Nat
  | debug => 0
  | info => 1
  | warning => 2
  | error => 3

/-- The word a level is reported with. -/
def name : Level → String
  | debug => "DEBUG"
  | info => "INFO"
  | warning => "WARNING"
  | error => "ERROR"

end Level

/-- What there is to report. -/
inductive Notice where
  /-- A part of the source could not be parsed. -/
  | syntaxErrors (file : String)
  /-- The source was read. -/
  | parsed (declarations : Nat) (file : String)
  /-- A part of the parse tree that could not be parsed is left out. -/
  | unparsable (line : Nat)
  /-- A node of the parse tree is no declaration. -/
  | otherStatement (kind : String) (line : Nat)
  /-- A node of the parse tree is no member. -/
  | otherMember (kind : String) (line : Nat)
  /-- A union has no counterpart among the target types. -/
  | degradedUnion (arms : Nat)
  /-- A declaration has no name. -/
  | unnamed (className : String) (line : Option Int)
  /-- An enumeration has no counterpart in the bindings. -/
  | skippedEnum (name : Option String)
  /-- A statement has no counterpart in the bindings. -/
  | skippedStatement (className : String)
  /-- A member has no counterpart in the bindings. -/
  | skippedMember (className : String)
  /-- A namespace is declared without a body. -/
  | bodilessNamespace (name : String)
  /-- The members of a class, an interface or an object type were collected. -/
  | collectedInterface (kind name : String) (methods properties : Nat)
  /-- The members of a type alias were collected. -/
  | collectedAlias (name : String)
  /-- The declarations of a whole file were collected. -/
  | builtModule (name : String) (modules interfaces globals functions : Nat)
  /-- A call template is not used by the printed binding. -/
  | ignoredTemplate (interface method template : String)
  /-- A declaration file is about to be read. -/
  | reading (path : String)
  /-- The output format is unknown and the plain one is used. -/
  | unknownFormat (format : String)
  /-- A declaration file has no bindings. -/
  | noBindings (reason : String)
  /-- The bindings are about to be written. -/
  | exporting (path : String)
  /-- The bindings were written. -/
  | exported (path : String)
  /-- The bindings could not be written. -/
  | writeFailed (path reason : String)
  /-- The watched file was changed. -/
  | changeDetected (path : String)
  /-- The bindings were brought up to date. -/
  | regenerated (path : String)
  /-- The bindings could not be brought up to date. -/
  | regenerationFailed (reason : String)
  /-- A file is being watched. -/
  | watching (path : String)
  /-- The watch was ended from outside. -/
  | interrupted
deriving Repr, BEq, DecidableEq

namespace Notice

/-- The level of a notice. -/
def level : Notice → Level
  | syntaxErrors .. | unparsable .. | unnamed .. | unknownFormat .. => .warning
  | noBindings .. | writeFailed .. | regenerationFailed .. => .error
  | exporting .. | exported .. | changeDetected .. | regenerated .. | watching .. | interrupted =>
    .info
  | _ => .debug

/-- A name as it appears in a notice; a missing name is shown as such. -/
def shownName : Option String → String
  | none => "None"
  | some name => name

/-- The mention of a line, when it is known and not zero. -/
def shownLine : Option Int → String
  | none => ""
  | some line => if line = 0 then "" else s!" at line {line}"

/-- The wording of a notice. -/
def message : Notice → String
  | syntaxErrors file => s!"{file} has syntax errors, skipping broken declarations"
  | parsed declarations file => s!"Parsed {declarations} top-level declarations from {file}"
  | unparsable line => s!"Skipping unparsable declaration at line {line}"
  | otherStatement kind line => s!"Skipping {kind} at line {line}"
  | otherMember kind line => s!"Skipping member {kind} at line {line}"
  | degradedUnion arms => s!"Degrading union of {arms} arms to a type variable"
  | unnamed className line => s!"{className}{shownLine line} has no name"
  | skippedEnum name => s!"Skipping enum {shownName name}"
  | skippedStatement className => s!"Skipping unsupported statement {className}"
  | skippedMember className => s!"Skipping member {className}"
  | bodilessNamespace name => s!"Namespace {name} has no body"
  | collectedInterface kind name methods properties =>
    s!"Collected {kind} {name}: {methods} methods, {properties} properties"
  | collectedAlias name => s!"Collected type alias {name}"
  | builtModule name modules interfaces globals functions =>
    s!"Built module {name}: {modules} modules, {interfaces} interfaces, " ++
      s!"{globals} variables, {functions} functions"
  | ignoredTemplate interface method template => s!"{interface}.{method} ignores {template}"
  | reading path => s!"Reading declarations from {path}"
  | unknownFormat format => s!"Unknown format: {format}. Using plain."
  | noBindings reason => s!"Translation error: {reason}"
  | exporting path => s!"Exporting bindings to {path}..."
  | exported path => s!"Bindings exported to {path}"
  | writeFailed path reason => s!"Cannot write bindings to {path}: {reason}"
  | changeDetected path => s!"Detected changes in {path}"
  | regenerated path => s!"Bindings written to {path}"
  | regenerationFailed reason => s!"Error regenerating bindings: {reason}"
  | watching path => s!"Watching {path} (press Ctrl+C to stop)..."
  | interrupted => "Keyboard interrupt received, stopping..."

/-- Whether a notice is shown when only notices from a certain level on are. -/
def reaches (threshold : Level) (notice : Notice) : Bool :=
  threshold.weight ≤ notice.level.weight

end Notice

end ReasonBindings
