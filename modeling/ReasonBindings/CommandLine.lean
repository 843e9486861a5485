import ReasonBindings.Export
import ReasonBindings.Text.Escape
import ReasonBindings.Watch

/-!
# The command line

Three commands give the bindings of a declaration file: one shows them, one exports
them to a file, and one keeps a file with bindings up to date.  Options may stand
before, between and behind the arguments of a command; behind `--` everything is
an argument.  The last one of several equal options counts.
-/

namespace ReasonBindings

/-- What is to be done. -/
inductive Command where
  /-- The bindings are written to the standard output. -/
  | display (input name : String)
  /-- The bindings are written to a file. -/
  | exportTo (input : String) (output : Option String) (name format : String)
  /-- A file with the bindings is kept up to date. -/
  | watch (input : String) (output : Option String) (name : String)
deriving Repr, BEq, DecidableEq

/-- A command and how much to report. -/
structure Invocation where
  verbose : Bool
  command : Command
deriving Repr, BEq, DecidableEq

/-! ### Options -/

/-- An option with a value: its word and its letter. -/
structure OptionName where
  word : String
  letter : Char
deriving Repr, BEq, DecidableEq

/-- What a single piece of a command line is. -/
inductive Piece where
  /-- An argument. -/
  | argument
  /-- An option with its value. -/
  | attached (word value : String)
  /-- An option whose value is the next piece. -/
  | awaiting (word : String)
  /-- Something that looks like an option and is none. -/
  | unknown
deriving Repr, BEq, DecidableEq

namespace Piece

/-- What an option behind two dashes is; a value may follow an equals sign. -/
def ofWord (options : List OptionName) (text : List Char) : Piece :=
  let word := String.ofList (text.takeWhile (· != '='))
  if options.any (·.word == word) then
    match text.dropWhile (· != '=') with
    | [] => awaiting word
    | _ :: value => attached word (String.ofList value)
  else unknown

/-- What an option behind one dash is; a value may follow its letter. -/
def ofLetter (options : List OptionName) (letter : Char) (value : List Char) : Piece :=
  match options.find? (·.letter == letter) with
  | none => unknown
  | some option =>
    if value.isEmpty then awaiting option.word else attached option.word (String.ofList value)

/-- What a piece of a command line is when the given options are known. -/
def of (options : List OptionName) (text : String) : Piece :=
  match text.toList with
  | '-' :: '-' :: rest => ofWord options rest
  | '-' :: letter :: value => ofLetter options letter value
  | _ => argument

end Piece

/-- The options and the arguments of a command. -/
structure Pieces where
  options : List (String × String)
  arguments : List String

namespace Pieces

/-- One more argument in front. -/
def withArgument (argument : String) (pieces : Pieces) : Pieces :=
  { pieces with arguments := argument :: pieces.arguments }

/-- One more option in front, which counts unless it is repeated later. -/
def withOption (word value : String) (pieces : Pieces) : Pieces :=
  { pieces with options := pieces.options ++ [(word, value)] }

/-- The value of an option; the given value when the option is not there. -/
def valueOf (pieces : Pieces) (word default : String) : String :=
  (pieces.options.lookup word).getD default

/-- Sorts the pieces of a command line, given the options that are known. -/
def sort? (options : List OptionName) : List String → Option Pieces
  | [] => some ⟨[], []⟩
  | [text] =>
    match Piece.of options text with
    | .argument => some ⟨[], [text]⟩
    | .attached word value => some ⟨[(word, value)], []⟩
    | .awaiting _ => none
    | .unknown => if text = "--" then some ⟨[], []⟩ else none
  | text :: next :: rest =>
    match Piece.of options text with
    | .argument => (sort? options (next :: rest)).map (withArgument text)
    | .attached word value => (sort? options (next :: rest)).map (withOption word value)
    | .awaiting word => (sort? options rest).map (withOption word next)
    | .unknown => if text = "--" then some ⟨[], next :: rest⟩ else none

end Pieces

/-! ### Invocations -/

/-- The option for the name of the library. -/
def nameOption : OptionName := ⟨"name", 'n'⟩

/-- The option for the format of exported bindings. -/
def formatOption : OptionName := ⟨"format", 'f'⟩

/-- The command with the given word and pieces. -/
def Command.parse? (word : String) (texts : List String) : Option Command :=
  match word with
  | "show" => do
    let pieces ← Pieces.sort? [nameOption] texts
    match pieces.arguments with
    | [input] => some (.display input (pieces.valueOf "name" ""))
    | _ => none
  | "export" => do
    let pieces ← Pieces.sort? [nameOption, formatOption] texts
    let made output input := Command.exportTo input output (pieces.valueOf "name" "")
      (pieces.valueOf "format" "plain")
    match pieces.arguments with
    | [input] => some (made none input)
    | [input, output] => some (made (some output) input)
    | _ => none
  | "watch" => do
    let pieces ← Pieces.sort? [nameOption] texts
    match pieces.arguments with
    | [input] => some (.watch input none (pieces.valueOf "name" ""))
    | [input, output] => some (.watch input (some output) (pieces.valueOf "name" ""))
    | _ => none
  | _ => none

/-- Whether a piece in front of the command asks for more reports. -/
def asksForMore (text : String) : Bool :=
  text = "--verbose" ||
    match text.toList with
    | '-' :: 'v' :: letters => letters.all (· == 'v')
    | _ => false

/-- The invocation that a command line stands for, if it stands for one. -/
def Invocation.parse? (verbose : Bool) : List String → Option Invocation
  | [] => none
  | text :: rest =>
    if asksForMore text then parse? true rest
    else if text = "--" then
      match rest with
      | [] => none
      | word :: texts => (Command.parse? word texts).map (Invocation.mk verbose)
    else (Command.parse? text rest).map (Invocation.mk verbose)

/-! ### Commands -/

/-- What the commands need to know about where they run. -/
structure Surroundings where
  /-- The absolute path of the current directory. -/
  directory : String
  /-- The present. -/
  time : Moment
  /-- Whether the standard output is a terminal. -/
  terminal : Bool := false
  /-- Whether the standard output can encode a text. -/
  echoes : String → Bool := fun _ => true

/-- How a command ended. -/
structure Report where
  exitCode : Nat
  /-- What was written to the standard output. -/
  output : String
deriving Repr, BEq, DecidableEq

/-- The exit code of a command line that stands for no invocation. -/
def usageExitCode : Nat := 2

/-- The report of a command that failed. -/
def Report.failure : Report := ⟨1, ""⟩

/-- The report of a command that did its work without output. -/
def Report.success : Report := ⟨0, ""⟩

namespace Command

variable {m : Type → Type} [Monad m] [FileAccess m] [SourceParser]

/-- What is written to the standard output for a text. -/
def shown (place : Surroundings) (text : String) : String :=
  if place.terminal then text else Text.withoutEscapes text

/-- Shows the bindings of a declaration file. -/
def runDisplay (place : Surroundings) (input name : String) : TracedIn m Report := do
  match ← (bindingsOfFile input (givenName name) : TracedIn m String).caught with
  | .error error =>
    Traced.note (.noBindings error.text)
    return Report.failure
  | .ok bindings =>
    if place.echoes (shown place bindings) then return ⟨0, shown place bindings⟩
    else Traced.fault .unencodable

/-- Exports the bindings of a declaration file. -/
def runExport (place : Surroundings) (input : String) (output : Option String)
    (name format : String) : TracedIn m Report := do
  match ← (bindingsOfFile input (givenName name) : TracedIn m String).caught with
  | .error error =>
    Traced.note (.noBindings error.text)
    return Report.failure
  | .ok bindings =>
    let path := outputPath input output
    let text ← (formatBindings bindings format input place.time : Traced String)
    Traced.note (.exporting path)
    match ← (FileAccess.replace path text : TracedIn m (Except String Unit)) with
    | .error reason =>
      Traced.note (.writeFailed path reason)
      return Report.failure
    | .ok () =>
      Traced.note (.exported path)
      return Report.success

/-- Keeps the bindings of a declaration file up to date while the files at the given paths are
reported as modified. -/
def runWatch (place : Surroundings) (input : String) (output : Option String) (name : String)
    (changes : List String) : TracedIn m Report := do
  let watch ← (Watch.ofPaths place.directory input output name).begin
  let _ ← (watch.session changes : TracedIn m Watch)
  return Report.success

/-- Runs a command; a watch goes on while the files at the given paths are reported as modified. -/
def run (place : Surroundings) (changes : List String) : Command → TracedIn m Report
  | .display input name => runDisplay place input name
  | .exportTo input output name format => runExport place input output name format
  | .watch input output name => runWatch place input output name changes

end Command

/-- The level from which on notices are shown. -/
def Invocation.threshold (invocation : Invocation) : Level :=
  if invocation.verbose then .debug else .info

end ReasonBindings
