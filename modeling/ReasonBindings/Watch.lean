import ReasonBindings.Bindings

/-!
# Watching a declaration file

A watch keeps the bindings of one declaration file up to date.  It makes an attempt
when it begins and whenever the file is reported as modified; an attempt that fails
before the output is opened leaves the bindings of the last successful one in place.
-/

namespace ReasonBindings

/-- The watch over a declaration file. -/
structure Watch where
  /-- The absolute path of the current directory. -/
  directory : String
  /-- The absolute path of the declaration file. -/
  input : String
  /-- The path of the bindings. -/
  output : String
  /-- The name of the library; when it is empty, the one that the name of the file gives. -/
  name : String
  /-- How many attempts succeeded. -/
  generations : Nat := 0
deriving Repr, BEq, DecidableEq

/-- A name that is given and not empty. -/
def givenName (name : String) : Option String :=
  if name = "" then none else some name

/-- The path that bindings are written to: the given one, or the one that belongs to the declaration
file. -/
def outputPath (input : String) : Option String → String
  | some output => Path.normal output
  | none => Path.bindingsFile input

namespace Watch

/-- A watch over a declaration file without any attempt so far. -/
def ofPaths (directory input : String) (output : Option String) (name : String) : Watch where
  directory := directory
  input := Path.absolute directory input
  output := outputPath input output
  name := name

variable {m : Type → Type} [Monad m] [FileAccess m] [SourceParser]

/-- One attempt to bring the bindings up to date; the reason if it fails. -/
def attempt (watch : Watch) : TracedIn m (Except String Unit) := do
  match ← (bindingsOfFile watch.input (givenName watch.name)).caught with
  | .error error => return .error error.text
  | .ok bindings => FileAccess.replace watch.output bindings

/-- Brings the bindings up to date if possible. -/
def regenerate (watch : Watch) : TracedIn m Watch := do
  match ← (watch.attempt : TracedIn m (Except String Unit)) with
  | .error reason =>
    Traced.note (.regenerationFailed reason)
    return watch
  | .ok () =>
    Traced.note (.regenerated watch.output)
    return { watch with generations := watch.generations + 1 }

/-- Whether a path leads to the watched file. -/
def concerns (watch : Watch) (path : String) : Bool :=
  Path.absolute watch.directory path == watch.input

/-- Takes notice that the file at a path was modified. -/
def modified (watch : Watch) (path : String) : TracedIn m Watch := do
  if watch.concerns path then
    Traced.note (.changeDetected watch.input)
    watch.regenerate
  else return watch

/-- Begins to watch. -/
def begin (watch : Watch) : TracedIn m Watch := do
  let watch ← watch.regenerate
  Traced.note (.watching watch.input)
  return watch

/-- Watches while the files at the given paths are reported as modified, one after another. -/
def session (watch : Watch) : List String → TracedIn m Watch
  | [] => do
    Traced.note .interrupted
    return watch
  | path :: paths => do session (← watch.modified path) paths

/-! ### Steps -/

section

variable {σ : Type} [FileSystem σ]

/-- What can happen while a file is watched. -/
inductive Step (σ : Type) where
  /-- The bindings are to be brought up to date. -/
  | regenerate
  /-- The file at a path is reported as modified. -/
  | modified (path : String)
  /-- Others make a change to the files. -/
  | others (change : σ → σ)

/-- What a watch does in a step. -/
def perform (watch : Watch) : Step σ → TracedIn (StateM σ) Watch
  | .regenerate => watch.regenerate
  | .modified path => watch.modified path
  | .others change => do
    modifyGet fun state : σ => ((), change state)
    return watch

/-- The watch and the files after a step; a fault leaves the watch as it is. -/
def pass (watch : Watch) (step : Step σ) (state : σ) : Watch × σ :=
  let (traced, after) := StateT.run (watch.perform step).run state
  (traced.value?.getD watch, after)

/-- The watch and the files after one step after another. -/
def follow (watch : Watch) : List (Step σ) → σ → Watch × σ
  | [], state => (watch, state)
  | step :: steps, state =>
    let (watch, state) := watch.pass step state
    watch.follow steps state

end

end Watch

end ReasonBindings
