import ReasonBindings.CommandLine
import ReasonBindings.Grammar.Program
import Std.Time.DateTime

/-!
# The program

The outer layer: it reads the command line, runs the command on the files of the
computer, and writes notices to the standard error and bindings to the standard
output.  A watch looks at the declaration file twice a second until the program is
stopped.
-/

namespace ReasonBindings.Program

/-- The number and the wording of an error of the operating system. -/
def refusalOf : IO.Error → Refusal
  | .noFileOrDirectory _ number reason | .interrupted _ number reason
  | .alreadyExists _ number reason | .invalidArgument _ number reason
  | .permissionDenied _ number reason | .resourceExhausted _ number reason
  | .inappropriateType _ number reason | .noSuchThing _ number reason
  | .otherError number reason | .resourceBusy number reason | .resourceVanished number reason
  | .unsupportedOperation number reason | .hardwareFault number reason
  | .unsatisfiedConstraints number reason | .illegalOperation number reason
  | .protocolError number reason | .timeExpired number reason => ⟨number.toNat, reason⟩
  | error => ⟨0, toString error⟩

/-- An action that may be refused. -/
def attempt {α : Type} (action : IO α) : IO (Except Obstacle α) := do
  try return .ok (← action) catch error => return .error (.refused (refusalOf error))

instance : FileAccess IO where
  read path := attempt do return (← (← IO.FS.Handle.mk path .read).readBinToEnd).toList
  write path text := attempt (IO.FS.writeFile path text)

/-- The present in coordinated universal time. -/
def present : IO Moment := do
  let now := Std.Time.PlainDateTime.ofWallTime
    (.ofSeconds (← Std.Time.Timestamp.now).toSecondsSinceUnixEpoch)
  return {
    year := now.date.year.toInt.toNat
    month := now.date.month.val.toNat
    day := now.date.day.val.toNat
    hour := now.time.hour.val.toNat
    minute := now.time.minute.val.toNat
    second := now.time.second.val.toNat }

/-- Runs a traced computation and writes the notices that are shown from the given level on. -/
def reporting {α : Type} (threshold : Level) (computation : TracedIn IO α) : IO (Option α) := do
  let traced ← computation.run
  for notice in traced.shown threshold do
    IO.eprintln s!"{notice.level.name}: {notice.message}"
  match traced.outcome with
  | .ok value => return some value
  | .error (.located error) =>
    IO.eprintln error.text
    return none
  | .error .nulInPath =>
    IO.eprintln "embedded null byte"
    return none
  | .error .unencodable =>
    IO.eprintln "text without encoding"
    return none
  | .error _ =>
    IO.eprintln "malformed syntax tree"
    return none

/-- Looks at the declaration file again and again. -/
partial def keepWatching (threshold : Level) (watch : Watch)
    (last : Except Obstacle (List UInt8)) : IO UInt32 := do
  IO.sleep 500
  let contents ← FileAccess.read watch.input
  let changed := match last, contents with
    | .ok old, .ok new => old != new
    | .error _, .ok _ => true
    | _, .error _ => false
  if changed then
    match ← reporting threshold (watch.modified watch.input) with
    | some watch => keepWatching threshold watch contents
    | none => return 1
  else keepWatching threshold watch contents

/-- Watches until the program is stopped. -/
def watchForever (threshold : Level) (watch : Watch) : IO UInt32 := do
  let contents ← FileAccess.read watch.input
  match ← reporting threshold watch.begin with
  | some watch => keepWatching threshold watch contents
  | none => return 1

/-- How the program is used. -/
def usage : String :=
  s!"Usage: {programName} [-v] show INPUT_FILE [-n NAME]\n" ++
    s!"       {programName} [-v] export INPUT_FILE [OUTPUT] [-n NAME] [-f plain|commented]\n" ++
    s!"       {programName} [-v] watch INPUT_FILE [OUTPUT] [-n NAME]"

/-- Does what a command line asks for; the result is the exit code. -/
def execute (args : List String) : IO UInt32 := do
  match Invocation.parse? false args with
  | none =>
    IO.eprintln usage
    return usageExitCode.toUInt32
  | some invocation =>
    let directory := toString (← IO.currentDir)
    match invocation.command with
    | .watch input output name =>
      watchForever invocation.threshold (Watch.ofPaths directory input output name)
    | command =>
      let place : Surroundings := {
        directory := directory
        time := ← present
        terminal := ← (← IO.getStdout).isTty }
      match ← reporting invocation.threshold (command.run place []) with
      | some report =>
        IO.print report.output
        return report.exitCode.toUInt32
      | none => return 1

end ReasonBindings.Program

/-- The program. -/
def main (args : List String) : IO UInt32 :=
  ReasonBindings.Program.execute args
