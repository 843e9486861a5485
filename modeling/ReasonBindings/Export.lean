import ReasonBindings.Traced

/-!
# Exported bindings

Exported bindings are written as they are or below a header that tells where they
come from.  The header holds the last part of a path only, which has no slash, so
no path can close a comment of the header.
-/

namespace ReasonBindings

/-- A second of the calendar. -/
structure Moment where
  year : Nat
  month : Nat
  day : Nat
  hour : Nat
  minute : Nat
  second : Nat
deriving Repr, BEq, DecidableEq

namespace Moment

/-- A number with at least `width` digits. -/
def padded (width n : Nat) : String :=
  let digits := toString n
  String.ofList (List.replicate (width - digits.length) '0') ++ digits

/-- A second in words: date, time of day, and time zone. -/
def text (moment : Moment) : String :=
  s!"{padded 4 moment.year}-{padded 2 moment.month}-{padded 2 moment.day} " ++
    s!"{padded 2 moment.hour}:{padded 2 moment.minute}:{padded 2 moment.second} UTC"

end Moment

/-- The name of the program. -/
def programName : String := "dts2re"

/-- The version of the program. -/
def programVersion : String := "0.1.0"

/-- The header of exported bindings. -/
def exportHeader (source : String) (time : Moment) : String :=
  s!"/* Generated by {programName} v{programVersion} */\n" ++
    s!"/* Generation time: {time.text} */\n" ++
    s!"/* Source file: {Path.base source} */\n\n"

/-- The text that is exported for the given bindings; an unknown format is reported and counts as
the plain one. -/
def formatBindings (bindings format source : String) (time : Moment) : Traced String := do
  if format = "commented" then return exportHeader source time ++ bindings
  if format != "plain" then Traced.note (.unknownFormat format)
  return bindings

/-- The plain format adds nothing. -/
@[simp] theorem formatBindings_plain (bindings source : String) (time : Moment) :
    formatBindings bindings "plain" source time = pure bindings := rfl

/-- The commented format puts the header in front. -/
@[simp] theorem formatBindings_commented (bindings source : String) (time : Moment) :
    formatBindings bindings "commented" source time =
      pure (exportHeader source time ++ bindings) := rfl

end ReasonBindings
