/-!
# Terminal escapes

A terminal takes an escape character, an opening bracket, digits and separators,
and a letter for a command.  A text that does not go to a terminal is written
without such commands.
-/

namespace ReasonBindings.Text

/-- How much of a command has been read. -/
inductive EscapeState where
  /-- Nothing. -/
  | outside
  /-- The escape character. -/
  | opened
  /-- The bracket and what follows it, held back in reverse. -/
  | inside (held : List Char)

/-- The characters between the bracket and the letter of a command. -/
def isEscapeArgument (c : Char) : Bool :=
  c == ';' || c == '?' || c.isDigit

/-- The rest of the text without commands; what turns out to be no command is written after all. -/
def withoutEscapesFrom : EscapeState → List Char → List Char
  | .outside, [] => []
  | .opened, [] => ['\x1b']
  | .inside held, [] => '\x1b' :: '[' :: held.reverse
  | .outside, c :: rest =>
    if c = '\x1b' then withoutEscapesFrom .opened rest else c :: withoutEscapesFrom .outside rest
  | .opened, c :: rest =>
    if c = '[' then withoutEscapesFrom (.inside []) rest
    else if c = '\x1b' then '\x1b' :: withoutEscapesFrom .opened rest
    else '\x1b' :: c :: withoutEscapesFrom .outside rest
  | .inside held, c :: rest =>
    if c.isAlpha then withoutEscapesFrom .outside rest
    else if isEscapeArgument c then withoutEscapesFrom (.inside (c :: held)) rest
    else if c = '\x1b' then
      '\x1b' :: '[' :: held.reverse ++ withoutEscapesFrom .opened rest
    else '\x1b' :: '[' :: held.reverse ++ c :: withoutEscapesFrom .outside rest

/-- The text without terminal commands. -/
def withoutEscapes (text : String) : String :=
  String.ofList (withoutEscapesFrom .outside text.toList)

/-- A text without escape characters stays as it is. -/
theorem withoutEscapesFrom_of_notMem {text : List Char} (h : '\x1b' ∉ text) :
    withoutEscapesFrom .outside text = text := by
  induction text with
  | nil => rfl
  | cons c rest ih =>
    simp only [List.mem_cons, not_or] at h
    simp [withoutEscapesFrom, Ne.symm h.1, ih h.2]

end ReasonBindings.Text
