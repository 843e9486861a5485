/-!
# Layout of bindings

Bindings are printed as a list of lines with two spaces per level of nesting;
empty lines have no indentation.  The module has two views of this: a list of
lines that can be indented as a whole, and a *code block*, a buffer that keeps
the current level while lines are added and contexts are entered and left.
-/

namespace ReasonBindings.Layout

/-- The indentation of one level. -/
def indentation : String := "  "

/-- One level further in; an empty line stays empty. -/
def indentLine (line : String) : String :=
  if line = "" then "" else indentation ++ line

/-- All lines one level further in. -/
def indent (lines : List String) : List String :=
  lines.map indentLine

/-- The closing line of a block. -/
def closing : String := "\x7d;"

/-- The opening line of a block. -/
def opening (header : String) : String := header ++ " = \x7b"

/-- The lines of a block around the given body. -/
def block (header : String) (blankAfterHeader : Bool) (body : List String) : List String :=
  opening header :: ((if blankAfterHeader then [""] else []) ++ indent body ++ [closing])

/-- The text of a list of lines, each of them ended by a line feed. -/
def unlines (lines : List String) : String :=
  String.join (lines.map (· ++ "\n"))

/-- Indentation distributes over concatenation. -/
@[simp] theorem indent_append (first second : List String) :
    indent (first ++ second) = indent first ++ indent second := by
  simp [indent]

/-- No lines stay no lines. -/
@[simp] theorem indent_nil : indent [] = [] := rfl

/-- The text of no lines is empty. -/
@[simp] theorem unlines_nil : unlines [] = "" := rfl

/-- The first line comes first. -/
@[simp] theorem unlines_cons (line : String) (lines : List String) :
    unlines (line :: lines) = line ++ "\n" ++ unlines lines := by
  simp [unlines, String.join_cons]

/-! ### Code blocks -/

/-- A context that has been entered and not yet left. -/
inductive Context where
  /-- A level of nesting. -/
  | indented
  /-- A block, which is closed by a line of its own. -/
  | block
deriving Repr, BEq, DecidableEq

/-- A buffer of lines with the level at which further lines are added. -/
structure CodeBlock where
  level : Int := 0
  lines : List String := []
  /-- The contexts that are open, innermost first. -/
  contexts : List Context := []
deriving Repr, BEq

namespace CodeBlock

/-- A line with its indentation; levels below zero count as zero. -/
def indentedLine (level : Int) (line : String) : String :=
  if line = "" then "" else (List.replicate level.toNat indentation).foldr (· ++ ·) line

/-- Adds a line at the current level. -/
def addLine (code : CodeBlock) (line : String) : CodeBlock :=
  { code with lines := code.lines ++ [indentedLine code.level line] }

/-- Adds lines at the current level. -/
def addLines (code : CodeBlock) (lines : List String) : CodeBlock :=
  lines.foldl addLine code

/-- Enters a level of nesting. -/
def enterIndented (code : CodeBlock) : CodeBlock :=
  { code with level := code.level + 1, contexts := .indented :: code.contexts }

/-- Enters a block: writes its opening line and perhaps an empty one. -/
def enterBlock (code : CodeBlock) (header : String) (blankAfterHeader : Bool) : CodeBlock :=
  let opened := code.addLine (opening header)
  let opened := if blankAfterHeader then opened.addLine "" else opened
  { opened with level := opened.level + 1, contexts := .block :: opened.contexts }

/-- Leaves the innermost context at its end; a block gets its closing line. -/
def close (code : CodeBlock) : CodeBlock :=
  match code.contexts with
  | [] => code
  | .indented :: outer => { code with level := code.level - 1, contexts := outer }
  | .block :: outer => { code with level := code.level - 1, contexts := outer }.addLine closing

/-- Leaves the innermost context before its end: the level goes back and nothing is written. -/
def abort (code : CodeBlock) : CodeBlock :=
  match code.contexts with
  | [] => code
  | _ :: outer => { code with level := code.level - 1, contexts := outer }

/-- The text of the lines so far. -/
def text (code : CodeBlock) : String :=
  unlines code.lines

/-- An added line comes last. -/
@[simp] theorem lines_addLine (code : CodeBlock) (line : String) :
    (code.addLine line).lines = code.lines ++ [indentedLine code.level line] := rfl

/-- Adding a line leaves the level alone. -/
@[simp] theorem level_addLine (code : CodeBlock) (line : String) :
    (code.addLine line).level = code.level := rfl

end CodeBlock

end ReasonBindings.Layout
