/-!
# Cursors

A cursor is a place in a source text, at the end of what has been read.  It knows
what is left to read, and the byte offset and the row that every node of a parse
tree records.

Blanks and comments separate the words and signs of the text and mean nothing
else, except that a line break among them can end a statement.
-/

namespace ReasonBindings

/-- A place in a source text. -/
structure Cursor where
  /-- What is left to read. -/
  rest : List Char
  /-- How many characters are left. -/
  left : Nat
  /-- How many bytes were read. -/
  offset : Nat
  /-- How many lines were read. -/
  row : Nat

namespace Cursor

/-- The beginning of a source text. -/
def ofSource (text : String) : Cursor :=
  ⟨text.toList, text.length, 0, 0⟩

/-- The place behind the next character, of which it is known that it is `c`. -/
def past (cursor : Cursor) (c : Char) (rest : List Char) : Cursor where
  rest := rest
  left := cursor.left - 1
  offset := cursor.offset + c.utf8Size
  row := if c = '\n' then cursor.row + 1 else cursor.row

/-- The place behind all characters that pass the test. -/
def skipWhile (test : Char → Bool) (cursor : Cursor) : Cursor :=
  go cursor.rest cursor
where
  /-- Reads on while characters pass the test. -/
  go : List Char → Cursor → Cursor
    | [], cursor => cursor
    | c :: rest, cursor => if test c then go rest (cursor.past c rest) else cursor

/-- The place behind the given characters, if they come next. -/
def drop? : List Char → Cursor → Option Cursor
  | [], cursor => some cursor
  | c :: more, cursor =>
    match cursor.rest with
    | [] => none
    | next :: rest => if next = c then drop? more (cursor.past c rest) else none

/-- Whether the next character exists and passes the test. -/
def nextIs (test : Char → Bool) (cursor : Cursor) : Bool :=
  cursor.rest.head?.any test

/-! ### Blanks and comments -/

/-- The characters between the words and signs of a source text: the blanks of every script, the
byte order mark, and the joiners without width. -/
def isSpace (c : Char) : Bool :=
  let n := c.toNat
  (9 ≤ n && n ≤ 13) || n == 32 || n == 0x85 || n == 0xA0 || n == 0x1680 ||
    (0x2000 ≤ n && n ≤ 0x200B) || n == 0x2028 || n == 0x2029 || n == 0x202F || n == 0x205F ||
    n == 0x2060 || n == 0x3000 || n == 0xFEFF

/-- The characters that break a line where a statement may end. -/
def isLineBreak (c : Char) : Bool :=
  c == '\n' || c == '\u2028' || c == '\u2029'

/-- The characters that end a comment of one line. -/
def isLineEnd (c : Char) : Bool :=
  isLineBreak c || c == '\r'

/-- What stands between two words or signs: the place where it ends, and whether there is a line
break in it outside of block comments. -/
structure Gap where
  stop : Cursor
  broken : Bool

/-- How far a gap has been read. -/
inductive GapPart where
  /-- Neither in a comment nor behind the beginning of one. -/
  | blank
  /-- In a comment that ends with the line. -/
  | lineComment
  /-- In a comment that began at the given place and ends with a mark of its own. -/
  | blockComment (start : Cursor)

/-- The rest of a gap.  A comment without an end does not belong to it. -/
def gapFrom : GapPart → Bool → List Char → Cursor → Gap
  | .blank, broken, [], cursor => ⟨cursor, broken⟩
  | .blank, broken, '/' :: '/' :: rest, cursor =>
    gapFrom .lineComment broken rest ((cursor.past '/' ('/' :: rest)).past '/' rest)
  | .blank, broken, '/' :: '*' :: rest, cursor =>
    gapFrom (.blockComment cursor) broken rest ((cursor.past '/' ('*' :: rest)).past '*' rest)
  | .blank, broken, c :: rest, cursor =>
    if isSpace c then gapFrom .blank (broken || isLineBreak c) rest (cursor.past c rest)
    else ⟨cursor, broken⟩
  | .lineComment, broken, [], cursor => ⟨cursor, broken⟩
  | .lineComment, broken, c :: rest, cursor =>
    if isLineEnd c then gapFrom .blank (broken || isLineBreak c) rest (cursor.past c rest)
    else gapFrom .lineComment broken rest (cursor.past c rest)
  | .blockComment start, broken, [], _ => ⟨start, broken⟩
  | .blockComment _, broken, '*' :: '/' :: rest, cursor =>
    gapFrom .blank broken rest ((cursor.past '*' ('/' :: rest)).past '/' rest)
  | .blockComment start, broken, c :: rest, cursor =>
    gapFrom (.blockComment start) broken rest (cursor.past c rest)

/-- The gap that comes next, which may be empty. -/
def gap (cursor : Cursor) : Gap :=
  gapFrom .blank false cursor.rest cursor

/-- The place behind the gap. -/
def next (cursor : Cursor) : Cursor :=
  cursor.gap.stop

/-- Whether nothing but a gap is left. -/
def atEnd (cursor : Cursor) : Bool :=
  cursor.next.rest.isEmpty

/-! ### Ends of statements -/

/-- What stands in front of the end of a statement, as far as it matters for the end. -/
inductive Ending where
  /-- A declaration, a type, or a name. -/
  | plain
  /-- The head of a function, to which a body may belong. -/
  | signature
  /-- An expression, which may go on in the next line. -/
  | expression
deriving DecidableEq

/-- Whether the text in the line behind a line break continues the statement. -/
def continues (ending : Ending) : List Char → Bool
  | '+' :: '+' :: _ | '-' :: '-' :: _ => false
  | '!' :: '=' :: _ => true
  | 'i' :: 'n' :: 's' :: 't' :: 'a' :: 'n' :: 'c' :: 'e' :: 'o' :: 'f' :: rest =>
    !rest.head?.any Char.isAlpha
  | 'i' :: 'n' :: rest => !rest.head?.any Char.isAlpha
  | '{' :: _ => ending = .signature
  | '(' :: _ | '[' :: _ => ending = .expression
  | c :: _ => "`,.;*%><=?^|&/:+-".toList.contains c
  | [] => false

/-- Whether a colon comes next, blanks aside. -/
def atColon (cursor : Cursor) : Bool :=
  (cursor.skipWhile isSpace).nextIs (· == ':')

/-- Whether a statement may end here without a semicolon: at the end of the text, in front of a
closing brace, and at a line break behind which the statement does not continue.  The brace of a
pattern with a type does not count. -/
def endsStatement (ending : Ending) (cursor : Cursor) : Bool :=
  let gap := cursor.gap
  match gap.stop.rest with
  | [] => true
  | '}' :: rest =>
    gap.broken || ending = .expression || !(gap.stop.past '}' rest).atColon
  | rest => gap.broken && !continues ending rest

end Cursor

end ReasonBindings
