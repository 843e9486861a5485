import ReasonBindings.Grammar.Rule

/-!
# Words, signs and literals

The smallest pieces of a source text.  Which words have a meaning of their own
depends on the place, so a word is recognised where a rule asks for it, and any
word may be a name where a rule asks for a name.
-/

namespace ReasonBindings

namespace Cursor

/-- The characters that may stand in a word. -/
def isWordPart (c : Char) : Bool :=
  !(c.toNat < 32 || isSpace c || ":;`\"'@#.,|^&<=>+-*/\\%?!~()[]\x7b\x7d".toList.contains c)

/-- The characters that a word may begin with. -/
def isWordStart (c : Char) : Bool :=
  isWordPart c && !c.isDigit

/-- The place behind the word that comes next. -/
def word? (cursor : Cursor) : Option Cursor :=
  if cursor.nextIs isWordStart then some (cursor.skipWhile isWordPart) else none

/-- The characters of the word that comes next; none of them if no word comes next. -/
def wordChars (cursor : Cursor) : List Char :=
  if cursor.nextIs isWordStart then cursor.rest.takeWhile isWordPart else []

/-- The place behind a text that ends with the given quote; a backslash protects the character
behind it. -/
def pastQuote (quote : Char) : List Char → Cursor → Option Cursor
  | [], _ => none
  | '\\' :: c :: rest, cursor => pastQuote quote rest ((cursor.past '\\' (c :: rest)).past c rest)
  | c :: rest, cursor =>
    if c = quote then some (cursor.past c rest) else pastQuote quote rest (cursor.past c rest)

/-- The place behind the string that comes next. -/
def string? (cursor : Cursor) : Option Cursor :=
  match cursor.rest with
  | '\'' :: rest => pastQuote '\'' rest (cursor.past '\'' rest)
  | '"' :: rest => pastQuote '"' rest (cursor.past '"' rest)
  | _ => none

/-- The place behind the characters of a template up to its end or up to a hole in it. -/
def templateChars : List Char → Cursor → Cursor
  | '\\' :: c :: rest, cursor => templateChars rest ((cursor.past '\\' (c :: rest)).past c rest)
  | '$' :: '\x7b' :: _, cursor => cursor
  | c :: rest, cursor => if c = '`' then cursor else templateChars rest (cursor.past c rest)
  | [], cursor => cursor

/-- The digits of a number to a base up to sixteen, and the mark that may group them. -/
def isDigitOf (base : Nat) (c : Char) : Bool :=
  c == '_' || (base > 10 && "abcdefABCDEF".toList.contains c) ||
    (c.isDigit && c.toNat - '0'.toNat < base)

/-- The place behind the exponent that may come next. -/
def pastExponent (cursor : Cursor) : Cursor :=
  match cursor.rest with
  | e :: sign :: digit :: rest =>
    if (e = 'e' || e = 'E') && (sign = '+' || sign = '-') && digit.isDigit then
      ((cursor.past e (sign :: digit :: rest)).past sign (digit :: rest)).skipWhile (isDigitOf 10)
    else plain
  | _ => plain
where
  /-- The place behind an exponent without a sign. -/
  plain : Cursor :=
    match cursor.rest with
    | e :: digit :: rest =>
      if (e = 'e' || e = 'E') && digit.isDigit then
        (cursor.past e (digit :: rest)).skipWhile (isDigitOf 10)
      else cursor
    | _ => cursor

/-- The place behind the decimals that may come next. -/
def pastDecimals (cursor : Cursor) : Cursor :=
  match cursor.rest with
  | '.' :: rest => (cursor.past '.' rest).skipWhile (isDigitOf 10)
  | _ => cursor

/-- The place behind the mark of a whole number of any size. -/
def pastWholeMark (cursor : Cursor) : Cursor :=
  match cursor.rest with
  | 'n' :: rest => cursor.past 'n' rest
  | _ => cursor

/-- The base that the letter behind a leading zero stands for. -/
def baseOf : Char → Option Nat
  | 'x' | 'X' => some 16
  | 'o' | 'O' => some 8
  | 'b' | 'B' => some 2
  | _ => none

/-- The place behind the decimal number that comes next. -/
def decimal? (cursor : Cursor) : Option Cursor :=
  match cursor.rest with
  | '.' :: digit :: _ => if digit.isDigit then some cursor.pastDecimals.pastExponent else none
  | digit :: _ =>
    if digit.isDigit then
      some (cursor.skipWhile (isDigitOf 10)).pastDecimals.pastExponent.pastWholeMark
    else none
  | [] => none

/-- The place behind the number that comes next. -/
def number? (cursor : Cursor) : Option Cursor :=
  match cursor.rest with
  | '0' :: letter :: rest =>
    match baseOf letter with
    | some base =>
      some (((cursor.past '0' (letter :: rest)).past letter rest).skipWhile
        (isDigitOf base)).pastWholeMark
    | none => cursor.decimal?
  | _ => cursor.decimal?

/-- The place behind a regular expression, of which the first slash was read; slashes in brackets
do not end it. -/
def pastPattern : (inBrackets : Bool) → List Char → Cursor → Option Cursor
  | _, [], _ => none
  | inBrackets, '\\' :: c :: rest, cursor =>
    pastPattern inBrackets rest ((cursor.past '\\' (c :: rest)).past c rest)
  | inBrackets, c :: rest, cursor =>
    if isLineEnd c then none
    else if c = '/' && !inBrackets then some ((cursor.past c rest).skipWhile isWordPart)
    else pastPattern (c = '[' || (inBrackets && c != ']')) rest (cursor.past c rest)

/-- The place behind the regular expression that comes next. -/
def regex? (cursor : Cursor) : Option Cursor :=
  match cursor.rest with
  | '/' :: rest => pastPattern false rest (cursor.past '/' rest)
  | _ => none

/-! ### Matching parentheses -/

/-- The place behind the parenthesis that closes the innermost of the given number of open ones.
Parentheses in strings and comments do not count. -/
def pastParenthesis : (bound depth : Nat) → Cursor → Option Cursor
  | 0, _, _ => none
  | bound + 1, depth, cursor =>
    let cursor := cursor.next
    match cursor.rest with
    | [] => none
    | '(' :: rest => pastParenthesis bound (depth + 1) (cursor.past '(' rest)
    | ')' :: rest =>
      if depth = 0 then some (cursor.past ')' rest)
      else pastParenthesis bound (depth - 1) (cursor.past ')' rest)
    | '`' :: rest => (pastQuote '`' rest (cursor.past '`' rest)).bind (pastParenthesis bound depth)
    | c :: rest =>
      pastParenthesis bound depth (cursor.string?.getD (cursor.past c rest))

/-- The place behind the parenthesised text that comes next. -/
def parenthesised? (cursor : Cursor) : Option Cursor :=
  match cursor.next.rest with
  | '(' :: rest => pastParenthesis cursor.left 0 (cursor.next.past '(' rest)
  | _ => none

end Cursor

namespace Rule

/-! ### Words and signs -/

/-- The given word. -/
def word (text : String) : Rule :=
  leaf text false fun cursor =>
    if cursor.wordChars = text.toList then cursor.word? else none

/-- The given sign. -/
def sign (text : String) : Rule :=
  leaf text false (Cursor.drop? text.toList)

/-- The given sign, provided that none of the given characters follows it at once. -/
def signBefore (text : String) (longer : List Char) : Rule :=
  leaf text false fun cursor =>
    (Cursor.drop? text.toList cursor).filter fun stop => !stop.nextIs longer.contains

/-- Any of the given words. -/
def anyWord (texts : List String) : Rule :=
  choice (texts.map word)

/-- Any of the given signs; longer ones come first. -/
def anySign (texts : List String) : Rule :=
  choice (texts.map sign)

/-- Any word as a name. -/
def name (kind : String) : Rule :=
  leaf kind true Cursor.word?

/-- Any word but the given ones as a name. -/
def nameBut (kind : String) (reserved : List String) : Rule :=
  leaf kind true fun cursor =>
    if reserved.contains (String.ofList cursor.wordChars) then none else cursor.word?

/-- The given word as a construct of its own. -/
def wordNode (text : String) : Rule :=
  leaf text true fun cursor =>
    if cursor.wordChars = text.toList then cursor.word? else none

/-- A name that is visible inside of a class only. -/
def privateName : Rule :=
  leaf "private_property_identifier" true fun cursor =>
    match cursor.rest with
    | '#' :: rest => (cursor.past '#' rest).word?
    | _ => none

/-- A parenthesis opens here, and what the rule says comes behind the one that closes it.  This tells
parameters in front of an arrow from other parentheses. -/
def parenthesesBefore (rule : Rule) : Rule := fun cursor =>
  match cursor.parenthesised? with
  | some stop => if (rule stop).isSome then nothing cursor else none
  | none => none

/-! ### Literals -/

/-- A string between quotes. -/
def string : Rule := leaf "string" true Cursor.string?

/-- A number. -/
def number : Rule := leaf "number" true Cursor.number?

/-- A regular expression. -/
def regex : Rule := leaf "regex" true Cursor.regex?

/-- A text between backquotes with holes of the given kind. -/
def template (kind holeKind : String) (hole : Rule) : Rule :=
  let chars : Rule := optional (leafHere "string_fragment" true fun cursor =>
    (some (Cursor.templateChars cursor.rest cursor)).filter (·.offset > cursor.offset))
  let openHole : Rule := leafHere "$\x7b" false (Cursor.drop? ['$', '\x7b'])
  let backquote : Rule := leafHere "`" false (Cursor.drop? ['`'])
  node kind [sign "`", chars, many (seq [node holeKind [openHole, hole, sign "\x7d"], chars]),
    backquote]

/-! ### Lists -/

/-- One item or more with commas in between and perhaps one behind. -/
def commas (item : Rule) : Rule :=
  seq [separated (sign ",") item, optional (sign ",")]

/-- Items between commas, where items may be missing. -/
def sparse (item : Rule) : Rule :=
  separated (sign ",") (optional item)

/-- Any number of items between brackets. -/
def list (opening : String) (item : Rule) (closing : String) : Rule :=
  seq [sign opening, optional (commas item), sign closing]

/-- Whether the nodes include a token of the given kind. -/
def has (kind : String) (trees : List Tree) : Bool :=
  trees.any (·.kind == kind)

/-- Whether one of the nodes has a child that fills the given field. -/
def fills (field : String) (trees : List Tree) : Bool :=
  trees.any fun tree => (tree.child? field).isSome

/-- The end of a statement, written or implied. -/
def terminator (ending : Cursor.Ending) : Rule :=
  choice [sign ";", endsStatement ending]

end Rule

end ReasonBindings
