import ReasonBindings.Grammar.Statement
import ReasonBindings.ParseTree.Source

/-!
# Programs

A source text is parsed statement by statement.  Where no statement begins, words
and signs are passed over until one begins; they make up an `ERROR` node, so what
is broken stays local and the statements around it are kept.
-/

namespace ReasonBindings

open Rule

namespace Cursor

/-- The place behind the word, the literal or the sign that comes next. -/
def pastToken (cursor : Cursor) : Cursor :=
  let start := cursor.next
  match start.word? <|> start.string? <|> start.number? with
  | some stop => stop
  | none =>
    match start.rest with
    | c :: rest => start.past c rest
    | [] => start

end Cursor

namespace Grammar

/-- A statement of a source text, where phrases are nested at most as deep as the text allows. -/
def topStatement (depth : Nat) : Rule :=
  upTo depth .statement

/-- The place where a statement begins, or the end of the text; at least one word or sign is passed
over. -/
def resume (depth : Nat) : Nat → Cursor → Cursor
  | 0, cursor => cursor
  | bound + 1, cursor =>
    let next := cursor.pastToken
    if next.atEnd || (topStatement depth next).isSome then next
    else resume depth bound next

/-- The statements of a source text. -/
def statements (depth : Nat) : Nat → Cursor → List Tree
  | 0, _ => []
  | bound + 1, cursor =>
    if cursor.atEnd then []
    else match topStatement depth cursor with
      | some (trees, next) => trees ++ statements depth bound next
      | none =>
        let start := cursor.next
        let next := resume depth bound cursor
        .node "ERROR" true none start.offset next.offset start.row [] ::
          statements depth bound next

/-- The line for the program that runs a script, if there is one. -/
def hashBangLine : Rule :=
  optional (leafHere "hash_bang_line" true fun cursor =>
    (Cursor.drop? ['#', '!'] cursor).map (·.skipWhile (!Cursor.isLineEnd ·)))

end Grammar

/-- The parse tree of a source text. -/
def Tree.ofSource (text : String) : Tree :=
  let cursor := Cursor.ofSource text
  let (first, start) := (Grammar.hashBangLine cursor).getD ([], cursor)
  let depth := 16 * (cursor.left + 1)
  .node "program" true none 0 text.utf8ByteSize 0
    (first ++ Grammar.statements depth (cursor.left + 1) start)

/-- Whether a part of the text could not be parsed. -/
def Tree.isBroken (tree : Tree) : Bool :=
  tree.hasChild "ERROR"

/-- Source texts are parsed by the rules of the grammar. -/
instance : SourceParser where
  parse text :=
    let tree := Tree.ofSource text
    ⟨tree, tree.isBroken⟩

end ReasonBindings
