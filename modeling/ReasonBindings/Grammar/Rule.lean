import ReasonBindings.Grammar.Cursor
import ReasonBindings.ParseTree.Basic

/-!
# Rules

A rule of a grammar says what may come next in a text.  At a place of the text it
either fails or yields a list of sibling nodes and the place behind them.  Rules
are put together from words and signs by sequence, choice and repetition; the node
that stands for a construct encloses what the rule of the construct yields.

A choice takes the first alternative that succeeds, so alternatives stand in the
order of preference.
-/

namespace ReasonBindings

/-- What may come next in a text. -/
abbrev Rule := Cursor → Option (List Tree × Cursor)

namespace Tree

/-- The node that encloses the given siblings. -/
def enclosing (kind : String) (children : List Tree) : Tree :=
  .node kind true none ((children.head?.map start).getD 0) ((children.getLast?.map stop).getD 0)
    ((children.head?.map row).getD 0) children

/-- The node as the filling of a field. -/
def filling (field : String) : Tree → Tree
  | node kind named _ start stop row children =>
    node kind named (some field) start stop row children

/-- The node with another kind. -/
def renamed (kind : String) : Tree → Tree
  | node _ named field start stop row children => node kind named field start stop row children

end Tree

namespace Rule

/-! ### Combinations of rules -/

/-- Nothing may come. -/
def fails : Rule := fun _ => none

/-- Nothing needs to come. -/
def nothing : Rule := fun cursor => some ([], cursor)

/-- One rule after another; the second one may depend on what the first one yields. -/
def andThen (first : Rule) (second : List Tree → Rule) : Rule := fun cursor => do
  let (trees, next) ← first cursor
  second trees next

/-- The nodes are already there. -/
def yield (trees : List Tree) : Rule := fun cursor => some (trees, cursor)

/-- The rules one after another. -/
def seq : List Rule → Rule
  | [] => nothing
  | first :: others => fun cursor => do
    let (trees, next) ← first cursor
    let (more, stop) ← seq others next
    return (trees ++ more, stop)

/-- The first rule that does not fail. -/
def choice : List Rule → Rule
  | [] => fails
  | first :: others => fun cursor => first cursor <|> choice others cursor

/-- The rule, or nothing when it fails. -/
def optional (rule : Rule) : Rule := fun cursor => rule cursor <|> nothing cursor

/-- The rule as often as it succeeds and reads something, at most the given number of times. -/
def repeatUpTo (rule : Rule) : Nat → Rule
  | 0 => nothing
  | bound + 1 => fun cursor =>
    match rule cursor with
    | none => some ([], cursor)
    | some (trees, next) =>
      if next.offset = cursor.offset then some ([], cursor)
      else do
        let (more, stop) ← repeatUpTo rule bound next
        return (trees ++ more, stop)

/-- The rule as often as it succeeds. -/
def many (rule : Rule) : Rule := fun cursor => repeatUpTo rule cursor.left cursor

/-- The nodes so far, continued by the step as often as it succeeds. -/
def growUpTo (step : List Tree → Rule) : Nat → List Tree → Rule
  | 0, trees => yield trees
  | bound + 1, trees => fun cursor =>
    match step trees cursor with
    | none => some (trees, cursor)
    | some (larger, next) => growUpTo step bound larger next

/-- The rule, then the step as often as it succeeds; each step encloses what was there before. -/
def grow (first : Rule) (step : List Tree → Rule) : Rule :=
  first.andThen fun trees cursor => growUpTo step cursor.left trees cursor

/-- The rule comes next, but is not read. -/
def ahead (rule : Rule) : Rule := fun cursor =>
  match rule cursor with
  | some _ => nothing cursor
  | none => none

/-- The rule does not come next. -/
def notAhead (rule : Rule) : Rule := fun cursor =>
  match rule cursor with
  | some _ => none
  | none => nothing cursor

/-! ### Laws -/

/-- No rules read nothing. -/
@[simp] theorem seq_nil : seq [] = nothing := rfl

/-- No alternatives fail. -/
@[simp] theorem choice_nil : choice [] = fails := rfl

/-- The first alternative that succeeds is taken. -/
theorem choice_cons_of_eq_some {first : Rule} {others : List Rule} {cursor : Cursor}
    {found : List Tree × Cursor} (h : first cursor = some found) :
    choice (first :: others) cursor = some found := by
  simp [choice, h]

/-- An alternative that fails is passed over. -/
theorem choice_cons_of_eq_none {first : Rule} {others : List Rule} {cursor : Cursor}
    (h : first cursor = none) : choice (first :: others) cursor = choice others cursor := by
  simp [choice, h]

/-- What is optional never fails. -/
theorem isSome_optional (rule : Rule) (cursor : Cursor) : (optional rule cursor).isSome := by
  cases h : rule cursor <;> simp [optional, nothing, h]

/-- A bounded repetition never fails. -/
theorem isSome_repeatUpTo (rule : Rule) (bound : Nat) (cursor : Cursor) :
    (repeatUpTo rule bound cursor).isSome := by
  induction bound generalizing cursor with
  | zero => rfl
  | succ bound ih =>
    simp only [repeatUpTo]
    split
    · rfl
    · rename_i next _
      split
      · rfl
      · obtain ⟨rest, hrest⟩ := Option.isSome_iff_exists.mp (ih next)
        simp [hrest]

/-- A repetition never fails. -/
theorem isSome_many (rule : Rule) (cursor : Cursor) : (many rule cursor).isSome :=
  isSome_repeatUpTo rule cursor.left cursor

/-! ### Nodes -/

/-- A construct whose kind follows from its parts. -/
def nodeOf (kind : List Tree → String) (rule : Rule) : Rule :=
  rule.andThen fun trees => yield [.enclosing (kind trees) trees]

/-- A construct. -/
def node (kind : String) (parts : List Rule) : Rule :=
  nodeOf (fun _ => kind) (seq parts)

/-- A construct that begins with what was read before. -/
def nodeFrom (kind : String) (trees : List Tree) (parts : List Rule) : Rule :=
  node kind (yield trees :: parts)

/-- What the rule yields fills a field. -/
def field (name : String) (rule : Rule) : Rule :=
  rule.andThen fun trees => yield (trees.map (Tree.filling name))

/-- A leaf that the scan reads behind the gap. -/
def leaf (kind : String) (named : Bool) (scan : Cursor → Option Cursor) : Rule := fun cursor => do
  let start := cursor.next
  let stop ← scan start
  return ([.node kind named none start.offset stop.offset start.row []], stop)

/-- A leaf that the scan reads without a gap. -/
def leafHere (kind : String) (named : Bool) (scan : Cursor → Option Cursor) : Rule :=
  fun cursor => do
  let stop ← scan cursor
  return ([.node kind named none cursor.offset stop.offset cursor.row []], stop)

/-! ### Lists -/

/-- One item or more with separators in between. -/
def separated (separator item : Rule) : Rule :=
  seq [item, many (seq [separator, item])]

/-! ### Places -/

/-- There is no line break in front of what comes next. -/
def onSameLine : Rule := fun cursor =>
  if cursor.gap.broken then none else nothing cursor

/-- The next character passes the test. -/
def nextIs (test : Char → Bool) : Rule := fun cursor =>
  if cursor.next.nextIs test then nothing cursor else none

/-- The next character passes the test and stands on the same line. -/
def nextOnLineIs (test : Char → Bool) : Rule := fun cursor =>
  let gap := cursor.gap
  if !gap.broken && gap.stop.nextIs test then nothing cursor else none

/-- A statement may end here without a semicolon. -/
def endsStatement (ending : Cursor.Ending) : Rule := fun cursor =>
  if cursor.endsStatement ending then nothing cursor else none

end Rule

end ReasonBindings
