import Mathlib.Data.List.Basic
import Mathlib.Tactic.Lemma
import ReasonBindings.Layout

/-!
# Contexts of code blocks

A code block is used by *moves*: lines are added, contexts are entered, and the innermost context
is left, either at its end or before it.  Each move says what it writes and at which level, and
what it does to the open contexts; a run of moves follows from that.

The level is the one at the start plus the number of contexts that are open.  Lines are written
once and for all.  What stands between the entry into a context and its end is *balanced*: lines,
and contexts that are left again.  So the line that closes a block has the level of its header,
also when contexts inside of the block are left before their end.
-/

namespace ReasonBindings.Layout

/-- A use of a code block. -/
inductive Move where
  /-- A line is added. -/
  | line (text : String)
  /-- A level of nesting is entered. -/
  | indented
  /-- A block is entered. -/
  | block (header : String) (blankAfterHeader : Bool)
  /-- The innermost context is left at its end. -/
  | close
  /-- The innermost context is left before its end. -/
  | abort
deriving Repr, DecidableEq

namespace Move

/-- The context that a move enters. -/
def entered? : Move → Option Context
  | indented => some .indented
  | block .. => some .block
  | _ => none

/-- Whether a move leaves a context. -/
def isExit : Move → Bool
  | close | abort => true
  | _ => false

/-- The number of open contexts after a move. -/
def openAfter (before : Nat) : Move → Nat
  | indented | block .. => before + 1
  | close | abort => before - 1
  | line _ => before

end Move

/-- The number of contexts that are still open after some moves. -/
def stillOpen (moves : List Move) : Nat :=
  moves.foldl Move.openAfter 0

/-- A line as it is written at a level: two spaces for each level above zero and the text behind
them, or nothing when there is no text. -/
def writtenLine (level : Int) (text : String) : String :=
  if text = "" then "" else String.ofList (List.replicate (2 * level.toNat) ' ') ++ text

/-- Moves after which the same contexts are open as before, none of which is left on the way: lines,
and contexts that are left again. -/
inductive Balanced : List Move → Prop
  | nil : Balanced []
  | line (text : String) {rest : List Move} : Balanced rest → Balanced (.line text :: rest)
  | context {entry exit : Move} {inside rest : List Move} : entry.entered?.isSome = true →
    exit.isExit = true → Balanced inside → Balanced rest →
    Balanced (entry :: (inside ++ exit :: rest))

/-- Balanced moves one after another are balanced. -/
lemma Balanced.append {moves moves' : List Move} (h : Balanced moves) (h' : Balanced moves') :
    Balanced (moves ++ moves') := by
  induction h with
  | nil => exact h'
  | line text _ ih => exact .line text ih
  | context hentry hexit hinside _ _ ih =>
    rw [List.cons_append, List.append_assoc, List.cons_append]
    exact .context hentry hexit hinside ih

namespace CodeBlock

/-! ### Moves -/

/-- What a move makes of a code block. -/
def move (code : CodeBlock) : Move → CodeBlock
  | .line text => code.addLine text
  | .indented => code.enterIndented
  | .block header blankAfterHeader => code.enterBlock header blankAfterHeader
  | .close => code.close
  | .abort => code.abort

/-- The texts that a move writes. -/
def texts (code : CodeBlock) : Move → List String
  | .line text => [text]
  | .block header blankAfterHeader => opening header :: if blankAfterHeader then [""] else []
  | .close => if code.contexts.head? = some .block then [closing] else []
  | .indented | .abort => []

/-- The level that a move writes its texts at: a block is closed outside of it. -/
def textLevel (code : CodeBlock) : Move → Int
  | .close => code.level - 1
  | _ => code.level

/-- The indentation of a level is two spaces. -/
lemma indentedLine_eq (level : Int) (text : String) :
    indentedLine level text = writtenLine level text := by
  have hspaces : ∀ levels : Nat, (List.replicate levels indentation).foldr (· ++ ·) text =
      String.ofList (List.replicate (2 * levels) ' ') ++ text := by
    intro levels
    induction levels with
    | zero => simp
    | succ levels ih =>
      have hlevels : 2 * (levels + 1) = 2 + 2 * levels := by omega
      rw [List.replicate_succ, List.foldr_cons, ih, hlevels, List.replicate_add,
        String.ofList_append, String.append_assoc]
      rfl
  rw [indentedLine, writtenLine, hspaces]

/-- A move writes its texts behind the lines that are there. -/
lemma lines_move (code : CodeBlock) (move : Move) :
    (code.move move).lines =
      code.lines ++ (code.texts move).map (writtenLine (code.textLevel move)) := by
  cases move with
  | line text => rw [CodeBlock.move, lines_addLine, indentedLine_eq]; rfl
  | indented => exact (List.append_nil _).symm
  | block header blankAfterHeader =>
    cases blankAfterHeader with
    | false => exact congrArg (code.lines ++ [·]) (indentedLine_eq _ _)
    | true =>
      change code.lines ++ [_] ++ [_] = _
      rw [indentedLine_eq, List.append_assoc]
      rfl
  | close =>
    rw [CodeBlock.move, CodeBlock.close, texts, textLevel]
    cases code.contexts with
    | nil => exact (List.append_nil _).symm
    | cons context outer =>
      cases context with
      | indented => exact (List.append_nil _).symm
      | block => exact congrArg (code.lines ++ [·]) (indentedLine_eq _ _)
  | abort =>
    rw [CodeBlock.move, abort]
    cases code.contexts <;> exact (List.append_nil _).symm

/-- A move that enters a context puts it in front of the open ones. -/
lemma contexts_move_of_entered? {code : CodeBlock} {move : Move} {context : Context}
    (h : move.entered? = some context) : (code.move move).contexts = context :: code.contexts := by
  cases move with
  | indented => exact Option.some.inj h ▸ rfl
  | block header blankAfterHeader =>
    cases blankAfterHeader <;> exact Option.some.inj h ▸ rfl
  | line | close | abort => cases h

/-- A move that leaves a context takes it from the open ones. -/
lemma contexts_move_of_isExit {code : CodeBlock} {move : Move} (h : move.isExit = true) :
    (code.move move).contexts = code.contexts.tail := by
  cases move with
  | close =>
    rw [CodeBlock.move, CodeBlock.close]
    cases hcontexts : code.contexts with
    | nil => exact hcontexts
    | cons context outer => cases context <;> rfl
  | abort =>
    rw [CodeBlock.move, abort]
    cases hcontexts : code.contexts with
    | nil => exact hcontexts
    | cons context outer => rfl
  | line | indented | block => cases h

/-- A move counts the open contexts. -/
lemma length_contexts_move (code : CodeBlock) (move : Move) :
    (code.move move).contexts.length = move.openAfter code.contexts.length := by
  cases move with
  | line => rfl
  | indented => rfl
  | block header blankAfterHeader => cases blankAfterHeader <;> rfl
  | close => rw [contexts_move_of_isExit rfl, List.length_tail, Move.openAfter]
  | abort => rw [contexts_move_of_isExit rfl, List.length_tail, Move.openAfter]

/-- A move changes the level as it changes the number of open contexts. -/
lemma level_move (code : CodeBlock) (move : Move) :
    (code.move move).level - (code.move move).contexts.length =
      code.level - code.contexts.length := by
  rw [length_contexts_move]
  cases move with
  | line => rfl
  | indented =>
    change code.level + 1 - _ = _
    rw [Move.openAfter]
    omega
  | block header blankAfterHeader =>
    have hlevel : (code.move (.block header blankAfterHeader)).level = code.level + 1 := by
      cases blankAfterHeader <;> rfl
    rw [hlevel, Move.openAfter]
    omega
  | close =>
    rw [CodeBlock.move, CodeBlock.close, Move.openAfter]
    cases hcontexts : code.contexts with
    | nil => rfl
    | cons context outer =>
      rw [List.length_cons]
      cases context with
      | indented => simp; omega
      | block => simp; omega
  | abort =>
    rw [CodeBlock.move, abort, Move.openAfter]
    cases hcontexts : code.contexts with
    | nil => rfl
    | cons context outer => simp; omega

/-! ### Runs -/

/-- What a run of moves makes of a code block. -/
def run (code : CodeBlock) (moves : List Move) : CodeBlock :=
  moves.foldl move code

/-- A code block without open contexts. -/
def start (level : Int) (lines : List String) : CodeBlock :=
  { level := level, lines := lines }

/-- Two runs one after the other are one run. -/
lemma run_append (code : CodeBlock) (moves moves' : List Move) :
    code.run (moves ++ moves') = (code.run moves).run moves' :=
  List.foldl_append

/-- The lines that are there stay in front. -/
lemma lines_prefix_run (code : CodeBlock) (moves : List Move) :
    code.lines <+: (code.run moves).lines := by
  induction moves generalizing code with
  | nil => exact List.prefix_rfl
  | cons first moves ih =>
    have hfirst : code.lines <+: (code.move first).lines := ⟨_, (code.lines_move first).symm⟩
    exact hfirst.trans (ih (code.move first))

/-- A run changes the level as it changes the number of open contexts. -/
lemma level_run (code : CodeBlock) (moves : List Move) :
    (code.run moves).level - (code.run moves).contexts.length =
      code.level - code.contexts.length := by
  induction moves generalizing code with
  | nil => rfl
  | cons first moves ih => exact (ih (code.move first)).trans (code.level_move first)

/-- A run counts the open contexts. -/
lemma length_contexts_run (level : Int) (lines : List String) (moves : List Move) :
    ((start level lines).run moves).contexts.length = stillOpen moves := by
  have hcount : ∀ code : CodeBlock, (code.run moves).contexts.length =
      moves.foldl Move.openAfter code.contexts.length := by
    induction moves with
    | nil => exact fun _ => rfl
    | cons first moves ih =>
      intro code
      rw [List.foldl_cons, ← length_contexts_move]
      exact ih (code.move first)
  exact hcount (start level lines)

/-- The level is the one at the start plus the number of open contexts. -/
lemma level_run_start (level : Int) (lines : List String) (moves : List Move) :
    ((start level lines).run moves).level = level + stillOpen moves := by
  have hlevel := level_run (start level lines) moves
  rw [length_contexts_run] at hlevel
  change _ = level - (0 : Nat) at hlevel
  omega

/-! ### Entries and exits -/

/-- After balanced moves the same contexts are open as before. -/
lemma contexts_run_of_balanced {moves : List Move} (h : Balanced moves) (code : CodeBlock) :
    (code.run moves).contexts = code.contexts := by
  induction h generalizing code with
  | nil => rfl
  | line text _ ih => exact ih (code.addLine text)
  | @context entry exit inside rest hentry hexit _ _ ihinside ihrest =>
    obtain ⟨context, hcontext⟩ := Option.isSome_iff_exists.mp hentry
    change ((code.move entry).run (inside ++ exit :: rest)).contexts = _
    rw [run_append]
    change ((((code.move entry).run inside).move exit).run rest).contexts = _
    rw [ihrest, contexts_move_of_isExit hexit, ihinside, contexts_move_of_entered? hcontext]
    rfl

/-- An open context was entered by a move after which the moves are balanced, and the contexts
around it were open before that move. -/
lemma exists_entry {level : Int} {lines : List String} {moves : List Move} {context : Context}
    {outer : List Context} (h : ((start level lines).run moves).contexts = context :: outer) :
    ∃ before entry inside, moves = before ++ entry :: inside ∧ entry.entered? = some context ∧
      ((start level lines).run before).contexts = outer ∧ Balanced inside := by
  induction hlength : moves.length using Nat.strongRecOn
    generalizing moves context outer with
  | ind length ih =>
    rcases List.eq_nil_or_concat' moves with rfl | ⟨init, last, rfl⟩
    · cases h
    rw [List.length_append, List.length_singleton] at hlength
    have hlast : (((start level lines).run init).move last).contexts = context :: outer := by
      rw [run_append] at h
      exact h
    cases hentered : last.entered? with
    | some entered =>
      rw [contexts_move_of_entered? hentered, List.cons.injEq] at hlast
      exact ⟨init, last, [], rfl, hentered.trans (congrArg some hlast.1), hlast.2, .nil⟩
    | none =>
      cases hexit : last.isExit with
      | true =>
        -- the last move has left a context, which was entered inside of the one in question
        rw [contexts_move_of_isExit hexit] at hlast
        obtain ⟨left, hleft⟩ : ∃ left, ((start level lines).run init).contexts =
            left :: context :: outer := by
          cases hcontexts : ((start level lines).run init).contexts with
          | nil => rw [hcontexts] at hlast; cases hlast
          | cons left others => rw [hcontexts] at hlast; exact ⟨left, congrArg _ hlast⟩
        obtain ⟨middle, entry', inside', rfl, hentry', hmiddle, hinside'⟩ :=
          ih _ (by omega) hleft rfl
        rw [List.length_append, List.length_cons] at hlength
        obtain ⟨before, entry, inside, rfl, hentry, hbefore, hinside⟩ :=
          ih _ (by omega) hmiddle rfl
        refine ⟨before, entry, inside ++ (entry' :: (inside' ++ last :: [])), ?_, hentry, hbefore,
          hinside.append (.context (Option.isSome_of_eq_some hentry') hexit hinside' .nil)⟩
        simp only [List.append_assoc, List.cons_append]
      | false =>
        obtain ⟨text, rfl⟩ : ∃ text, last = .line text := by
          cases last with
          | line text => exact ⟨text, rfl⟩
          | indented | block => cases hentered
          | close | abort => cases hexit
        obtain ⟨before, entry, inside, rfl, hentry, hbefore, hinside⟩ :=
          ih init.length (by omega) hlast rfl
        exact ⟨before, entry, inside ++ [.line text], by rw [List.append_assoc, List.cons_append],
          hentry, hbefore, hinside.append (.line text .nil)⟩

/-- A context is the innermost open one exactly when the moves after its entry are balanced. -/
theorem contexts_run_eq_cons_iff {level : Int} {lines : List String} {moves : List Move}
    {context : Context} {outer : List Context} :
    ((start level lines).run moves).contexts = context :: outer ↔
      ∃ before entry inside, moves = before ++ entry :: inside ∧ entry.entered? = some context ∧
        ((start level lines).run before).contexts = outer ∧ Balanced inside := by
  constructor
  · exact exists_entry
  · rintro ⟨before, entry, inside, rfl, hentry, rfl, hinside⟩
    rw [run_append]
    change ((((start level lines).run before).move entry).run inside).contexts = _
    rw [contexts_run_of_balanced hinside, contexts_move_of_entered? hentry]

/-- A block that is left at its end is closed at the level of its header. -/
lemma exists_header {level : Int} {lines : List String} {moves : List Move} {outer : List Context}
    (h : ((start level lines).run moves).contexts = .block :: outer) :
    ∃ before header blankAfterHeader inside middle,
      moves = before ++ .block header blankAfterHeader :: inside ∧ Balanced inside ∧
      ((start level lines).run moves).close.lines = ((start level lines).run before).lines ++
        writtenLine (level + stillOpen before) (opening header) :: middle ++
        [writtenLine (level + stillOpen before) closing] := by
  obtain ⟨before, entry, inside, hmoves, hentry, hbefore, hinside⟩ :=
    contexts_run_eq_cons_iff.mp h
  obtain ⟨header, blankAfterHeader, rfl⟩ : ∃ header blankAfterHeader,
      entry = .block header blankAfterHeader := by
    cases entry with
    | block header blankAfterHeader => exact ⟨header, blankAfterHeader, rfl⟩
    | line | indented | close | abort => cases hentry
  have hopen : stillOpen moves = stillOpen before + 1 := by
    rw [← length_contexts_run level lines, ← length_contexts_run level lines, h, hbefore,
      List.length_cons]
  -- the header comes right behind the lines before the block
  obtain ⟨middle, hmiddle⟩ : ∃ middle, ((start level lines).run moves).lines =
      ((start level lines).run before).lines ++
        writtenLine (level + stillOpen before) (opening header) :: middle := by
    have hheader : (((start level lines).run before).move
        (.block header blankAfterHeader)).lines = ((start level lines).run before).lines ++
          writtenLine (level + stillOpen before) (opening header) ::
            (if blankAfterHeader then [""] else []).map
              (writtenLine (level + stillOpen before)) := by
      rw [← level_run_start]
      exact lines_move _ _
    obtain ⟨added, hadded⟩ := lines_prefix_run
      (((start level lines).run before).move (.block header blankAfterHeader)) inside
    rw [hheader, List.append_assoc, List.cons_append] at hadded
    rw [hmoves, run_append]
    exact ⟨_, hadded.symm⟩
  refine ⟨before, header, blankAfterHeader, inside, middle, hmoves, hinside, ?_⟩
  have hlevel : ((start level lines).run moves).level - 1 = level + stillOpen before := by
    rw [level_run_start, hopen]
    omega
  have hclose : ((start level lines).run moves).close.lines =
      ((start level lines).run moves).lines ++
        [writtenLine (((start level lines).run moves).level - 1) closing] := by
    have hmove := lines_move ((start level lines).run moves) .close
    rw [texts, h, List.head?_cons, if_pos rfl] at hmove
    exact hmove
  rw [hclose, hmiddle, hlevel]

/-- **Contexts are balanced.**  After each run of moves the level is the one at the start plus the
number of contexts that are still open, and the lines from the start are there.  Each further move
writes its texts behind the lines that are there, with two spaces for each level and none before
an empty text.  The innermost block was entered by a move after which the moves are balanced: when
it is left at its end, its closing line has the indentation of its header, and when it is left
before its end, no line is added. -/
theorem contexts_balanced (level : Int) (lines : List String) (moves : List Move) :
    ((start level lines).run moves).level = level + stillOpen moves ∧
    lines <+: ((start level lines).run moves).lines ∧
    (∀ move, (((start level lines).run moves).move move).lines =
      ((start level lines).run moves).lines ++
        (((start level lines).run moves).texts move).map
          (writtenLine (((start level lines).run moves).textLevel move))) ∧
    ∀ outer, ((start level lines).run moves).contexts = .block :: outer →
      ((start level lines).run moves).abort.lines = ((start level lines).run moves).lines ∧
      ∃ before header blankAfterHeader inside middle,
        moves = before ++ .block header blankAfterHeader :: inside ∧ Balanced inside ∧
        ((start level lines).run moves).close.lines = ((start level lines).run before).lines ++
          writtenLine (level + stillOpen before) (opening header) :: middle ++
          [writtenLine (level + stillOpen before) closing] := by
  refine ⟨level_run_start level lines moves, lines_prefix_run (start level lines) moves,
    lines_move _, fun outer h => ⟨?_, exists_header h⟩⟩
  exact (lines_move _ .abort).trans (List.append_nil _)

/-- A block in which a level of nesting is left before its end. -/
def interrupted : List Move :=
  [.block "let module A" true, .indented, .line "type t;", .abort, .line "type u;"]

/-- From a level below zero, the block is closed as far out as its header. -/
theorem contexts_balanced_interrupted :
    ((start (-1) []).run interrupted).contexts = [.block] ∧
    ((start (-1) []).run interrupted).level = 0 ∧
    ((start (-1) []).run interrupted).abort.lines = ["let module A = \x7b", "", "  type t;",
      "type u;"] ∧
    ∃ before header blankAfterHeader inside middle,
      interrupted = before ++ .block header blankAfterHeader :: inside ∧ Balanced inside ∧
      ((start (-1) []).run interrupted).close.lines = ((start (-1) []).run before).lines ++
        writtenLine (-1 + stillOpen before) (opening header) :: middle ++
        [writtenLine (-1 + stillOpen before) closing] := by
  have hcontexts : ((start (-1) []).run interrupted).contexts = [.block] := rfl
  have hlines : ((start (-1) []).run interrupted).lines = ["let module A = \x7b", "", "  type t;",
    "type u;"] := by decide
  obtain ⟨hlevel, -, -, hblock⟩ := contexts_balanced (-1) [] interrupted
  obtain ⟨habort, hheader⟩ := hblock [] hcontexts
  exact ⟨hcontexts, hlevel, habort.trans hlines, hheader⟩

end CodeBlock

end ReasonBindings.Layout
