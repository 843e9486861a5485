import ReasonBindings.Model.Print
import ReasonBindings.Proofs.Layout.Contexts

/-!
# Printing into a code block

The lines of the bindings of a module can be made as a whole, where what stands in a block is
indented after it was made.  They can be written as well one by one into a code block that keeps
the level: a block is entered before what stands in it is written, and left after that.

Both ways give the same text.  The moves of the second way are balanced, so no context is open
when the text is taken.
-/

namespace ReasonBindings

namespace Layout

/-- A line at the outermost level is the text. -/
lemma writtenLine_zero (text : String) : writtenLine 0 text = text := by
  rw [writtenLine]
  by_cases htext : text = ""
  · rw [if_pos htext, htext]
  · rw [if_neg htext]
    exact String.empty_append

/-- An indented line is a line that is written one level further in. -/
lemma writtenLine_indentLine {level : Int} (hlevel : 0 ≤ level) (text : String) :
    writtenLine level (indentLine text) = writtenLine (level + 1) text := by
  rw [writtenLine, writtenLine, indentLine]
  by_cases htext : text = ""
  · rw [if_pos htext, if_pos rfl, if_pos htext]
  · have hindented : indentation ++ text ≠ "" := by
      intro hempty
      exact htext (String.append_eq_empty_iff.mp hempty).2
    have hspaces : 2 * (level + 1).toNat = 2 * level.toNat + 2 := by omega
    rw [if_neg htext, if_neg hindented, if_neg htext, hspaces, List.replicate_add,
      String.ofList_append, String.append_assoc]
    rfl

/-- The moves are balanced, and write the given lines at the level that they start from. -/
structure Writes (moves : List Move) (lines : List String) : Prop where
  balanced : Balanced moves
  lines_run : ∀ code : CodeBlock, 0 ≤ code.level →
    (code.run moves).lines = code.lines ++ lines.map (writtenLine code.level)

namespace Writes

variable {moves moves' : List Move} {body body' : List String}

/-- After balanced moves the level is the one before. -/
lemma level_run (h : Writes moves body) (code : CodeBlock) :
    (code.run moves).level = code.level := by
  have hlevel := code.level_run moves
  rw [CodeBlock.contexts_run_of_balanced h.balanced] at hlevel
  omega

lemma nil : Writes [] [] :=
  ⟨.nil, fun _ _ => (List.append_nil _).symm⟩

/-- Moves one after another write their lines one after another. -/
lemma append (h : Writes moves body) (h' : Writes moves' body') :
    Writes (moves ++ moves') (body ++ body') := by
  refine ⟨h.balanced.append h'.balanced, fun code hlevel => ?_⟩
  have hrest := h'.lines_run (code.run moves) (by rwa [h.level_run])
  rw [CodeBlock.run_append, hrest, h.lines_run code hlevel, h.level_run, List.map_append,
    List.append_assoc]

lemma line (text : String) : Writes [.line text] [text] :=
  ⟨.line text .nil, fun code _ => code.lines_move (.line text)⟩

/-- Moves for each member of a list write the lines of the members. -/
lemma flatMap {α : Type} {movesOf : α → List Move} {linesOf : α → List String}
    (h : ∀ member, Writes (movesOf member) (linesOf member)) (members : List α) :
    Writes (members.flatMap movesOf) (members.flatMap linesOf) := by
  induction members with
  | nil => exact nil
  | cons member members ih => exact (h member).append ih

/-- A line for each member of a list. -/
lemma map {α : Type} (lineOf : α → String) (members : List α) :
    Writes (members.map fun member => .line (lineOf member)) (members.map lineOf) := by
  induction members with
  | nil => exact nil
  | cons member members ih => exact (line (lineOf member)).append ih

/-- What is written in a block stands one level further in, between its header and its closing
line. -/
lemma block (header : String) (blankAfterHeader : Bool) (h : Writes moves body) :
    Writes (.block header blankAfterHeader :: (moves ++ [.close]))
      (block header blankAfterHeader body) := by
  refine ⟨.context rfl rfl h.balanced .nil, fun code hlevel => ?_⟩
  have hopened : (code.move (.block header blankAfterHeader)).level = code.level + 1 := by
    cases blankAfterHeader <;> rfl
  have hcontexts : ((code.move (.block header blankAfterHeader)).run moves).contexts =
      .block :: code.contexts := by
    rw [CodeBlock.contexts_run_of_balanced h.balanced, CodeBlock.contexts_move_of_entered? rfl]
  have hheader : (code.move (.block header blankAfterHeader)).lines = code.lines ++
      (opening header :: if blankAfterHeader then [""] else []).map (writtenLine code.level) :=
    code.lines_move _
  have hbody := h.lines_run (code.move (.block header blankAfterHeader)) (by omega)
  have hclosed := ((code.move (.block header blankAfterHeader)).run moves).lines_move .close
  rw [CodeBlock.texts, hcontexts, List.head?_cons, if_pos rfl, CodeBlock.textLevel, h.level_run,
    hopened, Int.add_sub_cancel, hbody, hopened, hheader] at hclosed
  have hindented : body.map (writtenLine (code.level + 1)) =
      (indent body).map (writtenLine code.level) := by
    rw [indent, List.map_map]
    exact List.map_congr_left fun text _ => (writtenLine_indentLine hlevel text).symm
  change ((code.move (.block header blankAfterHeader)).run (moves ++ [.close])).lines = _
  rw [CodeBlock.run_append]
  refine hclosed.trans ?_
  rw [hindented, List.append_assoc, List.append_assoc, ← List.map_append, ← List.map_append]
  simp only [Layout.block, List.cons_append, List.append_assoc]

end Writes

end Layout

namespace Model

open Layout

/-- The moves that write the bindings of an interface. -/
def Interface.moves (interface : Interface) (library : String) : List Move :=
  .block (moduleHeader interface.name) false ::
    ((interface.bodyLines library).map Move.line ++ [.close])

/-- The moves of an interface write its bindings. -/
lemma Interface.writes_moves (interface : Interface) (library : String) :
    Writes (interface.moves library) (interface.lines library) := by
  have hbody := Writes.map id (interface.bodyLines library)
  rw [List.map_id] at hbody
  exact hbody.block (moduleHeader interface.name) false

mutual

/-- The moves that write the bindings of the records of a module. -/
def Module.moves (library : String) : Module → List Move
  | ⟨_, modules, globals, interfaces, methods⟩ =>
    globals.map (fun value => .line value.line) ++
      methods.map (fun method => .line (method.line library)) ++
      interfaces.flatMap (fun interface => interface.moves library ++ [.line ""]) ++
      nestedMoves library modules

/-- The moves that write the blocks of nested modules. -/
def nestedMoves (library : String) : List Module → List Move
  | [] => []
  | inner :: others =>
    .block (moduleHeader inner.name) true :: (inner.moves library ++ [.close]) ++
      .line "" :: nestedMoves library others

end

mutual

/-- The moves of a module write its bindings. -/
theorem Module.writes_moves (library : String) :
    ∀ module : Module, Writes (module.moves library) (module.lines library)
  | ⟨_, modules, globals, interfaces, methods⟩ => by
    have hinterface : ∀ interface : Interface, Writes (interface.moves library ++ [.line ""])
        (interface.lines library ++ [""]) :=
      fun interface => (interface.writes_moves library).append (.line "")
    have hlines := (Writes.map Variable.line globals).append
      (Writes.map (·.line library) methods)
    rw [Module.moves, Module.lines]
    exact (hlines.append (.flatMap hinterface interfaces)).append
      (writes_nestedMoves library modules)

/-- The moves of nested modules write their blocks. -/
theorem writes_nestedMoves (library : String) :
    ∀ modules : List Module, Writes (nestedMoves library modules) (nestedLines library modules)
  | [] => .nil
  | inner :: others => by
    have hblock := (inner.writes_moves library).block (moduleHeader inner.name) true
    exact hblock.append ((Writes.line "").append (writes_nestedMoves library others))

end

/-- **Printing line by line.**  The text of the bindings of a file is what is collected when they
are written into a code block by balanced moves, after which no context is open. -/
theorem Module.text_eq_run (root : Module) :
    Balanced (root.moves root.name) ∧
      ((CodeBlock.start 0 []).run (root.moves root.name)).contexts = [] ∧
      ((CodeBlock.start 0 []).run (root.moves root.name)).text = root.text := by
  have hwrites := root.writes_moves root.name
  refine ⟨hwrites.balanced, CodeBlock.contexts_run_of_balanced hwrites.balanced _, ?_⟩
  have houtermost : (root.lines root.name).map (writtenLine 0) = root.lines root.name := by
    rw [funext writtenLine_zero, List.map_id']
  have hlines : ((CodeBlock.start 0 []).run (root.moves root.name)).lines =
      [] ++ (root.lines root.name).map (writtenLine 0) :=
    hwrites.lines_run (.start 0 []) (Int.le_refl 0)
  rw [CodeBlock.text, Module.text, hlines, houtermost, List.nil_append]

end Model

end ReasonBindings
