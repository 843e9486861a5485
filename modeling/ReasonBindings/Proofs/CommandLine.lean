import Mathlib.Data.List.Basic
import Mathlib.Tactic.Lemma
import ReasonBindings.CommandLine

/-!
# Command lines

Every command can be asked for: there is a command line that stands for it.  Its arguments may be
any texts that do not look like options, and the values of its options any texts at all.
-/

namespace ReasonBindings

/-! ### Pieces -/

/-- A text that does not begin with a dash is an argument. -/
lemma Piece.of_argument {text : String} (h : text.toList.head? ≠ some '-')
    (options : List OptionName) : Piece.of options text = .argument := by
  rw [Piece.of]
  split
  · rename_i hdash
    rw [hdash] at h
    exact absurd rfl h
  · rename_i hdash
    rw [hdash] at h
    exact absurd rfl h
  · rfl

/-- Arguments in front of other pieces stay arguments. -/
lemma Pieces.sort?_append {arguments : List String}
    (h : ∀ argument ∈ arguments, argument.toList.head? ≠ some '-') (options : List OptionName)
    {rest : List String} (hrest : rest ≠ []) :
    Pieces.sort? options (arguments ++ rest) = (Pieces.sort? options rest).map fun pieces =>
      { pieces with arguments := arguments ++ pieces.arguments } := by
  induction arguments with
  | nil => exact (Option.map_id_apply).symm
  | cons argument arguments ih =>
    obtain ⟨hargument, harguments⟩ := List.forall_mem_cons.mp h
    obtain ⟨next, others, hnext⟩ :=
      List.exists_cons_of_ne_nil (List.append_ne_nil_of_right_ne_nil arguments hrest)
    have hothers := ih harguments
    rw [List.cons_append, hnext, sort?, Piece.of_argument hargument, ← hnext]
    dsimp only
    rw [hothers, Option.map_map]
    rfl

/-! ### Commands -/

namespace Command

/-- The arguments of a command. -/
def arguments : Command → List String
  | display input _ => [input]
  | exportTo input output _ _ | watch input output _ => input :: output.toList

/-- A command line for a command: its word, its arguments and its options. -/
def line (command : Command) : List String :=
  match command with
  | display _ name => "show" :: (command.arguments ++ ["--name", name])
  | exportTo _ _ name format =>
    "export" :: (command.arguments ++ ["--name", name, "--format", format])
  | watch _ _ name => "watch" :: (command.arguments ++ ["--name", name])

/-- **Command lines.**  The arguments of a command may be any texts that do not begin with a dash,
and the values of its options any texts at all. -/
theorem parse?_line {command : Command}
    (h : ∀ argument ∈ command.arguments, argument.toList.head? ≠ some '-') :
    Invocation.parse? false command.line = some ⟨false, command⟩ := by
  cases command with
  | display input name =>
    change (parse? "show" ((display input name).arguments ++ ["--name", name])).map
      (Invocation.mk false) = _
    rw [parse?, Pieces.sort?_append h _ (List.cons_ne_nil _ _)]
    rfl
  | exportTo input output name format =>
    change (parse? "export" ((exportTo input output name format).arguments ++
      ["--name", name, "--format", format])).map (Invocation.mk false) = _
    rw [parse?, Pieces.sort?_append h _ (List.cons_ne_nil _ _)]
    cases output <;> rfl
  | watch input output name =>
    change (parse? "watch" ((watch input output name).arguments ++ ["--name", name])).map
      (Invocation.mk false) = _
    rw [parse?, Pieces.sort?_append h _ (List.cons_ne_nil _ _)]
    cases output <;> rfl

end Command

end ReasonBindings
