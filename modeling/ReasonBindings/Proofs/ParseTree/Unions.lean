import ReasonBindings.Proofs.ParseTree.Reading
import ReasonBindings.TypeText

/-!
# Nested unions

A union of more than two types is a tree of unions, which leans to the left as a rule and may have
any other shape; comments can stand anywhere in it, and a bar in front of the first type makes a
union of one type.  The *alternatives* of such a tree are the types at its leaves, from left to
right.  The tree is read as one union of its alternatives, each of them once and in this order.

So the shape of the tree has no influence on the text of the type.  When all alternatives are
string literals, the text lists their contents.
-/

namespace ReasonBindings

open Syntax TypeText

/-! ### Alternatives -/

mutual

/-- The types that a type is a choice of, from left to right: those of the types in a union, and
any other type by itself. -/
def Tree.alternatives : Tree → List Tree
  | tree@(.node kind _ _ _ _ _ children) =>
    if kind = "union_type" then alternativesOf children else [tree]

/-- The types that the constructs of a list are choices of. -/
def alternativesOf : List Tree → List Tree
  | [] => []
  | tree :: trees => (if tree.isPart then tree.alternatives else []) ++ alternativesOf trees

end

namespace Tree

/-- The constructs of a list have their alternatives one after another. -/
lemma alternativesOf_eq (trees : List Tree) :
    alternativesOf trees = (trees.filter isPart).flatMap alternatives := by
  induction trees with
  | nil => rfl
  | cons tree trees ih =>
    rw [alternativesOf, ih, List.filter_cons]
    split <;> rfl

/-- A union has the alternatives of its parts. -/
lemma alternatives_of_union {tree : Tree} (h : tree.kind = "union_type") :
    tree.alternatives = tree.parts.flatMap alternatives := by
  cases tree
  rw [kind] at h
  rw [alternatives, if_pos h, alternativesOf_eq]
  rfl

/-- A type that is no union is its only alternative. -/
lemma alternatives_of_ne {tree : Tree} (h : tree.kind ≠ "union_type") :
    tree.alternatives = [tree] := by
  cases tree
  exact if_neg h

/-- No alternative is a union. -/
lemma kind_ne_of_mem_alternatives {tree : Tree} :
    ∀ leaf ∈ tree.alternatives, leaf.kind ≠ "union_type" := by
  induction tree using Tree.induction with
  | node tree ih =>
    intro leaf hleaf
    by_cases h : tree.kind = "union_type"
    · rw [alternatives_of_union h, List.mem_flatMap] at hleaf
      obtain ⟨part, hpart, hleaf⟩ := hleaf
      exact ih part (mem_children_of_mem_parts hpart) leaf hleaf
    · rw [alternatives_of_ne h, List.mem_singleton] at hleaf
      exact hleaf ▸ h

/-! ### Readings -/

/-- The arms of a union are its alternatives, read as types one after another. -/
lemma arms_reading (source : ByteArray) {tree : Tree} (h : tree.kind = "union_type") :
    (tree.reading source).arms =
      Traced.all (tree.alternatives.map fun leaf => (leaf.reading source).type) := by
  induction tree using Tree.induction with
  | node tree ih =>
    have hpart : ∀ part ∈ tree.parts, Reading.armsOf (Reading.childOf source part) =
        Traced.all (part.alternatives.map fun leaf => (leaf.reading source).type) := by
      intro part hmem
      by_cases hunion : part.kind = "union_type"
      · exact (if_pos hunion).trans (ih part (mem_children_of_mem_parts hmem) hunion)
      · rw [alternatives_of_ne hunion]
        exact if_neg hunion
    rw [reading_eq, alternatives_of_union h, List.map_flatMap, ← Traced.all_flatMap]
    change Reading.unionArms _ = _
    rw [Reading.unionArms, Reading.parts_childReadings, List.map_map]
    rw [List.map_congr_left (g := fun part =>
      Traced.all (part.alternatives.map fun leaf => (leaf.reading source).type)) hpart]

/-- A union is read as the union of its alternatives. -/
lemma type_reading_of_union (source : ByteArray) {tree : Tree} (h : tree.kind = "union_type") :
    (tree.reading source).type = do
      return .unionType tree.line
        (← Traced.all (tree.alternatives.map fun leaf => (leaf.reading source).type)) := by
  rw [← arms_reading source h, reading_eq]
  change Reading.typeOf source tree _ = _
  rw [Reading.typeOf, h]
  rfl

/-! ### String literals -/

/-- The signs that a string can stand between. -/
def quotes : List Char := ['\'', '"', '`']

/-- A text between two equal quotes is what is left without the quotes. -/
lemma unquote_quoted {quote : Char} (h : quote ∈ quotes) (text : String) :
    unquote (String.ofList (quote :: (text.toList ++ [quote]))) = text := by
  have hquote : (quote = '\'' || quote = '"' || quote = '`') = true := by
    simp only [quotes, List.mem_cons, List.not_mem_nil, or_false] at h
    rcases h with rfl | rfl | rfl
    all_goals decide
  have hrest : text.toList ++ [quote] ≠ [] := List.append_ne_nil_of_right_ne_nil _ (by simp)
  simp only [unquote, String.toList_ofList, List.isEmpty_eq_false_iff.mpr hrest,
    List.getLast?_concat, hquote, Bool.not_false, decide_true, Bool.and_self, if_true,
    List.dropLast_concat, String.ofList_toList]

/-- The type is a string literal with the given contents. -/
structure IsStringLiteral (source : ByteArray) (tree : Tree) (contents : String) : Prop where
  kind : tree.kind = "literal_type"
  quoted : ∃ inner others, tree.parts = inner :: others ∧ inner.kind = "string" ∧
    ∃ quote ∈ quotes, inner.text source = String.ofList (quote :: (contents.toList ++ [quote]))

/-- A string literal is read as the type of its contents. -/
lemma IsStringLiteral.type_reading {source : ByteArray} {tree : Tree} {contents : String}
    (h : tree.IsStringLiteral source contents) :
    (tree.reading source).type = pure (.text .stringLiteralType tree.line contents) := by
  obtain ⟨hkind, inner, others, hparts, hstring, quote, hquote, htext⟩ := h
  rw [reading_eq]
  change Reading.typeOf source tree _ = _
  rw [Reading.typeOf, hkind]
  change pure (Reading.literalType source tree) = _
  rw [Reading.literalType, hparts]
  simp only [hstring, if_true, htext, unquote_quoted hquote]

/-- String literals are read as a list of types of their contents. -/
lemma all_stringLiterals {source : ByteArray} {trees : List Tree} {contents : List String}
    (h : List.Forall₂ (IsStringLiteral source) trees contents) :
    ∃ nodes, Traced.all (trees.map fun tree => (tree.reading source).type) = pure nodes ∧
      List.Forall₂ (fun node text => ∃ line, node = .text .stringLiteralType line text) nodes
        contents := by
  induction h with
  | nil => exact ⟨[], rfl, .nil⟩
  | @cons tree text trees contents hfirst _ ih =>
    obtain ⟨nodes, hnodes, htexts⟩ := ih
    refine ⟨.text .stringLiteralType tree.line text :: nodes, ?_, .cons ⟨_, rfl⟩ htexts⟩
    rw [List.map_cons, Traced.all, hfirst.type_reading, hnodes]
    rfl

end Tree

/-! ### Texts -/

/-- The text that a list of strings stands for as a type. -/
def TypeText.stringEnum (contents : List String) : String :=
  "/* StringEnum " ++ " | ".intercalate (contents.map fun text => "\"" ++ text ++ "\"") ++
    " */ string"

/-- A union of string literals is a string with a list of the literals. -/
lemma TypeText.union_stringLiterals {nodes : List Node} {contents : List String}
    (hne : contents ≠ [])
    (h : List.Forall₂ (fun node text => ∃ line, node = .text .stringLiteralType line text) nodes
      contents) :
    union nodes = pure (stringEnum contents) := by
  have hcases : nodes.map enumCase = contents.map fun text => "\"" ++ text ++ "\"" := by
    rw [← List.forall₂_eq_eq_eq, List.forall₂_map_left_iff, List.forall₂_map_right_iff]
    refine h.imp ?_
    rintro _ text ⟨line, rfl⟩
    rfl
  have htext : stringEnum contents =
      "/* StringEnum " ++ " | ".intercalate (nodes.map enumCase) ++ " */ string" :=
    congrArg (fun cases => "/* StringEnum " ++ " | ".intercalate cases ++ " */ string") hcases.symm
  cases h with
  | nil => exact absurd rfl hne
  | cons hfirst _ =>
    obtain ⟨line, rfl⟩ := hfirst
    rw [htext]
    rfl

/-- The text of a union is that of its alternatives. -/
lemma typeText_of_union (source : ByteArray) {tree : Tree} (h : tree.kind = "union_type")
    (scope : Scope) :
    ((tree.reading source).type >>= typeText scope) =
      Traced.all (tree.alternatives.map fun leaf => (leaf.reading source).type) >>= union := by
  rw [Tree.type_reading_of_union source h, Traced.bind_assoc]
  rfl

/-- **Unions are flat.**  A tree of unions is read as the union of the types at its leaves, in their
order and each of them once.  Two trees with the same leaves have the same text in every scope, and
when the leaves are string literals the text is the list of their contents. -/
theorem unions_flattened (source : ByteArray) (tree : Tree) (h : tree.kind = "union_type") :
    ((∀ leaf ∈ tree.alternatives, leaf.kind ≠ "union_type") ∧
      (tree.reading source).type = do
        return .unionType tree.line
          (← Traced.all (tree.alternatives.map fun leaf => (leaf.reading source).type))) ∧
    (∀ tree' : Tree, tree'.kind = "union_type" → tree'.alternatives = tree.alternatives →
      ∀ scope, ((tree'.reading source).type >>= typeText scope) =
        ((tree.reading source).type >>= typeText scope)) ∧
    ∀ contents : List String, contents ≠ [] →
      List.Forall₂ (Tree.IsStringLiteral source) tree.alternatives contents →
      ∀ scope, ((tree.reading source).type >>= typeText scope) = pure (stringEnum contents) := by
  refine ⟨⟨Tree.kind_ne_of_mem_alternatives, Tree.type_reading_of_union source h⟩, ?_, ?_⟩
  · intro tree' h' hsame scope
    rw [typeText_of_union source h', typeText_of_union source h, hsame]
  · intro contents hne hliterals scope
    obtain ⟨nodes, hnodes, htexts⟩ := Tree.all_stringLiterals hliterals
    rw [typeText_of_union source h, hnodes, Traced.pure_bind, union_stringLiterals hne htexts]

/-- A source text with a union of three strings. -/
def unionSource : String := "\"a\"|'b'|\"c\""

/-- A string literal of three bytes. -/
def literalAt (start : Nat) : Tree :=
  .node "literal_type" true none start (start + 3) 0
    [.node "string" true none start (start + 3) 0 []]

/-- A union of two types. -/
def unionAt (start stop : Nat) (first second : Tree) : Tree :=
  .node "union_type" true none start stop 0
    [first, .node "|" false none first.stop (first.stop + 1) 0 [], second]

/-- The union of the strings as it is parsed: the first two of them are a union inside of it. -/
def leftUnion : Tree :=
  unionAt 0 11 (unionAt 0 7 (literalAt 0) (literalAt 4)) (literalAt 8)

/-- The union of the strings with the last two of them as a union inside of it. -/
def rightUnion : Tree :=
  unionAt 0 11 (literalAt 0) (unionAt 4 11 (literalAt 4) (literalAt 8))

/-- Trees of the union that lean to the left and to the right have the same alternatives, and both
have the text that lists the three strings. -/
theorem unions_flattened_threeStrings :
    rightUnion.alternatives = leftUnion.alternatives ∧
    ((leftUnion.reading unionSource.toUTF8).type >>= typeText Scope.empty) =
      pure "/* StringEnum \"a\" | \"b\" | \"c\" */ string" ∧
    ((rightUnion.reading unionSource.toUTF8).type >>= typeText Scope.empty) =
      pure "/* StringEnum \"a\" | \"b\" | \"c\" */ string" := by
  have hliterals : List.Forall₂ (Tree.IsStringLiteral unionSource.toUTF8)
      [literalAt 0, literalAt 4, literalAt 8] ["a", "b", "c"] :=
    .cons ⟨rfl, _, _, rfl, rfl, '"', by decide, by with_unfolding_all rfl⟩ <|
      .cons ⟨rfl, _, _, rfl, rfl, '\'', by decide, by with_unfolding_all rfl⟩ <|
        .cons ⟨rfl, _, _, rfl, rfl, '"', by decide, by with_unfolding_all rfl⟩ .nil
  obtain ⟨-, hshape, htext⟩ := unions_flattened unionSource.toUTF8 leftUnion rfl
  have hleft := htext ["a", "b", "c"] (List.cons_ne_nil _ _) hliterals Scope.empty
  have hright := hshape rightUnion rfl rfl Scope.empty
  exact ⟨rfl, hleft, hright.trans hleft⟩

end ReasonBindings
