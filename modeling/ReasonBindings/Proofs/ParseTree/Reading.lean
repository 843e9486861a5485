import ReasonBindings.ParseTree.Reading
import ReasonBindings.Proofs.Traced.Outcome

/-!
# Readings of the parts of a tree

A node of a parse tree is read through the readings of its children.  What a list of
children contributes is said here of the nodes themselves: the parts among the
readings are the readings of the parts, and the reading in a field is the reading of
the node in that field.  A property of all trees is proved by induction from the
children of a tree to the tree.
-/

namespace ReasonBindings

open Syntax

/-- **Induction along parse trees.**  A property that passes from the children of every tree to the
tree holds of all trees. -/
@[elab_as_elim]
theorem Tree.induction {motive : Tree → Prop}
    (node : ∀ tree : Tree, (∀ child ∈ tree.children, motive child) → motive tree) (tree : Tree) :
    motive tree :=
  node tree fun child _ => Tree.induction node child
termination_by sizeOf tree
decreasing_by
  have hlist : sizeOf child < sizeOf tree.children := List.sizeOf_lt_of_mem ‹_›
  cases tree
  simp only [Tree.children, Tree.node.sizeOf_spec] at hlist ⊢
  omega

/-- The parts of a tree are among its children. -/
lemma Tree.mem_children_of_mem_parts {tree part : Tree} (h : part ∈ tree.parts) :
    part ∈ tree.children :=
  (List.mem_filter.mp h).1

/-- The node in a field of a tree is among its children. -/
lemma Tree.mem_children_of_child? {tree child : Tree} {field : String}
    (h : tree.child? field = some child) : child ∈ tree.children :=
  List.mem_of_find?_eq_some h

/-! ### Nodes at any depth -/

mutual

/-- The nodes of a tree, the tree itself first. -/
def Tree.subtrees : Tree → List Tree
  | tree@(.node _ _ _ _ _ _ children) => tree :: subtreesOf children

/-- The nodes of the trees of a list. -/
def subtreesOf : List Tree → List Tree
  | [] => []
  | tree :: trees => tree.subtrees ++ subtreesOf trees

end

namespace Tree

/-- The nodes of the trees of a list are the nodes of the members of the list. -/
lemma mem_subtreesOf {node : Tree} {trees : List Tree} :
    node ∈ subtreesOf trees ↔ ∃ tree ∈ trees, node ∈ tree.subtrees := by
  induction trees with
  | nil => simp [subtreesOf]
  | cons tree trees ih => simp [subtreesOf, ih]

/-- The nodes of a tree are the tree itself and the nodes of its children. -/
lemma mem_subtrees {node tree : Tree} :
    node ∈ tree.subtrees ↔ node = tree ∨ ∃ child ∈ tree.children, node ∈ child.subtrees := by
  cases tree
  rw [subtrees, List.mem_cons, mem_subtreesOf]
  rfl

end Tree

/-! ### Readings -/

namespace Reading

variable {source : ByteArray} {tree : Tree}

/-- A child of a tree with its reading. -/
def childOf (source : ByteArray) (tree : Tree) : Child :=
  ⟨tree, tree.reading source⟩

/-- The parts among the readings are the readings of the parts. -/
lemma parts_childReadings (source : ByteArray) (tree : Tree) :
    parts (childReadings source tree.children) = tree.parts.map (childOf source) := by
  rw [childReadings_eq_map, parts, List.filter_map]
  rfl

/-- The reading in a field is the reading of the node in that field. -/
lemma child?_childReadings (source : ByteArray) (tree : Tree) (field : String) :
    child? (childReadings source tree.children) field =
      (tree.child? field).map (childOf source) := by
  rw [childReadings_eq_map, child?, List.find?_map]
  rfl

/-- What a field contributes is what the node in it contributes, or what stands for an empty
field. -/
lemma fieldOr_childReadings {α : Type} (source : ByteArray) (tree : Tree) (field : String)
    (empty : α) (view : Reading → Traced α) :
    fieldOr (childReadings source tree.children) field empty view =
      match tree.child? field with
      | some child => view (child.reading source)
      | none => pure empty := by
  rw [fieldOr, child?_childReadings]
  cases tree.child? field <;> rfl

/-- The parts contribute one list after another. -/
lemma gather_outcome_eq_ok {view : Reading → Traced (List Node)} {nodes : List Node} :
    (gather (childReadings source tree.children) view).outcome = .ok nodes ↔
      ∃ lists, List.Forall₂ (fun part list => (view (part.reading source)).outcome = .ok list)
        tree.parts lists ∧ lists.flatten = nodes := by
  rw [gather, Traced.bind_pure_outcome_eq_ok, parts_childReadings, List.map_map]
  simp only [← Traced.all_map_outcome_eq_ok]
  rfl

/-- The parts contribute one node after another, some of them none. -/
lemma gatherSome_outcome_eq_ok {view : Reading → Traced (Option Node)} {nodes : List Node} :
    (gatherSome (childReadings source tree.children) view).outcome = .ok nodes ↔
      ∃ options, List.Forall₂ (fun part option =>
        (view (part.reading source)).outcome = .ok option) tree.parts options ∧
        options.filterMap id = nodes := by
  rw [gatherSome, Traced.bind_pure_outcome_eq_ok, parts_childReadings, List.map_map]
  simp only [← Traced.all_map_outcome_eq_ok]
  rfl

/-- When it shows in a part whether it contributes a node of some kind, the parts for which it does
contribute the nodes of that kind one after another. -/
lemma forall₂_filter_of_gatherSome {view : Reading → Traced (Option Node)} {nodes : List Node}
    {ofTree : Tree → Bool} {ofNode : Node → Bool}
    (hview : ∀ part result, (view (part.reading source)).outcome = .ok result →
      result.any ofNode = ofTree part)
    (h : (gatherSome (childReadings source tree.children) view).outcome = .ok nodes) :
    List.Forall₂ (fun part node => (view (part.reading source)).outcome = .ok (some node))
      (tree.parts.filter ofTree) (nodes.filter ofNode) := by
  obtain ⟨options, hoptions, rfl⟩ := gatherSome_outcome_eq_ok.mp h
  rw [List.filter_filterMap, ← List.filterMap_eq_filter]
  refine List.rel_filterMap (fun part option hread => ?_) hoptions
  have hkind := hview part option hread
  cases option with
  | none =>
    rw [Option.guard, ← hkind]
    exact .none
  | some node =>
    rw [Option.any_some] at hkind
    rw [Option.guard, ← hkind, id, Option.filter_some]
    split
    · exact .some hread
    · exact .none

/-- **Induction along nested namespaces.**  The namespaces of a dotted name are one namespace around
the body, whose name may be omitted, or a namespace around such ones. -/
lemma nestNamespaces_induction {motive : Node → Prop} {line : Line} {body : Node}
    {names : List Node}
    (innermost : ∀ name, name = .absent ∨ name ∈ names → motive (.namespaceDecl line name body))
    (around : ∀ name ∈ names, ∀ first next, motive (.namespaceDecl line first next) →
      motive (.namespaceDecl line name (.namespaceDecl line first next))) :
    motive (nestNamespaces line body names) := by
  suffices hnested : ∃ first next, nestNamespaces line body names = .namespaceDecl line first next ∧
      motive (.namespaceDecl line first next) by
    obtain ⟨first, next, heq, hmotive⟩ := hnested
    exact heq ▸ hmotive
  induction names with
  | nil => exact ⟨.absent, body, rfl, innermost .absent (Or.inl rfl)⟩
  | cons name others ih =>
    have hname : name ∈ name :: others := List.mem_cons_self
    cases others with
    | nil => exact ⟨name, body, rfl, innermost name (Or.inr hname)⟩
    | cons second rest =>
      obtain ⟨first, next, heq, hmotive⟩ := ih
        (fun inner hinner => innermost inner (hinner.imp_right (List.mem_cons_of_mem name)))
        (fun inner hinner => around inner (List.mem_cons_of_mem name hinner))
      refine ⟨name, .namespaceDecl line first next, ?_, around name hname first next hmotive⟩
      rw [nestNamespaces, heq]
      exact List.cons_ne_nil second rest

end Reading

/-! ### Wrappers -/

namespace Tree

/-- The constructs that stand for the statements in them. -/
def wrapperKinds : List String :=
  ["ambient_declaration", "export_statement", "expression_statement", "statement_block"]

/-- A construct that stands for the statements in it is read as these. -/
lemma statement_of_wrapper {source : ByteArray} {tree : Tree}
    (h : tree.kind ∈ wrapperKinds) :
    (tree.reading source).statement =
      Reading.gather (childReadings source tree.children) Reading.statement := by
  rw [Tree.reading_eq]
  change Reading.statementOf source tree (childReadings source tree.children) = _
  simp only [wrapperKinds, List.mem_cons, List.not_mem_nil, or_false] at h
  rcases h with hkind | hkind | hkind | hkind
  · simp only [Reading.statementOf, hkind]
  · simp only [Reading.statementOf, hkind]
  · simp only [Reading.statementOf, hkind]
  · simp only [Reading.statementOf, hkind]

end Tree

end ReasonBindings
