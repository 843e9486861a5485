import ReasonBindings.Proofs.ParseTree.Reading

/-!
# The surface of a parse tree

The *surface* of a tree is the node with its children, and without anything inside of these.
Much of what a node says shows on its surface: its place and its text, the tokens among its
children, its modifiers and its name, also a computed one.  Trees of one surface agree in all
of that, whatever is inside of their children.
-/

namespace ReasonBindings

open Syntax

namespace Tree

variable (source : ByteArray) (tree : Tree)

/-- The node with other children. -/
def withChildren : Tree → List Tree → Tree
  | node kind named field start stop row _, children =>
    node kind named field start stop row children

/-- The node without its children. -/
def alone : Tree :=
  tree.withChildren []

/-- The node with its children, and without anything inside of these. -/
def surface : Tree :=
  tree.withChildren (tree.children.map alone)

/-! ### Attributes -/

section WithChildren

variable (children : List Tree)

@[simp] lemma kind_withChildren : (tree.withChildren children).kind = tree.kind := by
  cases tree
  rfl

@[simp] lemma named_withChildren : (tree.withChildren children).named = tree.named := by
  cases tree
  rfl

@[simp] lemma field_withChildren : (tree.withChildren children).field = tree.field := by
  cases tree
  rfl

@[simp] lemma line_withChildren : (tree.withChildren children).line = tree.line := by
  cases tree
  rfl

@[simp] lemma text_withChildren :
    (tree.withChildren children).text source = tree.text source := by
  cases tree
  rfl

@[simp] lemma children_withChildren : (tree.withChildren children).children = children := by
  cases tree
  rfl

/-- Children that are replaced do not matter. -/
@[simp] lemma withChildren_withChildren (children' : List Tree) :
    (tree.withChildren children).withChildren children' = tree.withChildren children' := by
  cases tree
  rfl

/-- The children that a node has are those that it gets. -/
@[simp] lemma withChildren_children : tree.withChildren tree.children = tree := by
  cases tree
  rfl

@[simp] lemma alone_withChildren : (tree.withChildren children).alone = tree.alone :=
  withChildren_withChildren tree children []

end WithChildren

@[simp] lemma kind_alone : tree.alone.kind = tree.kind :=
  kind_withChildren tree []

@[simp] lemma field_alone : tree.alone.field = tree.field :=
  field_withChildren tree []

@[simp] lemma isPart_alone : tree.alone.isPart = tree.isPart := by
  rw [isPart, isPart, alone, named_withChildren, kind_withChildren]

@[simp] lemma line_alone : tree.alone.line = tree.line :=
  line_withChildren tree []

@[simp] lemma text_alone : tree.alone.text source = tree.text source :=
  text_withChildren source tree []

@[simp] lemma alone_surface : tree.surface.alone = tree.alone :=
  alone_withChildren tree _

/-- The surface is made of a node and of its children. -/
lemma surface_eq : tree.surface = tree.alone.withChildren (tree.children.map alone) := by
  rw [surface, alone, withChildren_withChildren]

@[simp] lemma kind_surface : tree.surface.kind = tree.kind :=
  kind_withChildren tree _

@[simp] lemma line_surface : tree.surface.line = tree.line :=
  line_withChildren tree _

@[simp] lemma text_surface : tree.surface.text source = tree.text source :=
  text_withChildren source tree _

/-! ### Children -/

/-- The parts on the surface are the parts alone. -/
@[simp] lemma parts_surface : tree.surface.parts = tree.parts.map alone := by
  have hparts : isPart ∘ alone = isPart := funext isPart_alone
  rw [parts, parts, surface, children_withChildren, List.filter_map, hparts]

/-- The child in a field of the surface is the child in that field alone. -/
@[simp] lemma child?_surface (field : String) :
    tree.surface.child? field = (tree.child? field).map alone := by
  have hfield : (fun child : Tree => child.field == some field) ∘ alone =
      fun child => child.field == some field := by
    funext child
    rw [Function.comp_apply, field_alone]
  rw [child?, child?, surface, children_withChildren, List.find?_map, hfield]

lemma hasChild_surface (kind : String) : tree.surface.hasChild kind = tree.hasChild kind := by
  have hkind : (fun child : Tree => child.kind == kind) ∘ alone =
      fun child => child.kind == kind := by
    funext child
    rw [Function.comp_apply, kind_alone]
  rw [hasChild, hasChild, surface, children_withChildren, List.any_map, hkind]

lemma modifiers_surface : tree.surface.modifiers source = tree.modifiers source := by
  have hmodifier : modifier? source ∘ alone = modifier? source := by
    funext child
    rw [Function.comp_apply, modifier?, modifier?, kind_alone, text_alone]
  rw [modifiers, modifiers, surface, children_withChildren, List.filterMap_map, hmodifier]

/-! ### Names -/

@[simp] lemma identifier_alone : tree.alone.identifier source = tree.identifier source := by
  rw [identifier, identifier, line_alone, text_alone]

@[simp] lemma dottedParts_alone : tree.alone.dottedParts source = tree.dottedParts source := by
  rw [dottedParts, dottedParts, text_alone]

@[simp] lemma typeName_alone : tree.alone.typeName source = tree.typeName source := by
  rw [typeName, typeName, dottedParts_alone, line_alone]

@[simp] lemma expressionName_alone :
    tree.alone.expressionName source = tree.expressionName source := by
  rw [expressionName, expressionName, dottedParts_alone, line_alone]

@[simp] lemma optionalIdentifier_alone (tree? : Option Tree) :
    optionalIdentifier source (tree?.map alone) = optionalIdentifier source tree? := by
  cases tree? with
  | none => rfl
  | some tree => exact identifier_alone source tree

/-- The child in a field, or the node itself, is the same node on the surface. -/
lemma alone_childOrSelf_surface (field : String) :
    (tree.surface.childOrSelf field).alone = (tree.childOrSelf field).alone := by
  rw [childOrSelf, childOrSelf, child?_surface]
  cases tree.child? field with
  | none => exact alone_surface tree
  | some child => exact alone_withChildren child []

/-- What stands in the brackets of a computed name shows on the surface. -/
lemma keyExpression_surface :
    tree.surface.keyExpression source = tree.keyExpression source := by
  rw [keyExpression, keyExpression, parts_surface]
  cases tree.parts with
  | nil => rfl
  | cons inner others =>
    simp only [List.map_cons, kind_alone, line_surface, text_alone, expressionName_alone]

lemma identifier_surface : tree.surface.identifier source = tree.identifier source := by
  rw [← identifier_alone, alone_surface, identifier_alone]

lemma memberName_surface : tree.surface.memberName source = tree.memberName source := by
  simp only [memberName, kind_surface, line_surface, text_surface, keyExpression_surface,
    identifier_surface]

lemma optionalMemberName_surface (tree? : Option Tree) :
    optionalMemberName source (tree?.map surface) = optionalMemberName source tree? := by
  cases tree? with
  | none => rfl
  | some tree => exact memberName_surface source tree

end Tree

namespace Reading

variable (source : ByteArray) (tree : Tree)

/-! ### Constructs -/

lemma literalType_surface : literalType source tree.surface = literalType source tree := by
  rw [literalType, literalType, Tree.parts_surface]
  cases tree.parts with
  | nil => rw [List.map_nil, Tree.line_surface, Tree.text_surface]
  | cons inner others =>
    simp only [List.map_cons, Tree.kind_alone, Tree.line_surface, Tree.text_surface,
      Tree.text_alone]

lemma namespaceNames_surface :
    namespaceNames source tree.surface = namespaceNames source tree := by
  rw [namespaceNames, namespaceNames, Tree.child?_surface]
  cases tree.child? "name" with
  | none => rfl
  | some name =>
    simp only [Option.map_some, Tree.kind_alone, Tree.text_alone, Tree.dottedParts_alone,
      Tree.line_surface]

/-- An entry of an extends clause is read without its children. -/
lemma extendedType_alone : extendedType source tree.alone = extendedType source tree := by
  rw [extendedType, extendedType, Tree.kind_alone, Tree.line_alone, Tree.expressionName_alone]

/-- The name of a parameter shows on the surface of its pattern. -/
lemma parameterName_surface (pattern? : Option Tree) :
    parameterName source <$> parameterTarget (pattern?.map Tree.surface) =
      parameterName source <$> parameterTarget pattern? := by
  have hname : ∀ target target' : Tree, target'.alone = target.alone →
      parameterName source (some target') = parameterName source (some target) := by
    intro target target' halone
    rw [parameterName, parameterName, ← Tree.kind_alone target', ← Tree.identifier_alone, halone,
      Tree.kind_alone, Tree.identifier_alone]
  cases pattern? with
  | none => rfl
  | some pattern =>
    rw [Option.map_some, parameterTarget, parameterTarget, Tree.kind_surface, Tree.parts_surface]
    split
    · cases pattern.parts with
      | nil => rfl
      | cons first others =>
        exact congrArg pure (hname first first.alone (Tree.alone_withChildren first []))
    · exact congrArg pure (hname pattern pattern.surface (Tree.alone_surface pattern))

end Reading

end ReasonBindings
