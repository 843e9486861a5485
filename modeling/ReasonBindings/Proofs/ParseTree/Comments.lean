import ReasonBindings.Proofs.ParseTree.Reading

/-!
# Comments are invisible

A comment may stand between any two children of a node of a parse tree.  A *loose* comment
is one that fills no field of its parent.  A tree without its loose comments, at any depth,
has the same reading as the tree: in each position that a node can stand in it contributes
the same syntax nodes with the same lines, the same notices and the same faults.

A node is read through its parts and through the children in its fields.  Loose comments
are neither, so both views of the children of a node are those of the children that are
left, each of them without its own loose comments.  Only the tokens that make a member
optional and the modifiers are looked for among all children, and no comment is one of
them.
-/

namespace ReasonBindings

open Syntax

namespace Tree

/-! ### Trees without comments -/

/-- A comment that fills no field of its parent. -/
def isLooseComment (tree : Tree) : Bool :=
  tree.kind == "comment" && tree.field.isNone

end Tree

mutual

/-- The tree without the loose comments inside of it. -/
def Tree.uncommented : Tree → Tree
  | .node kind named field start stop row children =>
    .node kind named field start stop row (uncommentedTrees children)

/-- The trees of a list that are no loose comments, without the loose comments inside of them. -/
def uncommentedTrees : List Tree → List Tree
  | [] => []
  | tree :: trees =>
    if tree.isLooseComment then uncommentedTrees trees
    else tree.uncommented :: uncommentedTrees trees

end

/-- The loose comments of a list are left out, and the other trees are taken without the loose
comments inside of them. -/
lemma uncommentedTrees_eq (trees : List Tree) :
    uncommentedTrees trees = (trees.filter (!·.isLooseComment)).map Tree.uncommented := by
  induction trees with
  | nil => rfl
  | cons tree trees ih =>
    rw [uncommentedTrees, List.filter_cons, ih]
    cases tree.isLooseComment with
    | true => rfl
    | false => rfl

namespace Tree

/-! ### Attributes -/

@[simp] lemma kind_uncommented (tree : Tree) : tree.uncommented.kind = tree.kind := by
  cases tree
  rfl

@[simp] lemma named_uncommented (tree : Tree) : tree.uncommented.named = tree.named := by
  cases tree
  rfl

@[simp] lemma field_uncommented (tree : Tree) : tree.uncommented.field = tree.field := by
  cases tree
  rfl

@[simp] lemma row_uncommented (tree : Tree) : tree.uncommented.row = tree.row := by
  cases tree
  rfl

@[simp] lemma children_uncommented (tree : Tree) :
    tree.uncommented.children = uncommentedTrees tree.children := by
  cases tree
  rfl

@[simp] lemma isPart_uncommented (tree : Tree) : tree.uncommented.isPart = tree.isPart := by
  simp only [isPart, named_uncommented, kind_uncommented]

@[simp] lemma lineNumber_uncommented (tree : Tree) :
    tree.uncommented.lineNumber = tree.lineNumber := by
  rw [lineNumber, lineNumber, row_uncommented]

@[simp] lemma line_uncommented (tree : Tree) : tree.uncommented.line = tree.line := by
  rw [line, line, lineNumber_uncommented]

@[simp] lemma text_uncommented (source : ByteArray) (tree : Tree) :
    tree.uncommented.text source = tree.text source := by
  cases tree
  rfl

@[simp] lemma dottedParts_uncommented (source : ByteArray) (tree : Tree) :
    tree.uncommented.dottedParts source = tree.dottedParts source := by
  rw [dottedParts, dottedParts, text_uncommented]

/-! ### Children -/

/-- No part is a loose comment. -/
lemma isLooseComment_of_isPart {tree : Tree} (h : tree.isPart = true) :
    tree.isLooseComment = false := by
  rw [isPart, Bool.and_eq_true, bne_iff_ne] at h
  rw [isLooseComment, beq_false_of_ne h.2, Bool.false_and]

/-- No loose comment fills a field. -/
lemma isLooseComment_of_field {tree : Tree} {field : String} (h : tree.field = some field) :
    tree.isLooseComment = false := by
  rw [isLooseComment, h, Option.isNone_some, Bool.and_false]

/-- What is looked for among the children and is found in no loose comment is looked for among those
that are left. -/
lemma filter_uncommentedTrees {test : Tree → Bool}
    (htest : ∀ tree, test tree = true → tree.isLooseComment = false)
    (hsame : ∀ tree, test tree.uncommented = test tree) (trees : List Tree) :
    (uncommentedTrees trees).filter test = (trees.filter test).map uncommented := by
  have htests : ∀ tree ∈ trees, ((test ∘ uncommented) tree && !tree.isLooseComment) = test tree := by
    intro tree _
    rw [Function.comp_apply, hsame]
    cases hfound : test tree with
    | true => rw [htest tree hfound]; rfl
    | false => rfl
  rw [uncommentedTrees_eq, List.filter_map, List.filter_filter, List.filter_congr htests]

/-- The parts are the parts without loose comments. -/
@[simp] lemma parts_uncommented (tree : Tree) :
    tree.uncommented.parts = tree.parts.map uncommented := by
  rw [parts, children_uncommented]
  exact filter_uncommentedTrees (fun _ => isLooseComment_of_isPart) isPart_uncommented _

/-- The child in a field is that child without loose comments. -/
@[simp] lemma child?_uncommented (tree : Tree) (field : String) :
    tree.uncommented.child? field = (tree.child? field).map uncommented := by
  have hfilter : (uncommentedTrees tree.children).filter (·.field == some field) =
      (tree.children.filter (·.field == some field)).map uncommented :=
    filter_uncommentedTrees (fun _ h => isLooseComment_of_field (beq_iff_eq.mp h))
      (fun _ => by rw [field_uncommented]) _
  rw [child?, child?, children_uncommented, ← List.head?_filter, hfilter, List.head?_map,
    List.head?_filter]

/-- A token is there or not, whatever comments are left out. -/
lemma hasChild_uncommented (tree : Tree) {kind : String} (h : kind ≠ "comment") :
    tree.uncommented.hasChild kind = tree.hasChild kind := by
  have htoken : ∀ child : Tree, (!child.isLooseComment && child.uncommented.kind == kind) =
      (child.kind == kind) := by
    intro child
    rw [kind_uncommented, isLooseComment]
    by_cases hkind : child.kind = kind
    · rw [hkind, beq_false_of_ne h, Bool.false_and, Bool.not_false, Bool.true_and]
    · rw [beq_false_of_ne hkind, Bool.and_false]
  rw [hasChild, hasChild, children_uncommented, uncommentedTrees_eq, List.any_map, List.any_filter]
  exact congrArg tree.children.any (funext htoken)

/-- No comment is a modifier. -/
@[simp] lemma modifiers_uncommented (source : ByteArray) (tree : Tree) :
    tree.uncommented.modifiers source = tree.modifiers source := by
  have hcomment : ∀ child : Tree, child.isLooseComment = true →
      modifier? source child = none := by
    intro child hloose
    rw [isLooseComment, Bool.and_eq_true, beq_iff_eq] at hloose
    rw [modifier?, hloose.1]
    rfl
  have hsame : ∀ child : Tree, modifier? source child.uncommented = modifier? source child := by
    intro child
    rw [modifier?, modifier?, kind_uncommented, text_uncommented]
  rw [modifiers, modifiers, children_uncommented]
  induction tree.children with
  | nil => rfl
  | cons child children ih =>
    rw [uncommentedTrees, List.filterMap_cons]
    cases hloose : child.isLooseComment with
    | true =>
      rw [hcomment child hloose]
      exact ih
    | false => 
      rw [if_neg Bool.false_ne_true, List.filterMap_cons, hsame, ih]

/-! ### Names -/

/-- The child in a field, or the node itself, is found without its loose comments. -/
@[simp] lemma childOrSelf_uncommented (tree : Tree) (field : String) :
    tree.uncommented.childOrSelf field = (tree.childOrSelf field).uncommented := by
  rw [childOrSelf, childOrSelf, child?_uncommented]
  cases tree.child? field <;> rfl

@[simp] lemma identifier_uncommented (source : ByteArray) (tree : Tree) :
    tree.uncommented.identifier source = tree.identifier source := by
  rw [identifier, identifier, line_uncommented, text_uncommented]

@[simp] lemma optionalIdentifier_uncommented (source : ByteArray) (tree? : Option Tree) :
    optionalIdentifier source (tree?.map uncommented) = optionalIdentifier source tree? := by
  cases tree? with
  | none => rfl
  | some tree => exact identifier_uncommented source tree

@[simp] lemma typeName_uncommented (source : ByteArray) (tree : Tree) :
    tree.uncommented.typeName source = tree.typeName source := by
  rw [typeName, typeName, dottedParts_uncommented, line_uncommented]

@[simp] lemma expressionName_uncommented (source : ByteArray) (tree : Tree) :
    tree.uncommented.expressionName source = tree.expressionName source := by
  rw [expressionName, expressionName, dottedParts_uncommented, line_uncommented]

@[simp] lemma keyExpression_uncommented (source : ByteArray) (tree : Tree) :
    tree.uncommented.keyExpression source = tree.keyExpression source := by
  rw [keyExpression, keyExpression, parts_uncommented]
  cases tree.parts with
  | nil => rfl
  | cons inner others =>
    simp only [List.map_cons, kind_uncommented, line_uncommented, text_uncommented,
      expressionName_uncommented]

@[simp] lemma memberName_uncommented (source : ByteArray) (tree : Tree) :
    tree.uncommented.memberName source = tree.memberName source := by
  simp only [memberName, kind_uncommented, line_uncommented, text_uncommented,
    keyExpression_uncommented, identifier_uncommented]

@[simp] lemma optionalMemberName_uncommented (source : ByteArray) (tree? : Option Tree) :
    optionalMemberName source (tree?.map uncommented) = optionalMemberName source tree? := by
  cases tree? with
  | none => rfl
  | some tree => exact memberName_uncommented source tree

@[simp] lemma typeParameters_uncommented (source : ByteArray) (tree : Tree) :
    tree.uncommented.typeParameters source = tree.typeParameters source := by
  simp only [typeParameters, parts_uncommented, List.filter_map, List.map_map,
    Function.comp_def, kind_uncommented, line_uncommented, child?_uncommented,
    optionalIdentifier_uncommented]

@[simp] lemma declaredTypeParameters_uncommented (source : ByteArray) (tree : Tree) :
    tree.uncommented.declaredTypeParameters source = tree.declaredTypeParameters source := by
  rw [declaredTypeParameters, declaredTypeParameters, child?_uncommented]
  cases tree.child? "type_parameters" with
  | none => rfl
  | some list => exact typeParameters_uncommented source list

@[simp] lemma enumMembers_uncommented (source : ByteArray) (tree : Tree) :
    tree.uncommented.enumMembers source = tree.enumMembers source := by
  simp only [enumMembers, parts_uncommented, List.map_map, Function.comp_def,
    childOrSelf_uncommented, text_uncommented]

end Tree

/-! ### Readings of children -/

namespace Reading

/-- A child without the loose comments inside of it, and with the same reading. -/
def Child.uncommented (child : Child) : Child :=
  ⟨child.tree.uncommented, child.reading⟩

/-- The second list of children is the first one without loose comments, as far as parts and fields
are concerned. -/
structure SameView (children children' : List Child) : Prop where
  parts : parts children' = (parts children).map Child.uncommented
  child? : ∀ field, child? children' field = (child? children field).map Child.uncommented

/-- A node without loose comments has the same parts and the same fields, when its children without
loose comments have the same readings. -/
lemma sameView_uncommented {source : ByteArray} {tree : Tree}
    (h : ∀ child ∈ tree.children, child.uncommented.reading source = child.reading source) :
    SameView (childReadings source tree.children)
      (childReadings source tree.uncommented.children) := by
  have hchild : ∀ child ∈ tree.children,
      childOf source child.uncommented = (childOf source child).uncommented := by
    intro child hmem
    rw [childOf, h child hmem]
    rfl
  refine ⟨?_, fun field => ?_⟩
  · rw [parts_childReadings, parts_childReadings, Tree.parts_uncommented, List.map_map,
      List.map_map]
    exact List.map_congr_left fun part hmem => hchild part (Tree.mem_children_of_mem_parts hmem)
  · rw [child?_childReadings, child?_childReadings, Tree.child?_uncommented]
    cases hfield : tree.child? field with
    | none => rfl
    | some child =>
      exact congrArg some (hchild child (Tree.mem_children_of_child? hfield))

namespace SameView

variable {source : ByteArray} {tree : Tree} {children children' : List Child}
  (h : SameView children children')

include h

/-- A field contributes the same. -/
lemma fieldOr_eq {α : Type} (field : String) (empty : α) (view : Reading → Traced α) :
    fieldOr children' field empty view = fieldOr children field empty view := by
  rw [fieldOr, fieldOr, h.child?]
  cases Reading.child? children field <;> rfl

/-- What does not depend on the comments inside of the parts is the same. -/
lemma map_parts {α : Type} {f : Child → α} (hf : ∀ child : Child, f child.uncommented = f child) :
    (Reading.parts children').map f = (Reading.parts children).map f := by
  rw [h.parts, List.map_map]
  exact List.map_congr_left fun child _ => hf child

/-- The parts of a kind are the same. -/
lemma map_partsOfKind {α : Type} {f : Child → α} (kind : String)
    (hf : ∀ child : Child, f child.uncommented = f child) :
    ((Reading.parts children').filter (·.tree.kind == kind)).map f =
      ((Reading.parts children).filter (·.tree.kind == kind)).map f := by
  have hkind : ((·.tree.kind == kind) ∘ Child.uncommented) = (·.tree.kind == kind) := by
    funext child
    rw [Function.comp_apply, Child.uncommented, Tree.kind_uncommented]
  rw [h.parts, List.filter_map, hkind, List.map_map]
  exact List.map_congr_left fun child _ => hf child

lemma gather_eq (view : Reading → Traced (List Node)) :
    gather children' view = gather children view := by
  rw [gather, gather, h.map_parts fun _ => rfl]

lemma gatherSome_eq (view : Reading → Traced (Option Node)) :
    gatherSome children' view = gatherSome children view := by
  rw [gatherSome, gatherSome, h.map_parts fun _ => rfl]

lemma gatherEach_eq (view : Reading → Traced Node) :
    gatherEach children' view = gatherEach children view := by
  rw [gatherEach, gatherEach, h.map_parts fun _ => rfl]

lemma unionArms_eq : unionArms children' = unionArms children := by
  have harms : ∀ child : Child, armsOf child.uncommented = armsOf child := by
    intro child
    rw [armsOf, armsOf, Child.uncommented, Tree.kind_uncommented]
  rw [unionArms, unionArms, h.map_parts harms]

lemma firstType_eq : firstType children' = firstType children := by
  rw [firstType, firstType, h.parts]
  cases Reading.parts children <;> rfl

/-! ### Types and parameters -/

omit h in
lemma literalType_uncommented (source : ByteArray) (tree : Tree) :
    literalType source tree.uncommented = literalType source tree := by
  rw [literalType, literalType, Tree.parts_uncommented]
  cases tree.parts with
  | nil => rw [List.map_nil, Tree.line_uncommented, Tree.text_uncommented]
  | cons inner others =>
    simp only [List.map_cons, Tree.kind_uncommented, Tree.line_uncommented, Tree.text_uncommented]

lemma typeOf_eq : typeOf source tree.uncommented children' = typeOf source tree children := by
  simp only [typeOf, Tree.kind_uncommented, Tree.line_uncommented, Tree.text_uncommented,
    Tree.typeName_uncommented, Tree.childOrSelf_uncommented,
    Tree.declaredTypeParameters_uncommented, parametersIn, typeIn, h.fieldOr_eq, h.firstType_eq,
    h.unionArms_eq, h.gatherEach_eq, h.gatherSome_eq, literalType_uncommented]

lemma annotationOf_eq :
    annotationOf source tree.uncommented children' = annotationOf source tree children := by
  rw [annotationOf, annotationOf, Tree.kind_uncommented, h.typeOf_eq, h.parts]
  cases Reading.parts children <;> rfl

omit h in
lemma parameterTarget_uncommented (pattern : Option Tree) :
    parameterTarget (pattern.map Tree.uncommented) =
      (Option.map Tree.uncommented) <$> parameterTarget pattern := by
  cases pattern with
  | none => rfl
  | some tree =>
    rw [Option.map_some, parameterTarget, parameterTarget, Tree.kind_uncommented,
      Tree.parts_uncommented]
    split
    · cases tree.parts <;> rfl
    · rfl

omit h in
lemma parameterName_uncommented (source : ByteArray) (target : Option Tree) :
    parameterName source (target.map Tree.uncommented) = parameterName source target := by
  cases target with
  | none => rfl
  | some tree =>
    rw [Option.map_some, parameterName, parameterName, Tree.kind_uncommented,
      Tree.identifier_uncommented]

lemma parameterOf_eq :
    parameterOf source tree.uncommented children' = parameterOf source tree children := by
  have hrest : ((tree.child? "pattern").map Tree.uncommented).any (·.kind == "rest_pattern") =
      (tree.child? "pattern").any (·.kind == "rest_pattern") := by
    rw [Option.any_map]
    simp only [Tree.kind_uncommented]
  simp only [parameterOf, annotationIn, h.fieldOr_eq, Tree.kind_uncommented,
    Tree.line_uncommented, Tree.child?_uncommented, parameterTarget_uncommented, hrest,
    ← Traced.bind_pure_comp, Traced.bind_assoc, Traced.pure_bind, parameterName_uncommented]

/-! ### Members -/

lemma fieldOf_eq (kind : FieldKind) :
    fieldOf source tree.uncommented children' kind = fieldOf source tree children kind := by
  simp only [fieldOf, annotationIn, h.fieldOr_eq, Tree.line_uncommented, Tree.child?_uncommented,
    Tree.optionalMemberName_uncommented, Tree.modifiers_uncommented,
    tree.hasChild_uncommented (by decide : "?" ≠ "comment")]

lemma methodOf_eq (inClass : Bool) :
    methodOf source tree.uncommented children' inClass =
      methodOf source tree children inClass := by
  have hname : ((tree.child? "name").map Tree.uncommented).any (·.text source == "constructor") =
      (tree.child? "name").any (·.text source == "constructor") := by
    rw [Option.any_map]
    simp only [Tree.text_uncommented]
  simp only [methodOf, parametersIn, annotationIn, h.fieldOr_eq, Tree.kind_uncommented,
    Tree.line_uncommented, Tree.child?_uncommented, hname, Tree.optionalMemberName_uncommented,
    Tree.modifiers_uncommented, Tree.declaredTypeParameters_uncommented,
    tree.hasChild_uncommented (by decide : "?" ≠ "comment")]

lemma callOf_eq (kind : SignatureKind) (resultField : String) :
    callOf source tree.uncommented children' kind resultField =
      callOf source tree children kind resultField := by
  simp only [callOf, parametersIn, annotationIn, h.fieldOr_eq, Tree.line_uncommented,
    Tree.declaredTypeParameters_uncommented]

lemma indexOf_eq :
    indexOf source tree.uncommented children' = indexOf source tree children := by
  rw [indexOf, indexOf, Tree.child?_uncommented]
  cases tree.child? "name" with
  | none =>
    simp only [Option.map_none, annotationIn, h.fieldOr_eq, Tree.line_uncommented,
      Tree.modifiers_uncommented]
  | some key =>
    simp only [Option.map_some, annotationIn, typeIn, h.fieldOr_eq, Tree.line_uncommented,
      Tree.modifiers_uncommented, Tree.identifier_uncommented]

lemma memberOf_eq (inClass : Bool) :
    memberOf source tree.uncommented children' inClass =
      memberOf source tree children inClass := by
  simp only [memberOf, Tree.kind_uncommented, Tree.lineNumber_uncommented, h.fieldOf_eq,
    h.methodOf_eq, h.callOf_eq, h.indexOf_eq]

/-! ### Heritage -/

lemma heritageTypeOf_eq :
    heritageTypeOf source tree.uncommented children' = heritageTypeOf source tree children := by
  have hname : (if (tree.kind == "generic_type") = true then (tree.childOrSelf "name").uncommented
      else tree.uncommented) = (if (tree.kind == "generic_type") = true
        then tree.childOrSelf "name" else tree).uncommented := by
    split <;> rfl
  simp only [heritageTypeOf, h.fieldOr_eq, Tree.kind_uncommented, Tree.line_uncommented,
    Tree.childOrSelf_uncommented, hname, Tree.expressionName_uncommented]

omit h in
lemma extendedTypesFrom_uncommented (last : Option Node) (parts : List Child) :
    extendedTypesFrom source last (parts.map Child.uncommented) =
      extendedTypesFrom source last parts := by
  induction parts generalizing last with
  | nil => rfl
  | cons child others ih =>
    have hentry : extendedType source child.tree.uncommented = extendedType source child.tree := by
      simp only [extendedType, Tree.kind_uncommented, Tree.line_uncommented,
        Tree.expressionName_uncommented]
    simp only [List.map_cons, extendedTypesFrom, Child.uncommented, Tree.kind_uncommented, hentry]
    simp only [ih]

lemma classHeritageOf_eq : classHeritageOf children' = classHeritageOf children := by
  have hclause : ∀ child : Child, classClause child.uncommented = classClause child := by
    intro child
    simp only [classClause, Child.uncommented, Tree.kind_uncommented, Tree.line_uncommented]
  rw [classHeritageOf, classHeritageOf, h.map_parts hclause]

/-! ### Statements -/

lemma interfaceOf_eq :
    interfaceOf source tree.uncommented children' = interfaceOf source tree children := by
  have hclauses := h.map_partsOfKind
    (f := fun child : Child => (do
      return .heritageClause child.tree.line "extends" (← child.reading.heritageTypes) :
        Traced Node)) "extends_type_clause" fun child => by
      simp only [Child.uncommented, Tree.line_uncommented]
  simp only [interfaceOf, hclauses, h.fieldOr_eq, Tree.line_uncommented, Tree.child?_uncommented,
    Tree.optionalIdentifier_uncommented, Tree.declaredTypeParameters_uncommented]

lemma classOf_eq : classOf source tree.uncommented children' = classOf source tree children := by
  have hclauses := h.map_partsOfKind (f := fun child => child.reading.classHeritage)
    "class_heritage" fun _ => rfl
  simp only [classOf, hclauses, h.fieldOr_eq, Tree.kind_uncommented, Tree.line_uncommented,
    Tree.child?_uncommented, Tree.optionalIdentifier_uncommented,
    Tree.declaredTypeParameters_uncommented]

lemma variableOf_eq :
    variableOf source tree.uncommented children' = variableOf source tree children := by
  have hname : ((tree.child? "name").map Tree.uncommented).filter (·.kind == "identifier") =
      ((tree.child? "name").filter (·.kind == "identifier")).map Tree.uncommented := by
    cases tree.child? "name" with
    | none => rfl
    | some name =>
      rw [Option.map_some, Option.filter_some, Option.filter_some, Tree.kind_uncommented]
      split <;> rfl
  simp only [variableOf, annotationIn, h.fieldOr_eq, Tree.kind_uncommented, Tree.line_uncommented,
    Tree.child?_uncommented, hname, Tree.optionalIdentifier_uncommented]

lemma functionOf_eq :
    functionOf source tree.uncommented children' = functionOf source tree children := by
  simp only [functionOf, parametersIn, annotationIn, h.fieldOr_eq, Tree.line_uncommented,
    Tree.child?_uncommented, Tree.optionalIdentifier_uncommented,
    Tree.declaredTypeParameters_uncommented]

omit h in
lemma namespaceNames_uncommented (source : ByteArray) (tree : Tree) :
    namespaceNames source tree.uncommented = namespaceNames source tree := by
  rw [namespaceNames, namespaceNames, Tree.child?_uncommented]
  cases tree.child? "name" with
  | none => rfl
  | some name =>
    simp only [Option.map_some, Tree.kind_uncommented, Tree.line_uncommented,
      Tree.text_uncommented, Tree.dottedParts_uncommented]

lemma namespaceOf_eq :
    namespaceOf source tree.uncommented children' = namespaceOf source tree children := by
  rw [namespaceOf, namespaceOf, h.child?]
  cases Reading.child? children "body" with
  | none =>
    simp only [Option.map_none, Tree.line_uncommented, namespaceNames_uncommented]
  | some child =>
    simp only [Option.map_some, Child.uncommented, Tree.line_uncommented,
      namespaceNames_uncommented]

omit h in
lemma enumOf_uncommented (source : ByteArray) (tree : Tree) :
    enumOf source tree.uncommented = enumOf source tree := by
  rw [enumOf, enumOf, Tree.child?_uncommented, Tree.child?_uncommented, Tree.line_uncommented,
    Tree.optionalIdentifier_uncommented]
  cases tree.child? "body" with
  | none => rfl
  | some body => simp only [Option.map_some, Tree.enumMembers_uncommented]

lemma statementOf_eq :
    statementOf source tree.uncommented children' = statementOf source tree children := by
  simp only [statementOf, Tree.kind_uncommented, Tree.line_uncommented,
    Tree.lineNumber_uncommented, Tree.child?_uncommented, Tree.optionalIdentifier_uncommented,
    Tree.declaredTypeParameters_uncommented, typeIn, h.fieldOr_eq, h.gather_eq, h.gatherSome_eq,
    h.namespaceOf_eq, h.interfaceOf_eq, h.classOf_eq, h.functionOf_eq, enumOf_uncommented]

/-- A node without loose comments contributes the same in each position. -/
lemma ofChildren_eq :
    ofChildren source tree.uncommented children' = ofChildren source tree children := by
  have hextended : extendedTypesFrom source none (Reading.parts children') =
      extendedTypesFrom source none (Reading.parts children) := by
    rw [h.parts, extendedTypesFrom_uncommented]
  simp only [ofChildren, h.typeOf_eq, h.annotationOf_eq, h.gatherEach_eq, h.unionArms_eq,
    h.statementOf_eq, h.gather_eq, h.memberOf_eq, h.gatherSome_eq, h.parameterOf_eq,
    h.heritageTypeOf_eq, hextended, h.classHeritageOf_eq, h.variableOf_eq]

end SameView

end Reading

/-! ### Trees -/

/-- **Readings.**  A tree without loose comments, at any depth, has the reading of the tree. -/
theorem Tree.reading_uncommented (source : ByteArray) (tree : Tree) :
    tree.uncommented.reading source = tree.reading source := by
  induction tree using Tree.induction with
  | node tree ih =>
    rw [Tree.reading_eq, Tree.reading_eq]
    exact (Reading.sameView_uncommented ih).ofChildren_eq

/-- **Comments are invisible.**  When the comments that fill no field are left out of a parse tree,
at any depth, the tree has the same statements, it is the same type, the same member of an interface
and of a class, and the same list of parameters: the syntax nodes with their lines and texts are the
same, and so are the notices and the faults. -/
theorem Tree.conversion_uncommented (source : ByteArray) (tree : Tree) :
    tree.uncommented.statements source = tree.statements source ∧
    (tree.uncommented.reading source).type = (tree.reading source).type ∧
    (tree.uncommented.reading source).member = (tree.reading source).member ∧
    (tree.uncommented.reading source).classMember = (tree.reading source).classMember ∧
    (tree.uncommented.reading source).parameters = (tree.reading source).parameters := by
  rw [Tree.statements, Tree.statements, Tree.reading_uncommented]
  exact ⟨rfl, rfl, rfl, rfl, rfl⟩

end ReasonBindings
