import ReasonBindings.Proofs.Model.Lines
import ReasonBindings.Proofs.ParseTree.Reading
import ReasonBindings.Proofs.Traced.Related

/-!
# Copies of parse trees

A construct can be written again, elsewhere in the source or in another source.  Its parse tree
is then a *copy* of the first one: the nodes have other places, but the same kinds, fields and
texts.  A copy is read as the tree is, in each position that a node can stand in: the syntax
nodes are the same but for their lines, and the faults are the same.

A node is read through its text, its kind and the readings of its children.  So what is said
of a node and its copy follows from the same of their children, which are copies one by one.
-/

namespace ReasonBindings

open Syntax

/-! ### Nodes that differ in lines -/

namespace Syntax

/-- The nodes are the same without their lines. -/
abbrev Node.SameButLines (node node' : Node) : Prop :=
  node.unlined = node'.unlined

/-- Lists of nodes that are the same but for lines are the same without lines. -/
lemma unlinedNodes_congr {nodes nodes' : List Node}
    (h : List.Forall₂ Node.SameButLines nodes nodes') :
    unlinedNodes nodes = unlinedNodes nodes' := by
  induction h with
  | nil => rfl
  | cons hfirst _ ih => rw [unlinedNodes, unlinedNodes, hfirst, ih]

namespace Node.SameButLines

/-- A node is the same as itself. -/
lemma refl (node : Node) : node.SameButLines node := rfl

/-- A dotted type name of the same identifiers is the same, in whichever line it stands. -/
lemma dottedTypeName (line line' : Line) (first : String) (others : List String) :
    (Node.dottedTypeName line first others).SameButLines
      (Node.dottedTypeName line' first others) := by
  have hothers : List.Forall₂ (· = ·) others others := List.forall₂_same.mpr fun _ _ => rfl
  rw [Node.dottedTypeName, Node.dottedTypeName]
  refine List.rel_foldl ?_ ?_ hothers
  · rintro left left' hleft part _ rfl
    exact congrArg (qualifiedName none · (identifier none part)) hleft
  · rfl

/-- A dotted expression of the same identifiers is the same, in whichever line it stands. -/
lemma dottedExpression (line line' : Line) (first : String) (others : List String) :
    (Node.dottedExpression line first others).SameButLines
      (Node.dottedExpression line' first others) := by
  have hothers : List.Forall₂ (· = ·) others others := List.forall₂_same.mpr fun _ _ => rfl
  rw [Node.dottedExpression, Node.dottedExpression]
  refine List.rel_foldl ?_ ?_ hothers
  · rintro left left' hleft part _ rfl
    exact congrArg (propertyAccess none · (identifier none part)) hleft
  · rfl

end Node.SameButLines

end Syntax

namespace Tree

/-! ### Copies -/

/-- The second tree is a copy of the first one: the nodes have the same kinds and fields, and the
same texts in the one source and the other. -/
inductive IsCopy (source source' : ByteArray) : Tree → Tree → Prop
  | node {kind : String} {named : Bool} {field : Option String}
    {start stop row start' stop' row' : Nat} {children children' : List Tree} :
    (Tree.node kind named field start stop row children).text source =
      (Tree.node kind named field start' stop' row' children').text source' →
    List.Forall₂ (IsCopy source source') children children' →
    IsCopy source source' (.node kind named field start stop row children)
      (.node kind named field start' stop' row' children')

namespace IsCopy

variable {source source' : ByteArray} {tree tree' : Tree}

lemma kind (h : tree.IsCopy source source' tree') : tree'.kind = tree.kind := by
  cases h
  rfl

lemma named (h : tree.IsCopy source source' tree') : tree'.named = tree.named := by
  cases h
  rfl

lemma field (h : tree.IsCopy source source' tree') : tree'.field = tree.field := by
  cases h
  rfl

lemma text (h : tree.IsCopy source source' tree') : tree'.text source' = tree.text source := by
  cases h with
  | node htext => exact htext.symm

lemma children (h : tree.IsCopy source source' tree') :
    List.Forall₂ (IsCopy source source') tree.children tree'.children := by
  cases h with
  | node _ hchildren => exact hchildren

lemma isPart (h : tree.IsCopy source source' tree') : tree'.isPart = tree.isPart := by
  rw [Tree.isPart, Tree.isPart, h.named, h.kind]

/-- The parts are copies of the parts. -/
lemma parts (h : tree.IsCopy source source' tree') :
    List.Forall₂ (IsCopy source source') tree.parts tree'.parts :=
  forall₂_filter h.children fun _ _ hcopy => hcopy.isPart

/-- A field is filled by copies or in none of the two trees. -/
lemma child? (h : tree.IsCopy source source' tree') (field : String) :
    Option.Rel (IsCopy source source') (tree.child? field) (tree'.child? field) :=
  optionRel_find? h.children fun _ _ hcopy => by rw [hcopy.field]

/-- The child in a field, or the node itself, is a copy. -/
lemma childOrSelf (h : tree.IsCopy source source' tree') (field : String) :
    (tree.childOrSelf field).IsCopy source source' (tree'.childOrSelf field) := by
  have hchild := h.child? field
  rw [Tree.childOrSelf, Tree.childOrSelf]
  generalize tree.child? field = child? at hchild
  generalize tree'.child? field = child'? at hchild
  cases hchild with
  | none => exact h
  | some hcopy => exact hcopy

lemma hasChild (h : tree.IsCopy source source' tree') (kind : String) :
    tree'.hasChild kind = tree.hasChild kind := by
  have hchildren := h.children
  rw [Tree.hasChild, Tree.hasChild]
  generalize tree.children = children at hchildren
  generalize tree'.children = children' at hchildren
  induction hchildren with
  | nil => rfl
  | cons hfirst _ ih => rw [List.any_cons, List.any_cons, hfirst.kind, ih]

lemma dottedParts (h : tree.IsCopy source source' tree') :
    tree'.dottedParts source' = tree.dottedParts source := by
  rw [Tree.dottedParts, Tree.dottedParts, h.text]

lemma modifiers (h : tree.IsCopy source source' tree') :
    tree'.modifiers source' = tree.modifiers source := by
  have hchildren := h.children
  rw [Tree.modifiers, Tree.modifiers]
  generalize tree.children = children at hchildren
  generalize tree'.children = children' at hchildren
  induction hchildren with
  | nil => rfl
  | @cons child child' _ _ hfirst _ ih =>
    have hmodifier : modifier? source' child' = modifier? source child := by
      rw [modifier?, modifier?, hfirst.kind, hfirst.text]
    rw [List.filterMap_cons, List.filterMap_cons, hmodifier, ih]

/-! ### Names -/

lemma identifier (h : tree.IsCopy source source' tree') :
    (tree.identifier source).SameButLines (tree'.identifier source') :=
  congrArg (Node.identifier none) h.text.symm

lemma optionalIdentifier {tree? tree'? : Option Tree}
    (h : Option.Rel (IsCopy source source') tree? tree'?) :
    (Tree.optionalIdentifier source tree?).SameButLines
      (Tree.optionalIdentifier source' tree'?) := by
  cases h with
  | none => exact .refl _
  | some hcopy => exact hcopy.identifier

lemma typeName (h : tree.IsCopy source source' tree') :
    (tree.typeName source).SameButLines (tree'.typeName source') := by
  rw [Tree.typeName, Tree.typeName, h.dottedParts]
  cases tree.dottedParts source with
  | nil => rfl
  | cons first others => exact .dottedTypeName _ _ first others

lemma expressionName (h : tree.IsCopy source source' tree') :
    (tree.expressionName source).SameButLines (tree'.expressionName source') := by
  rw [Tree.expressionName, Tree.expressionName, h.dottedParts]
  cases tree.dottedParts source with
  | nil => rfl
  | cons first others => exact .dottedExpression _ _ first others

lemma keyExpression (h : tree.IsCopy source source' tree') :
    (tree.keyExpression source).SameButLines (tree'.keyExpression source') := by
  have hparts := h.parts
  rw [Tree.keyExpression, Tree.keyExpression]
  generalize tree.parts = parts at hparts
  generalize tree'.parts = parts' at hparts
  cases hparts with
  | nil => rfl
  | cons hinner _ =>
    simp only [hinner.kind, hinner.text]
    split
    · rfl
    · split
      · exact hinner.expressionName
      · rfl

lemma memberName (h : tree.IsCopy source source' tree') :
    (tree.memberName source).SameButLines (tree'.memberName source') := by
  unfold Tree.memberName
  rw [h.kind, h.text]
  generalize tree.kind = kind
  split
  · rfl
  · rfl
  · exact congrArg (Node.computedName none) h.keyExpression
  · exact h.identifier

lemma optionalMemberName {tree? tree'? : Option Tree}
    (h : Option.Rel (IsCopy source source') tree? tree'?) :
    (Tree.optionalMemberName source tree?).SameButLines
      (Tree.optionalMemberName source' tree'?) := by
  cases h with
  | none => exact .refl _
  | some hcopy => exact hcopy.memberName

lemma typeParameters (h : tree.IsCopy source source' tree') :
    List.Forall₂ Node.SameButLines (tree.typeParameters source) (tree'.typeParameters source') := by
  refine List.rel_map (fun _ _ hcopy => ?_)
    (forall₂_filter h.parts fun _ _ hcopy => by rw [hcopy.kind])
  exact congrArg (Node.typeParameter none) (optionalIdentifier (hcopy.child? "name"))

lemma declaredTypeParameters (h : tree.IsCopy source source' tree') :
    List.Forall₂ Node.SameButLines (tree.declaredTypeParameters source)
      (tree'.declaredTypeParameters source') := by
  have hlist := h.child? "type_parameters"
  rw [Tree.declaredTypeParameters, Tree.declaredTypeParameters]
  generalize tree.child? "type_parameters" = list? at hlist
  generalize tree'.child? "type_parameters" = list'? at hlist
  cases hlist with
  | none => exact .nil
  | some hcopy => exact hcopy.typeParameters

lemma enumMembers (h : tree.IsCopy source source' tree') :
    List.Forall₂ Node.SameButLines (tree.enumMembers source) (tree'.enumMembers source') := by
  refine List.rel_map (fun _ _ hcopy => ?_) h.parts
  exact congrArg Node.word (hcopy.childOrSelf "name").text.symm

end IsCopy

end Tree

/-! ### Readings of children -/

namespace Reading

/-- Lists of nodes that are the same but for lines. -/
abbrev SameLists : List Node → List Node → Prop :=
  List.Forall₂ Node.SameButLines

/-- Nodes that are the same but for lines, or none. -/
abbrev SameOptions : Option Node → Option Node → Prop :=
  Option.Rel Node.SameButLines

/-- In each position that a node can stand in, the readings contribute nodes that are the same but
for lines, or end in the same fault. -/
structure SameButLines (first second : Reading) : Prop where
  type : first.type.EndsUpTo Node.SameButLines second.type
  annotation : first.annotation.EndsUpTo Node.SameButLines second.annotation
  types : first.types.EndsUpTo SameLists second.types
  arms : first.arms.EndsUpTo SameLists second.arms
  statement : first.statement.EndsUpTo SameLists second.statement
  statements : first.statements.EndsUpTo SameLists second.statements
  member : first.member.EndsUpTo SameOptions second.member
  classMember : first.classMember.EndsUpTo SameOptions second.classMember
  members : first.members.EndsUpTo SameLists second.members
  classMembers : first.classMembers.EndsUpTo SameLists second.classMembers
  parameter : first.parameter.EndsUpTo SameOptions second.parameter
  parameters : first.parameters.EndsUpTo SameLists second.parameters
  heritageType : first.heritageType.EndsUpTo Node.SameButLines second.heritageType
  heritageTypes : first.heritageTypes.EndsUpTo SameLists second.heritageTypes
  extendedTypes : first.extendedTypes.EndsUpTo SameLists second.extendedTypes
  classHeritage : first.classHeritage.EndsUpTo SameLists second.classHeritage
  variableDecl : first.variableDecl.EndsUpTo SameOptions second.variableDecl

/-- The second child is a copy of the first one, and is read as it is. -/
structure Child.IsCopy (source source' : ByteArray) (child child' : Child) : Prop where
  tree : child.tree.IsCopy source source' child'.tree
  reading : child.reading.SameButLines child'.reading

/-- The children are copies one by one. -/
abbrev Copies (source source' : ByteArray) : List Child → List Child → Prop :=
  List.Forall₂ (Child.IsCopy source source')

namespace Copies

variable {source source' : ByteArray} {tree tree' : Tree} {children children' : List Child}

section Children

variable (h : Copies source source' children children')

include h

/-- The parts are copies of the parts. -/
lemma parts : Copies source source' (parts children) (Reading.parts children') :=
  forall₂_filter h fun _ _ hcopy => hcopy.tree.isPart

/-- A field is filled by copies or in none of the two lists. -/
lemma child? (field : String) :
    Option.Rel (Child.IsCopy source source') (child? children field)
      (Reading.child? children' field) :=
  optionRel_find? h fun _ _ hcopy => by rw [hcopy.tree.field]

/-- A field contributes the same. -/
lemma fieldOr {α : Type} {R : α → α → Prop} {empty : α} (hempty : R empty empty)
    {view : Reading → Traced α}
    (hview : ∀ first second : Reading, first.SameButLines second →
      (view first).EndsUpTo R (view second)) (field : String) :
    (fieldOr children field empty view).EndsUpTo R
      (Reading.fieldOr children' field empty view) := by
  have hchild := h.child? field
  rw [Reading.fieldOr, Reading.fieldOr]
  generalize Reading.child? children field = child? at hchild
  generalize Reading.child? children' field = child'? at hchild
  cases hchild with
  | none => exact Traced.endsUpTo_pure hempty
  | some hcopy => exact hview _ _ hcopy.reading

lemma typeIn (field : String) :
    (typeIn children field).EndsUpTo Node.SameButLines (Reading.typeIn children' field) :=
  h.fieldOr (.refl _) (fun _ _ hreading => hreading.type) field

lemma annotationIn (field : String) :
    (annotationIn children field).EndsUpTo Node.SameButLines
      (Reading.annotationIn children' field) :=
  h.fieldOr (.refl _) (fun _ _ hreading => hreading.annotation) field

lemma parametersIn :
    (parametersIn children).EndsUpTo SameLists (Reading.parametersIn children') :=
  h.fieldOr .nil (fun _ _ hreading => hreading.parameters) "parameters"

/-- The parts of a kind are copies of the parts of that kind. -/
lemma partsOfKind (kind : String) :
    Copies source source' ((Reading.parts children).filter (·.tree.kind == kind))
      ((Reading.parts children').filter (·.tree.kind == kind)) :=
  forall₂_filter h.parts fun _ _ hcopy => by rw [hcopy.tree.kind]

/-- The children contribute the same, one by one. -/
lemma all_map {α : Type} {R : α → α → Prop} {contribution : Child → Traced α}
    (hcontribution : ∀ child child', Child.IsCopy source source' child child' →
      (contribution child).EndsUpTo R (contribution child')) :
    (Traced.all (children.map contribution)).EndsUpTo (List.Forall₂ R)
      (Traced.all (children'.map contribution)) := by
  refine Traced.endsUpTo_all ?_
  rw [List.forall₂_map_left_iff, List.forall₂_map_right_iff]
  exact h.imp hcontribution

/-- The parts contribute the same lists. -/
lemma all_parts_flatten {contribution : Child → Traced (List Node)}
    (hcontribution : ∀ child child', Child.IsCopy source source' child child' →
      (contribution child).EndsUpTo SameLists (contribution child')) :
    (do return (← Traced.all ((Reading.parts children).map contribution)).flatten).EndsUpTo
      SameLists (do return (← Traced.all ((Reading.parts children').map contribution)).flatten) :=
  (h.parts.all_map hcontribution).bind fun _ _ hlists =>
    Traced.endsUpTo_pure (List.rel_flatten hlists)

lemma gather {view : Reading → Traced (List Node)}
    (hview : ∀ first second : Reading, first.SameButLines second →
      (view first).EndsUpTo SameLists (view second)) :
    (gather children view).EndsUpTo SameLists (Reading.gather children' view) :=
  h.all_parts_flatten fun _ _ hcopy => hview _ _ hcopy.reading

lemma gatherSome {view : Reading → Traced (Option Node)}
    (hview : ∀ first second : Reading, first.SameButLines second →
      (view first).EndsUpTo SameOptions (view second)) :
    (gatherSome children view).EndsUpTo SameLists (Reading.gatherSome children' view) :=
  (h.parts.all_map fun _ _ hcopy => hview _ _ hcopy.reading).bind fun _ _ hoptions =>
    Traced.endsUpTo_pure (List.rel_filterMap (fun _ _ hoption => hoption) hoptions)

lemma gatherEach {view : Reading → Traced Node}
    (hview : ∀ first second : Reading, first.SameButLines second →
      (view first).EndsUpTo Node.SameButLines (view second)) :
    (gatherEach children view).EndsUpTo SameLists (Reading.gatherEach children' view) :=
  h.parts.all_map fun _ _ hcopy => hview _ _ hcopy.reading

lemma firstType :
    (firstType children).EndsUpTo Node.SameButLines (Reading.firstType children') := by
  have hparts := h.parts
  rw [Reading.firstType, Reading.firstType]
  generalize Reading.parts children = parts at hparts
  generalize Reading.parts children' = parts' at hparts
  cases hparts with
  | nil => exact Traced.endsUpTo_fault _ _
  | cons hfirst _ => exact hfirst.reading.type

lemma unionArms :
    (unionArms children).EndsUpTo SameLists (Reading.unionArms children') := by
  refine h.all_parts_flatten fun child child' hcopy => ?_
  rw [armsOf, armsOf, hcopy.tree.kind]
  split
  · exact hcopy.reading.arms
  · exact hcopy.reading.type.bind fun _ _ htype => Traced.endsUpTo_pure (.cons htype .nil)

end Children

/-! ### Types and parameters -/

lemma literalType (htree : tree.IsCopy source source' tree') :
    (literalType source tree).SameButLines (Reading.literalType source' tree') := by
  have hparts := htree.parts
  rw [Reading.literalType, Reading.literalType, htree.text]
  generalize tree.parts = parts at hparts
  generalize tree'.parts = parts' at hparts
  cases hparts with
  | nil => rfl
  | cons hinner _ =>
    simp only [hinner.kind, hinner.text]
    split <;> rfl

variable (h : Copies source source' children children') (htree : tree.IsCopy source source' tree')

include h htree

lemma typeOf :
    (typeOf source tree children).EndsUpTo Node.SameButLines
      (Reading.typeOf source' tree' children') := by
  unfold Reading.typeOf
  rw [htree.kind, htree.text]
  generalize tree.kind = kind
  split
  · exact Traced.endsUpTo_pure rfl
  · exact Traced.endsUpTo_pure (congrArg (Node.typeReference none · []) htree.typeName)
  · exact Traced.endsUpTo_pure (congrArg (Node.typeReference none · []) htree.typeName)
  · refine (h.fieldOr .nil (fun _ _ hreading => hreading.types) _).bind fun _ _ harguments => ?_
    have hname := (htree.childOrSelf "name").typeName
    refine Traced.endsUpTo_pure ?_
    rw [Node.SameButLines, Node.unlined, Node.unlined, hname, unlinedNodes_congr harguments]
  · refine h.firstType.bind fun _ _ helement => Traced.endsUpTo_pure ?_
    exact congrArg (Node.arrayType none) helement
  · refine h.parametersIn.bind fun _ _ hparameters => ?_
    refine (h.typeIn "return_type").bind fun _ _ hresult => Traced.endsUpTo_pure ?_
    simp only [Node.SameButLines, Node.unlined, hresult, unlinedNodes_congr hparameters,
      unlinedNodes_congr htree.declaredTypeParameters]
  · refine h.unionArms.bind fun _ _ harms => Traced.endsUpTo_pure ?_
    exact congrArg (Node.unionType none) (unlinedNodes_congr harms)
  · refine (h.gatherEach fun _ _ hreading => hreading.type).bind fun _ _ helements => ?_
    exact Traced.endsUpTo_pure (congrArg (Node.tupleType none) (unlinedNodes_congr helements))
  · refine h.firstType.bind fun _ _ hinner => Traced.endsUpTo_pure ?_
    exact congrArg (Node.parenthesizedType none) hinner
  · exact h.firstType
  · exact Traced.endsUpTo_pure rfl
  · exact Traced.endsUpTo_pure (literalType htree)
  · refine (h.gatherSome fun _ _ hreading => hreading.member).bind fun _ _ hmembers => ?_
    exact Traced.endsUpTo_pure (congrArg (Node.objectType none) (unlinedNodes_congr hmembers))
  · exact Traced.endsUpTo_pure rfl

lemma annotationOf :
    (annotationOf source tree children).EndsUpTo Node.SameButLines
      (Reading.annotationOf source' tree' children') := by
  have hparts := h.parts
  rw [Reading.annotationOf, Reading.annotationOf, htree.kind]
  generalize Reading.parts children = parts at hparts
  generalize Reading.parts children' = parts' at hparts
  split
  · cases hparts with
    | nil => exact Traced.endsUpTo_pure rfl
    | cons hfirst _ => exact hfirst.reading.type
  · exact h.typeOf htree

omit h htree in
lemma parameterTarget {pattern? pattern'? : Option Tree}
    (hpattern : Option.Rel (Tree.IsCopy source source') pattern? pattern'?) :
    (parameterTarget pattern?).EndsUpTo (Option.Rel (Tree.IsCopy source source'))
      (Reading.parameterTarget pattern'?) := by
  cases hpattern with
  | none => exact Traced.endsUpTo_pure .none
  | @some pattern pattern' hcopy =>
    have hparts := hcopy.parts
    rw [Reading.parameterTarget, Reading.parameterTarget, hcopy.kind]
    generalize pattern.parts = parts at hparts
    generalize pattern'.parts = parts' at hparts
    split
    · cases hparts with
      | nil => exact Traced.endsUpTo_fault _ _
      | cons hfirst _ => exact Traced.endsUpTo_pure (.some hfirst)
    · exact Traced.endsUpTo_pure (.some hcopy)

omit h htree in
lemma parameterName {target? target'? : Option Tree}
    (htarget : Option.Rel (Tree.IsCopy source source') target? target'?) :
    (parameterName source target?).SameButLines (Reading.parameterName source' target'?) := by
  cases htarget with
  | none => rfl
  | some hcopy =>
    rw [Reading.parameterName, Reading.parameterName, hcopy.kind]
    split
    · exact hcopy.identifier
    · rfl

omit h htree in
/-- Trees in one field are of one kind. -/
lemma any_kind {tree? tree'? : Option Tree}
    (htree? : Option.Rel (Tree.IsCopy source source') tree? tree'?) (kind : String) :
    tree'?.any (·.kind == kind) = tree?.any (·.kind == kind) := by
  cases htree? with
  | none => rfl
  | some hcopy => rw [Option.any_some, Option.any_some, hcopy.kind]

lemma parameterOf :
    (parameterOf source tree children).EndsUpTo SameOptions
      (Reading.parameterOf source' tree' children') := by
  have hpattern := htree.child? "pattern"
  rw [Reading.parameterOf, Reading.parameterOf, htree.kind]
  split
  · refine (parameterTarget hpattern).bind fun _ _ htarget => ?_
    refine (h.annotationIn "type").bind fun _ _ htype => Traced.endsUpTo_pure (.some ?_)
    simp only [Node.SameButLines, Node.unlined, parameterName htarget, htype, any_kind hpattern]
  · exact Traced.endsUpTo_pure .none

/-! ### Members -/

lemma fieldOf (kind : FieldKind) :
    (fieldOf source tree children kind).EndsUpTo SameOptions
      (Reading.fieldOf source' tree' children' kind) := by
  refine (h.annotationIn "type").bind fun _ _ htype => Traced.endsUpTo_pure (.some ?_)
  have hname := Tree.IsCopy.optionalMemberName (htree.child? "name")
  simp only [Node.SameButLines, Node.unlined, hname, htype, htree.hasChild, htree.modifiers]

lemma methodOf (inClass : Bool) :
    (methodOf source tree children inClass).EndsUpTo SameOptions
      (Reading.methodOf source' tree' children' inClass) := by
  have hname := htree.child? "name"
  have hconstructor : (tree'.child? "name").any (·.text source' == "constructor") =
      (tree.child? "name").any (·.text source == "constructor") := by
    generalize tree.child? "name" = name? at hname
    generalize tree'.child? "name" = name'? at hname
    cases hname with
    | none => rfl
    | some hcopy => rw [Option.any_some, Option.any_some, hcopy.text]
  refine h.parametersIn.bind fun _ _ hparameters => ?_
  simp only [hconstructor, htree.kind, htree.modifiers, htree.hasChild]
  split
  · refine Traced.endsUpTo_pure (.some ?_)
    simp only [Node.SameButLines, Node.unlined, unlinedNodes_congr hparameters]
  · refine (h.annotationIn "return_type").bind fun _ _ htype => Traced.endsUpTo_pure (.some ?_)
    simp only [Node.SameButLines, Node.unlined, Tree.IsCopy.optionalMemberName hname, htype,
      unlinedNodes_congr hparameters, unlinedNodes_congr htree.declaredTypeParameters]

lemma callOf (kind : SignatureKind) (resultField : String) :
    (callOf source tree children kind resultField).EndsUpTo SameOptions
      (Reading.callOf source' tree' children' kind resultField) := by
  refine h.parametersIn.bind fun _ _ hparameters => ?_
  refine (h.annotationIn resultField).bind fun _ _ htype => Traced.endsUpTo_pure (.some ?_)
  simp only [Node.SameButLines, Node.unlined, htype, unlinedNodes_congr hparameters,
    unlinedNodes_congr htree.declaredTypeParameters]

lemma indexOf :
    (indexOf source tree children).EndsUpTo SameOptions
      (Reading.indexOf source' tree' children') := by
  have hname := htree.child? "name"
  have hsignature : ∀ keys keys' : List Node, SameLists keys keys' →
      (do
        let type ← Reading.annotationIn children "type"
        return some (.signature .indexSignature tree.line .absent type false (tree.modifiers source)
          [] keys) : Traced (Option Node)).EndsUpTo SameOptions (do
        let type ← Reading.annotationIn children' "type"
        return some (.signature .indexSignature tree'.line .absent type false
          (tree'.modifiers source') [] keys')) := by
    intro keys keys' hkeys
    refine (h.annotationIn "type").bind fun _ _ htype => Traced.endsUpTo_pure (.some ?_)
    simp only [Node.SameButLines, Node.unlined, htype, unlinedNodes_congr hkeys, htree.modifiers]
  rw [Reading.indexOf, Reading.indexOf]
  generalize tree.child? "name" = name? at hname
  generalize tree'.child? "name" = name'? at hname
  cases hname with
  | none => exact hsignature [] [] .nil
  | some hcopy =>
    refine (h.typeIn "index_type").bind fun _ _ htype => hsignature _ _ (.cons ?_ .nil)
    simp only [Node.SameButLines, Node.unlined, hcopy.identifier, htype]

lemma memberOf (inClass : Bool) :
    (memberOf source tree children inClass).EndsUpTo SameOptions
      (Reading.memberOf source' tree' children' inClass) := by
  unfold Reading.memberOf
  rw [htree.kind]
  generalize tree.kind = kind
  split
  · exact h.fieldOf htree _
  · exact h.fieldOf htree _
  · exact h.methodOf htree _
  · exact h.methodOf htree _
  · exact h.methodOf htree _
  · exact h.callOf htree _ _
  · exact h.callOf htree _ _
  · exact h.indexOf htree
  · exact (Traced.endsUpTo_note _ _).bind fun _ _ _ => Traced.endsUpTo_pure .none

/-! ### Heritage -/

lemma heritageTypeOf :
    (heritageTypeOf source tree children).EndsUpTo Node.SameButLines
      (Reading.heritageTypeOf source' tree' children') := by
  have hentry : ∀ name name' : Tree, name.IsCopy source source' name' →
      ∀ arguments arguments' : List Node, SameLists arguments arguments' →
      (if isTypeName name.kind then
        pure (.heritageType tree.line (name.expressionName source) arguments)
      else pure (.heritageType tree.line .absent []) : Traced Node).EndsUpTo Node.SameButLines
      (if isTypeName name'.kind then
        pure (.heritageType tree'.line (name'.expressionName source') arguments')
      else pure (.heritageType tree'.line .absent [])) := by
    intro name name' hname arguments arguments' harguments
    rw [hname.kind]
    split
    · refine Traced.endsUpTo_pure ?_
      simp only [Node.SameButLines, Node.unlined, hname.expressionName,
        unlinedNodes_congr harguments]
    · exact Traced.endsUpTo_pure rfl
  rw [Reading.heritageTypeOf, Reading.heritageTypeOf, htree.kind]
  cases tree.kind == "generic_type" with
  | true =>
    refine (h.fieldOr .nil (fun _ _ hreading => hreading.types) _).bind fun _ _ harguments => ?_
    exact hentry _ _ (htree.childOrSelf "name") _ _ harguments
  | false => exact hentry _ _ htree [] [] .nil

omit h htree in
/-- Entries that are the same are the same with the same arguments. -/
lemma withArguments {arguments arguments' : List Node} (harguments : SameLists arguments arguments')
    {entry entry' : Node} (hentry : entry.SameButLines entry') :
    (withArguments arguments entry).SameButLines (Reading.withArguments arguments' entry') := by
  have hunlined : ∀ (arguments : List Node) (entry : Node),
      (Reading.withArguments arguments entry).unlined =
        Reading.withArguments (unlinedNodes arguments) entry.unlined := by
    intro arguments entry
    cases entry <;> rfl
  rw [Node.SameButLines, hunlined, hunlined, unlinedNodes_congr harguments, hentry]

omit h in
lemma extendedType :
    (extendedType source tree).SameButLines (Reading.extendedType source' tree') := by
  rw [Reading.extendedType, Reading.extendedType, htree.kind]
  split
  · simp only [Node.SameButLines, Node.unlined, htree.expressionName]
  · rfl

omit h htree in
lemma extendedTypesFrom {parts parts' : List Child} (hparts : Copies source source' parts parts')
    {last last' : Option Node} (hlast : SameOptions last last') :
    (extendedTypesFrom source last parts).EndsUpTo SameLists
      (Reading.extendedTypesFrom source' last' parts') := by
  have toList : ∀ {node? node'? : Option Node}, SameOptions node? node'? →
      SameLists node?.toList node'?.toList := by
    rintro _ _ (hentry | _)
    · exact .cons hentry .nil
    · exact .nil
  induction hparts generalizing last last' with
  | nil => exact Traced.endsUpTo_pure (toList hlast)
  | @cons child child' _ _ hchild _ ih =>
    have hsome : last'.isSome = last.isSome := by
      cases hlast <;> rfl
    rw [Reading.extendedTypesFrom, Reading.extendedTypesFrom, hchild.tree.kind, hsome]
    split
    · refine hchild.reading.types.bind fun arguments arguments' harguments => ih ?_
      cases hlast with
      | none => exact .none
      | some hentry => exact .some (withArguments harguments hentry)
    · refine (ih (.some (extendedType hchild.tree))).bind fun _ _ hentries => ?_
      exact Traced.endsUpTo_pure (List.rel_append (toList hlast) hentries)

omit h htree in
lemma classClause {child child' : Child} (hchild : child.IsCopy source source' child') :
    (classClause child).EndsUpTo SameLists (Reading.classClause child') := by
  have hclause : ∀ (token : String) {types types' : Traced (List Node)},
      types.EndsUpTo SameLists types' →
      (do return [.heritageClause child.tree.line token (← types)] :
        Traced (List Node)).EndsUpTo SameLists
        (do return [.heritageClause child'.tree.line token (← types')]) := by
    intro token types types' htypes
    refine htypes.bind fun _ _ hlists => Traced.endsUpTo_pure (.cons ?_ .nil)
    exact congrArg (Node.heritageClause none token) (unlinedNodes_congr hlists)
  unfold Reading.classClause
  rw [hchild.tree.kind]
  generalize child.tree.kind = kind
  split
  · exact hclause _ hchild.reading.extendedTypes
  · exact hclause _ hchild.reading.heritageTypes
  · exact Traced.endsUpTo_pure .nil

omit htree in
lemma classHeritageOf :
    (classHeritageOf children).EndsUpTo SameLists (Reading.classHeritageOf children') :=
  h.all_parts_flatten fun _ _ hcopy => classClause hcopy

/-! ### Statements -/

lemma interfaceOf :
    (interfaceOf source tree children).EndsUpTo Node.SameButLines
      (Reading.interfaceOf source' tree' children') := by
  have hclause : ∀ child child' : Child, child.IsCopy source source' child' →
      (do
        let types ← child.reading.heritageTypes
        return .heritageClause child.tree.line "extends" types :
        Traced Node).EndsUpTo Node.SameButLines
      (do
        let types ← child'.reading.heritageTypes
        return .heritageClause child'.tree.line "extends" types) := by
    intro child child' hcopy
    refine hcopy.reading.heritageTypes.bind fun _ _ htypes => Traced.endsUpTo_pure ?_
    exact congrArg (Node.heritageClause none "extends") (unlinedNodes_congr htypes)
  refine ((h.partsOfKind "extends_type_clause").all_map hclause).bind fun _ _ hheritage => ?_
  refine (h.fieldOr .nil (fun _ _ hreading => hreading.members) "body").bind fun _ _ hmembers => ?_
  refine Traced.endsUpTo_pure ?_
  have hname := Tree.IsCopy.optionalIdentifier (htree.child? "name")
  simp only [Node.SameButLines, Node.unlined, hname, unlinedNodes_congr hheritage,
    unlinedNodes_congr hmembers, unlinedNodes_congr htree.declaredTypeParameters]

lemma classOf :
    (classOf source tree children).EndsUpTo Node.SameButLines
      (Reading.classOf source' tree' children') := by
  refine ((h.partsOfKind "class_heritage").all_map fun _ _ hcopy =>
    hcopy.reading.classHeritage).bind fun _ _ hheritage => ?_
  refine (h.fieldOr .nil (fun _ _ hreading => hreading.classMembers) "body").bind
    fun _ _ hmembers => Traced.endsUpTo_pure ?_
  have hname := Tree.IsCopy.optionalIdentifier (htree.child? "name")
  simp only [Node.SameButLines, Node.unlined, hname, htree.kind,
    unlinedNodes_congr (List.rel_flatten hheritage), unlinedNodes_congr hmembers,
    unlinedNodes_congr htree.declaredTypeParameters]

lemma variableOf :
    (variableOf source tree children).EndsUpTo SameOptions
      (Reading.variableOf source' tree' children') := by
  have hname : Option.Rel (Tree.IsCopy source source')
      ((tree.child? "name").filter (·.kind == "identifier"))
      ((tree'.child? "name").filter (·.kind == "identifier")) := by
    have hchild := htree.child? "name"
    generalize tree.child? "name" = name? at hchild
    generalize tree'.child? "name" = name'? at hchild
    cases hchild with
    | none => exact .none
    | some hcopy =>
      rw [Option.filter_some, Option.filter_some, hcopy.kind]
      split
      · exact .some hcopy
      · exact .none
  rw [Reading.variableOf, Reading.variableOf, htree.kind]
  split
  · refine (h.annotationIn "type").bind fun _ _ htype => Traced.endsUpTo_pure (.some ?_)
    simp only [Node.SameButLines, Node.unlined, Tree.IsCopy.optionalIdentifier hname, htype]
  · exact Traced.endsUpTo_pure .none

lemma functionOf :
    (functionOf source tree children).EndsUpTo Node.SameButLines
      (Reading.functionOf source' tree' children') := by
  refine h.parametersIn.bind fun _ _ hparameters => ?_
  refine (h.annotationIn "return_type").bind fun _ _ htype => Traced.endsUpTo_pure ?_
  have hname := Tree.IsCopy.optionalIdentifier (htree.child? "name")
  simp only [Node.SameButLines, Node.unlined, hname, htype, unlinedNodes_congr hparameters,
    unlinedNodes_congr htree.declaredTypeParameters]

omit h in
lemma namespaceNames :
    SameLists (namespaceNames source tree) (Reading.namespaceNames source' tree') := by
  have hname := htree.child? "name"
  rw [Reading.namespaceNames, Reading.namespaceNames]
  generalize tree.child? "name" = name? at hname
  generalize tree'.child? "name" = name'? at hname
  cases hname with
  | none => exact .nil
  | some hcopy =>
    simp only [hcopy.kind, hcopy.text, hcopy.dottedParts]
    split
    · exact .cons rfl .nil
    · rw [SameLists, List.forall₂_map_left_iff, List.forall₂_map_right_iff]
      exact List.forall₂_same.mpr fun _ _ => rfl

omit h htree in
lemma nestNamespaces {line line' : Line} {body body' : Node} (hbody : body.SameButLines body')
    {names names' : List Node} (hnames : SameLists names names') :
    (nestNamespaces line body names).SameButLines (Reading.nestNamespaces line' body' names') := by
  induction hnames with
  | nil => exact congrArg (Node.namespaceDecl none .absent) hbody
  | cons hname hrest ih =>
    cases hrest with
    | nil => simp only [Node.SameButLines, Reading.nestNamespaces, Node.unlined, hname, hbody]
    | cons => simp only [Node.SameButLines, Reading.nestNamespaces, Node.unlined, hname, ih]

lemma namespaceOf :
    (namespaceOf source tree children).EndsUpTo Node.SameButLines
      (Reading.namespaceOf source' tree' children') := by
  have hnames := namespaceNames htree
  have hbody := h.child? "body"
  rw [Reading.namespaceOf, Reading.namespaceOf]
  generalize Reading.child? children "body" = body? at hbody
  generalize Reading.child? children' "body" = body'? at hbody
  cases hbody with
  | none => exact Traced.endsUpTo_pure (nestNamespaces rfl hnames)
  | some hcopy =>
    refine hcopy.reading.statements.bind fun _ _ hstatements => Traced.endsUpTo_pure ?_
    refine nestNamespaces ?_ hnames
    exact congrArg (Node.block none) (unlinedNodes_congr hstatements)

omit h in
lemma enumOf : (enumOf source tree).SameButLines (Reading.enumOf source' tree') := by
  have hname := Tree.IsCopy.optionalIdentifier (htree.child? "name")
  have hbody := htree.child? "body"
  rw [Reading.enumOf, Reading.enumOf, Node.SameButLines, Node.unlined, Node.unlined, hname]
  generalize tree.child? "body" = body? at hbody
  generalize tree'.child? "body" = body'? at hbody
  cases hbody with
  | none => rfl
  | some hcopy => simp only [unlinedNodes_congr hcopy.enumMembers]

lemma statementOf :
    (statementOf source tree children).EndsUpTo SameLists
      (Reading.statementOf source' tree' children') := by
  have single : ∀ {statement statement' : Traced Node},
      statement.EndsUpTo Node.SameButLines statement' →
      (do return [← statement]).EndsUpTo SameLists (do return [← statement']) :=
    fun hstatement => hstatement.bind fun _ _ hnode => Traced.endsUpTo_pure (.cons hnode .nil)
  have hname := Tree.IsCopy.optionalIdentifier (htree.child? "name")
  unfold Reading.statementOf
  rw [htree.kind]
  generalize tree.kind = kind
  split
  · exact h.gather fun _ _ hreading => hreading.statement
  · exact h.gather fun _ _ hreading => hreading.statement
  · exact h.gather fun _ _ hreading => hreading.statement
  · exact h.gather fun _ _ hreading => hreading.statement
  · exact single (h.namespaceOf htree)
  · exact single (h.namespaceOf htree)
  · exact single (h.interfaceOf htree)
  · exact single (h.classOf htree)
  · exact single (h.classOf htree)
  · exact single (h.classOf htree)
  · refine (h.typeIn "value").bind fun _ _ htype => Traced.endsUpTo_pure (.cons ?_ .nil)
    simp only [Node.SameButLines, Node.unlined, hname, htype,
      unlinedNodes_congr htree.declaredTypeParameters]
  · refine (h.gatherSome fun _ _ hreading => hreading.variableDecl).bind fun _ _ hvariables => ?_
    refine Traced.endsUpTo_pure (.cons ?_ .nil)
    exact congrArg (Node.variableStatement none) (unlinedNodes_congr hvariables)
  · refine (h.gatherSome fun _ _ hreading => hreading.variableDecl).bind fun _ _ hvariables => ?_
    refine Traced.endsUpTo_pure (.cons ?_ .nil)
    exact congrArg (Node.variableStatement none) (unlinedNodes_congr hvariables)
  · exact single (h.functionOf htree)
  · exact single (h.functionOf htree)
  · exact Traced.endsUpTo_pure (.cons (enumOf htree) .nil)
  · exact (Traced.endsUpTo_note _ _).bind fun _ _ _ => Traced.endsUpTo_pure .nil
  · exact (Traced.endsUpTo_note _ _).bind fun _ _ _ => Traced.endsUpTo_pure .nil

/-- A node and its copy contribute the same in each position. -/
lemma ofChildren :
    (ofChildren source tree children).SameButLines
      (Reading.ofChildren source' tree' children') where
  type := h.typeOf htree
  annotation := h.annotationOf htree
  types := h.gatherEach fun _ _ hreading => hreading.type
  arms := h.unionArms
  statement := h.statementOf htree
  statements := h.gather fun _ _ hreading => hreading.statement
  member := h.memberOf htree false
  classMember := h.memberOf htree true
  members := h.gatherSome fun _ _ hreading => hreading.member
  classMembers := h.gatherSome fun _ _ hreading => hreading.classMember
  parameter := h.parameterOf htree
  parameters := h.gatherSome fun _ _ hreading => hreading.parameter
  heritageType := h.heritageTypeOf htree
  heritageTypes := h.gatherEach fun _ _ hreading => hreading.heritageType
  extendedTypes := extendedTypesFrom h.parts .none
  classHeritage := h.classHeritageOf
  variableDecl := h.variableOf htree

end Copies

end Reading

/-! ### Readings of trees -/

/-- **Readings.**  A copy of a tree is read as the tree is, but for lines. -/
theorem Tree.IsCopy.reading {source source' : ByteArray} {tree tree' : Tree}
    (h : tree.IsCopy source source' tree') :
    (tree.reading source).SameButLines (tree'.reading source') := by
  induction tree using Tree.induction generalizing tree' with
  | node tree ih =>
    rw [Tree.reading_eq, Tree.reading_eq]
    refine Reading.Copies.ofChildren ?_ h
    have hchildren := (List.forall₂_and_left _ _).mpr ⟨fun _ hmem => hmem, h.children⟩
    rw [childReadings_eq_map, childReadings_eq_map, Reading.Copies, List.forall₂_map_left_iff,
      List.forall₂_map_right_iff]
    exact hchildren.imp fun child child' hpair => ⟨hpair.2, ih child hpair.1 hpair.2⟩

/-- Statements that are the same but for lines add the same to a module. -/
lemma Model.statementsOf_sameButLines {statements statements' : List Node}
    (h : List.Forall₂ Node.SameButLines statements statements') (scope : Scope) (owner : String) :
    (statementsOf scope owner statements).outcome =
      (statementsOf scope owner statements').outcome := by
  have hunlined : statements.map Node.unlined = statements'.map Node.unlined := by
    rw [← unlinedNodes_eq_map, ← unlinedNodes_eq_map, unlinedNodes_congr h]
  rw [← statementsOf_unlined, hunlined, statementsOf_unlined]

/-- A copy of a tree has the same statements but for lines, or the same fault. -/
lemma Tree.IsCopy.statements {source source' : ByteArray} {tree tree' : Tree}
    (h : tree.IsCopy source source' tree') :
    (tree.statements source).EndsUpTo (List.Forall₂ Node.SameButLines)
      (tree'.statements source') :=
  h.reading.statements

end ReasonBindings
