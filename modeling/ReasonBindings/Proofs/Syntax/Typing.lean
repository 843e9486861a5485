import ReasonBindings.Proofs.Syntax.Scope
import ReasonBindings.Proofs.Syntax.Texts
import ReasonBindings.Proofs.Traced.Yields

/-!
# Well-typed syntax trees

Nodes of every class fit together in many ways of which only some make sense.  Each
field of a class is declared for nodes of some classes; a tree is *well typed* when
every field of every node in it holds what it is declared for.  Fields for names,
annotations, expressions and bodies may be omitted, and a field for statements, for
members or for types may hold a node of any class of that family, also one that a
declaration file never gives rise to.

In a well-typed tree every dotted name has a text and every type parameter has a
name, so names can be looked for without a fault.
-/

namespace ReasonBindings.Syntax

namespace Node

/-! ### Families of classes -/

/-- An identifier. -/
def isIdentifier : Node → Bool
  | .text .identifier .. => true
  | _ => false

/-- The name of a type. -/
def isTypeName : Node → Bool
  | .text .identifier .. | .qualifiedName .. => true
  | _ => false

/-- A value that has a name. -/
def isNamedValue : Node → Bool
  | .text .identifier .. | .propertyAccess .. => true
  | _ => false

/-- What can stand between the brackets of a member name. -/
def isKey : Node → Bool
  | .text .identifier .. | .text .stringLiteral .. | .propertyAccess .. => true
  | _ => false

/-- The name of a member. -/
def isMemberName : Node → Bool
  | .text .identifier .. | .text .stringLiteral .. | .text .numericLiteral .. |
    .computedName .. => true
  | _ => false

/-- The name of a namespace. -/
def isNamespaceName : Node → Bool
  | .text .identifier .. | .text .stringLiteral .. => true
  | _ => false

/-- A type. -/
def isType : Node → Bool
  | .bare .typeNode _ | .bare .thisType _ | .keywordType .. | .arrayType .. | .unionType .. |
    .tupleType .. | .parenthesizedType .. | .typeReference .. | .heritageType .. |
    .text .stringLiteralType .. | .text .literalType .. | .text .opaqueType .. |
    .signature .functionType .. | .objectType .. => true
  | _ => false

/-- A type parameter. -/
def isTypeParameter : Node → Bool
  | .typeParameter .. => true
  | _ => false

/-- A parameter. -/
def isParameter : Node → Bool
  | .parameter .. => true
  | _ => false

/-- A member; every declaration with parameters counts as one. -/
def isMember : Node → Bool
  | .field .. | .signature .. => true
  | _ => false

/-- An entry of a heritage clause. -/
def isHeritageType : Node → Bool
  | .heritageType .. => true
  | _ => false

/-- A heritage clause. -/
def isHeritageClause : Node → Bool
  | .heritageClause .. => true
  | _ => false

/-- The declaration of a variable. -/
def isVariableDecl : Node → Bool
  | .variableDecl .. => true
  | _ => false

/-- The body of a namespace. -/
def isBody : Node → Bool
  | .block .. | .namespaceDecl .. => true
  | _ => false

/-- A statement. -/
def isStatement : Node → Bool
  | .bare .statement _ | .interfaceDecl .. | .classDecl .. | .aliasDecl .. |
    .variableStatement .. | .signature .functionDeclaration .. | .enumDecl .. |
    .namespaceDecl .. => true
  | _ => false

/-- A bare word. -/
def isWord : Node → Bool
  | .word _ => true
  | _ => false

/-- No node, or one of the given family. -/
def omittable (family : Node → Bool) : Node → Bool
  | .absent => true
  | node => family node

/-! ### Well-typed nodes -/

/-- The nodes in the fields of a node, each with the family that its field is declared for. -/
def fields : Node → List ((Node → Bool) × Node)
  | .absent | .word _ | .bare .. | .text .. | .keywordType .. => []
  | .qualifiedName _ left right => [(isTypeName, left), (isIdentifier, right)]
  | .propertyAccess _ expression name => [(isNamedValue, expression), (isIdentifier, name)]
  | .computedName _ expression => [(omittable isKey, expression)]
  | .arrayType _ inner | .parenthesizedType _ inner => [(isType, inner)]
  | .unionType _ types | .tupleType _ types => types.map (isType, ·)
  | .typeReference _ name arguments =>
    (omittable isTypeName, name) :: arguments.map (isType, ·)
  | .heritageType _ expression arguments =>
    (omittable isNamedValue, expression) :: arguments.map (isType, ·)
  | .objectType _ members => members.map (isMember, ·)
  | .typeParameter _ name => [(isIdentifier, name)]
  | .parameter _ name type _ _ | .variableDecl _ name type =>
    [(omittable isIdentifier, name), (omittable isType, type)]
  | .field _ _ name type _ _ => [(omittable isMemberName, name), (omittable isType, type)]
  | .signature _ _ name type _ _ typeParameters parameters =>
    (omittable isMemberName, name) :: (omittable isType, type) ::
      (typeParameters.map (isTypeParameter, ·) ++ parameters.map (isParameter, ·))
  | .heritageClause _ _ types => types.map (isHeritageType, ·)
  | .interfaceDecl _ name typeParameters heritage members
  | .classDecl _ name typeParameters heritage members _ =>
    (omittable isIdentifier, name) :: (typeParameters.map (isTypeParameter, ·) ++
      (heritage.map (isHeritageClause, ·) ++ members.map (isMember, ·)))
  | .aliasDecl _ name typeParameters type =>
    (omittable isIdentifier, name) :: (omittable isType, type) ::
      typeParameters.map (isTypeParameter, ·)
  | .variableStatement _ declarations => declarations.map (isVariableDecl, ·)
  | .enumDecl _ name members => (omittable isIdentifier, name) :: members.map (isWord, ·)
  | .block _ statements | .sourceFile _ _ statements => statements.map (isStatement, ·)
  | .namespaceDecl _ name body => [(omittable isNamespaceName, name), (omittable isBody, body)]

/-- Every field of a node holds what it is declared for. -/
def fieldsFit (node : Node) : Bool :=
  node.fields.all fun field => field.1 field.2

end Node

mutual

/-- The nodes inside a node, at any depth. -/
def Node.inner : Node → List Node
  | .absent | .word _ | .bare .. | .text .. | .keywordType .. => []
  | .qualifiedName _ first second | .propertyAccess _ first second | .variableDecl _ first second |
    .parameter _ first second _ _ | .namespaceDecl _ first second |
    .field _ _ first second _ _ => first :: first.inner ++ second :: second.inner
  | .computedName _ node | .arrayType _ node | .parenthesizedType _ node |
    .typeParameter _ node => node :: node.inner
  | .unionType _ nodes | .tupleType _ nodes | .objectType _ nodes | .variableStatement _ nodes |
    .block _ nodes | .heritageClause _ _ nodes | .sourceFile _ _ nodes => nodesInner nodes
  | .typeReference _ name nodes | .heritageType _ name nodes | .enumDecl _ name nodes =>
    name :: name.inner ++ nodesInner nodes
  | .signature _ _ name type _ _ typeParameters parameters =>
    name :: name.inner ++ type :: type.inner ++ nodesInner typeParameters ++ nodesInner parameters
  | .interfaceDecl _ name typeParameters heritage members
  | .classDecl _ name typeParameters heritage members _ =>
    name :: name.inner ++ nodesInner typeParameters ++ nodesInner heritage ++ nodesInner members
  | .aliasDecl _ name typeParameters type =>
    name :: name.inner ++ type :: type.inner ++ nodesInner typeParameters

/-- The nodes of a list and the nodes inside of them. -/
def nodesInner : List Node → List Node
  | [] => []
  | node :: nodes => node :: node.inner ++ nodesInner nodes

end

namespace Node

/-- Every field of the node, and of every node inside it, holds what it is declared for. -/
def WellTyped (node : Node) : Prop :=
  node.fieldsFit = true ∧ ∀ inner ∈ node.inner, inner.fieldsFit = true

instance (node : Node) : Decidable node.WellTyped :=
  inferInstanceAs (Decidable (_ ∧ ∀ inner ∈ _, _))

/-- A well-typed node of a family. -/
structure TypedAs (family : Node → Bool) (node : Node) : Prop where
  family : family node = true
  wellTyped : node.WellTyped

/-- The nodes inside those of a list are the nodes of the list, each followed by what is inside. -/
lemma nodesInner_eq_flatMap (nodes : List Node) :
    nodesInner nodes = nodes.flatMap fun node => node :: node.inner := by
  induction nodes with
  | nil => simp [nodesInner]
  | cons node nodes ih => simp [nodesInner, ih]

/-- The nodes inside a node are the nodes that it consists of, each followed by what is inside. -/
lemma inner_eq_flatMap (node : Node) :
    node.inner = node.children.flatMap fun child => child :: child.inner := by
  cases node <;> simp [Node.inner, Node.children, nodesInner_eq_flatMap]

/-- What is inside a node is a node that it consists of or inside one. -/
lemma mem_inner {inner node : Node} :
    inner ∈ node.inner ↔ ∃ child ∈ node.children, inner = child ∨ inner ∈ child.inner := by
  rw [inner_eq_flatMap]
  simp only [List.mem_flatMap, List.mem_cons]

/-- The nodes in the fields of a node are the nodes that it consists of. -/
lemma map_snd_fields (node : Node) : node.fields.map (·.2) = node.children := by
  cases node <;> simp [fields, children, Function.comp_def]

/-- A node is well typed when every field holds a well-typed node of the family that the field is
declared for. -/
lemma wellTyped_iff {node : Node} :
    node.WellTyped ↔ ∀ field ∈ node.fields, field.2.TypedAs field.1 := by
  constructor
  · rintro ⟨hfits, hinner⟩ field hfield
    have hchild : field.2 ∈ node.children := by
      rw [← map_snd_fields]
      exact List.mem_map_of_mem hfield
    refine ⟨List.all_eq_true.mp hfits field hfield, ?_, fun inner hinside => ?_⟩
    · exact hinner field.2 (mem_inner.mpr ⟨field.2, hchild, Or.inl rfl⟩)
    · exact hinner inner (mem_inner.mpr ⟨field.2, hchild, Or.inr hinside⟩)
  · intro h
    refine ⟨List.all_eq_true.mpr fun field hfield => (h field hfield).family, ?_⟩
    intro inner hinner
    obtain ⟨child, hchild, hinside⟩ := mem_inner.mp hinner
    rw [← map_snd_fields] at hchild
    obtain ⟨field, hfield, rfl⟩ := List.mem_map.mp hchild
    have hwellTyped := (h field hfield).wellTyped
    rcases hinside with rfl | hinside
    · exact hwellTyped.1
    · exact hwellTyped.2 inner hinside

namespace TypedAs

variable {family : Node → Bool} {node : Node}

/-- A node of a family is well typed when its fields hold well-typed nodes. -/
lemma of_fields (hfamily : family node = true)
    (h : ∀ field ∈ node.fields, field.2.TypedAs field.1) : node.TypedAs family :=
  ⟨hfamily, wellTyped_iff.mpr h⟩

/-- A node can stand where it may be omitted. -/
lemma omittable (h : node.TypedAs family) : node.TypedAs (omittable family) := by
  refine ⟨?_, h.wellTyped⟩
  cases node with
  | absent => rfl
  | _ => exact h.family

/-- A node that may be omitted can be. -/
lemma absent : Node.absent.TypedAs (Node.omittable family) :=
  of_fields rfl fun _ hfield => nomatch hfield

/-- An identifier has no fields for nodes. -/
lemma identifier {line : Line} {text : String} : (Node.identifier line text).TypedAs isIdentifier :=
  of_fields rfl fun _ hfield => nomatch hfield

/-- A dotted type name consists of identifiers. -/
lemma dottedTypeName {line : Line} {first : String} {others : List String} :
    (Node.dottedTypeName line first others).TypedAs isTypeName := by
  refine List.foldlRecOn others _ ⟨rfl, identifier.wellTyped⟩ fun left hleft part _ => ?_
  refine of_fields rfl ?_
  simpa [fields] using ⟨hleft, identifier⟩

/-- A dotted value expression consists of identifiers. -/
lemma dottedExpression {line : Line} {first : String} {others : List String} :
    (Node.dottedExpression line first others).TypedAs isNamedValue := by
  refine List.foldlRecOn others _ ⟨rfl, identifier.wellTyped⟩ fun left hleft part _ => ?_
  refine of_fields rfl ?_
  simpa [fields] using ⟨hleft, identifier⟩

end TypedAs

namespace WellTyped

variable {node : Node}

/-! ### Attributes -/

/-- The nodes that a well-typed node consists of are well typed. -/
lemma child (h : node.WellTyped) {child : Node} (hchild : child ∈ node.children) :
    child.WellTyped := by
  rw [← map_snd_fields] at hchild
  obtain ⟨field, hfield, rfl⟩ := List.mem_map.mp hchild
  exact (wellTyped_iff.mp h field hfield).wellTyped

/-- The name of a well-typed node is well typed. -/
lemma name? (h : node.WellTyped) {name : Node} (hname : node.name? = some name) :
    name.WellTyped :=
  h.child (mem_children_of_name? hname)

/-- The type of a well-typed node is well typed. -/
lemma type? (h : node.WellTyped) {type : Node} (htype : node.type? = some type) :
    type.WellTyped :=
  h.child (mem_children_of_type? htype)

/-- The body of a well-typed node is well typed. -/
lemma body? (h : node.WellTyped) {body : Node} (hbody : node.body? = some body) :
    body.WellTyped :=
  h.child (mem_children_of_body? hbody)

/-- The members of a well-typed node are well typed. -/
lemma members? (h : node.WellTyped) {nodes : List Node} (hnodes : node.members? = some nodes) :
    ∀ inner ∈ nodes, inner.WellTyped := by
  intro inner hinner
  exact h.child (mem_children_of_mem_members? hnodes hinner)

/-- The type parameters of a well-typed node are type parameters. -/
lemma typeParameters? (h : node.WellTyped) {nodes : List Node}
    (hnodes : node.typeParameters? = some nodes) :
    ∀ inner ∈ nodes, inner.TypedAs isTypeParameter := by
  intro inner hinner
  refine wellTyped_iff.mp h (isTypeParameter, inner) ?_
  cases node <;> cases hnodes <;> simp [fields, hinner]

/-- The parameters of a well-typed node are parameters. -/
lemma parameters? (h : node.WellTyped) {nodes : List Node}
    (hnodes : node.parameters? = some nodes) : ∀ inner ∈ nodes, inner.TypedAs isParameter := by
  intro inner hinner
  refine wellTyped_iff.mp h (isParameter, inner) ?_
  cases node <;> cases hnodes
  simp [fields, hinner]

/-- The heritage clauses of a well-typed node are heritage clauses. -/
lemma heritage (h : node.WellTyped) :
    ∀ clause ∈ node.heritage, clause.TypedAs isHeritageClause := by
  intro clause hclause
  refine wellTyped_iff.mp h (isHeritageClause, clause) ?_
  cases node with
  | interfaceDecl | classDecl =>
    rw [Node.heritage] at hclause
    simp [fields, hclause]
  | _ => cases hclause

/-- The variables of a well-typed node are declarations of variables. -/
lemma declarations? (h : node.WellTyped) {nodes : List Node}
    (hnodes : node.declarations? = some nodes) :
    ∀ inner ∈ nodes, inner.TypedAs isVariableDecl := by
  intro inner hinner
  refine wellTyped_iff.mp h (isVariableDecl, inner) ?_
  cases node <;> cases hnodes
  simp [fields, hinner]

/-! ### Names -/

/-- An identifier has a text. -/
lemma exists_text?_of_isIdentifier (h : node.isIdentifier = true) :
    ∃ text, node.text? = some text := by
  cases node with
  | text kind line content => exact ⟨content, rfl⟩
  | _ => cases h

/-- A well-typed dotted name has a text. -/
lemma exists_text? (h : node.WellTyped)
    (hname : node.isTypeName = true ∨ node.isNamedValue = true) :
    ∃ text, node.text? = some text := by
  induction node using Node.text?.induct with
  | case1 kind line content => exact ⟨content, rfl⟩
  | case2 line left right first second hsecond hfirst
  | case4 line left right first second hsecond hfirst =>
    exact ⟨s!"{first}.{second}", by simp only [Node.text?, hfirst, hsecond]⟩
  | case3 line left right hmissing ihleft =>
    have hleft := wellTyped_iff.mp h (isTypeName, left) (by simp [fields])
    have hright := wellTyped_iff.mp h (isIdentifier, right) (by simp [fields])
    obtain ⟨first, hfirst⟩ := ihleft hleft.wellTyped (Or.inl hleft.family)
    obtain ⟨second, hsecond⟩ := exists_text?_of_isIdentifier hright.family
    exact absurd hsecond (hmissing first second hfirst)
  | case5 line left right hmissing ihleft =>
    have hleft := wellTyped_iff.mp h (isNamedValue, left) (by simp [fields])
    have hright := wellTyped_iff.mp h (isIdentifier, right) (by simp [fields])
    obtain ⟨first, hfirst⟩ := ihleft hleft.wellTyped (Or.inr hleft.family)
    obtain ⟨second, hsecond⟩ := exists_text?_of_isIdentifier hright.family
    exact absurd hsecond (hmissing first second hfirst)
  | case6 node htext hqualified hproperty =>
    cases node with
    | text => exact absurd rfl (htext _ _ _)
    | qualifiedName => exact absurd rfl (hqualified _ _ _)
    | propertyAccess => exact absurd rfl (hproperty _ _ _)
    | _ => rcases hname with hname | hname <;> cases hname

/-- The name that a well-typed node stands for can be looked for. -/
lemma declaredName_succeeds (h : node.WellTyped) : node.declaredName.Succeeds := by
  have named : ∀ {name : Node}, name.WellTyped →
      name.isTypeName = true ∨ name.isNamedValue = true → name.nameText.Succeeds := by
    intro name hname hfamily
    obtain ⟨text, htext⟩ := hname.exists_text? hfamily
    refine (Traced.yields_present htext).bind fun _ _ => ?_
    exact Traced.yields_pure trivial
  fun_induction Node.declaredName node with
  | case2 line expression ih => exact ih (h.child List.mem_cons_self)
  | case3 => exact named h (Or.inr rfl)
  | case4 => exact named h (Or.inl rfl)
  | case1 | case5 | case6 | case7 | case18 => exact Traced.yields_pure trivial
  | _ => rename_i ih; exact ih (h.name? rfl)

/-- The name of a well-typed declaration can be looked for. -/
lemma requiredName_succeeds (h : node.WellTyped) {line : Line} (hline : node.line? = some line) :
    node.requiredName.Succeeds := by
  refine h.declaredName_succeeds.bind fun name _ => ?_
  cases name with
  | some name => exact Traced.yields_pure trivial
  | none =>
    refine (Traced.yields_present hline).bind fun _ _ => ?_
    exact (Traced.succeeds_note _).bind fun _ _ => Traced.yields_pure trivial

/-- A well-typed type parameter has a name. -/
lemma exists_parameterName? (h : node.TypedAs isTypeParameter) :
    ∃ name, node.parameterName? = some name := by
  obtain ⟨hfamily, hnode⟩ := h
  cases node with
  | typeParameter line name =>
    have hname := wellTyped_iff.mp hnode (isIdentifier, name) List.mem_cons_self
    exact exists_text?_of_isIdentifier hname.family
  | _ => cases hfamily

/-- Every type parameter that a well-typed node declares has a name. -/
lemma namesTypeParameters (h : node.WellTyped) : node.NamesTypeParameters := by
  unfold NamesTypeParameters
  cases hparameters : node.typeParameters? with
  | none => simp
  | some parameters =>
    intro parameter hparameter
    rw [Option.getD_some] at hparameter
    exact Option.isSome_iff_exists.mpr
      (exists_parameterName? (h.typeParameters? hparameters parameter hparameter))

end WellTyped

end Node

end ReasonBindings.Syntax
