import ReasonBindings.Proofs.Model.Total
import ReasonBindings.Proofs.ParseTree.Reading

/-!
# Statements of parse trees are well typed

Most nodes of a parse tree can be read whatever their children are: a child that is
missing gives an omitted name or annotation, and a child of an unknown kind is left
out or kept as it is written.  Four kinds of nodes are read through their first part
and have to have one, and a type parameter has to have a name.  A tree is *complete*
when this holds of all of its nodes.

Every node of a complete tree can be read in every position, and what is read is
well typed, so the statements of a complete tree always have bindings.
-/

namespace ReasonBindings

open Syntax

/-! ### Complete trees -/

namespace Tree

/-- The kinds of nodes that are read through their first part. -/
def partKinds : List String :=
  ["array_type", "parenthesized_type", "readonly_type", "rest_pattern"]

/-- A node that is read through its first part has a part, and a type parameter has a name. -/
def HasEssentials (tree : Tree) : Prop :=
  (tree.kind ∈ partKinds → tree.parts ≠ []) ∧
    (tree.kind = "type_parameter" → (tree.child? "name").isSome = true)

instance (tree : Tree) : Decidable tree.HasEssentials :=
  inferInstanceAs (Decidable (_ ∧ _))

/-- Every node of a tree has what it is read through. -/
def Complete (tree : Tree) : Prop :=
  ∀ node ∈ tree.subtrees, node.HasEssentials

instance (tree : Tree) : Decidable tree.Complete :=
  inferInstanceAs (Decidable (∀ node ∈ _, _))

namespace Complete

variable {tree : Tree}

/-- A complete tree has what it is read through. -/
lemma essentials (h : tree.Complete) : tree.HasEssentials :=
  h tree (mem_subtrees.mpr (Or.inl rfl))

/-- The children of a complete tree are complete. -/
lemma child (h : tree.Complete) {child : Tree} (hchild : child ∈ tree.children) :
    child.Complete :=
  fun node hnode => h node (mem_subtrees.mpr (Or.inr ⟨child, hchild, hnode⟩))

/-- A node of a complete tree that is read through its first part has one. -/
lemma exists_part (h : tree.Complete) (hkind : tree.kind ∈ partKinds) :
    ∃ first others, tree.parts = first :: others :=
  List.exists_cons_of_ne_nil (h.essentials.1 hkind)

end Complete

/-! ### Names -/

variable {source : ByteArray}

/-- A name that is there or omitted. -/
lemma optionalIdentifier_typedAs (source : ByteArray) (name : Option Tree) :
    (optionalIdentifier source name).TypedAs (Node.omittable Node.isIdentifier) := by
  cases name with
  | none => exact .absent
  | some name => exact Node.TypedAs.identifier.omittable

/-- A type name is a plain or a dotted name. -/
lemma typeName_typedAs (source : ByteArray) (tree : Tree) :
    (tree.typeName source).TypedAs Node.isTypeName := by
  unfold typeName
  split
  · exact ⟨rfl, Node.TypedAs.identifier.wellTyped⟩
  · exact .dottedTypeName

/-- A value expression is a plain or a dotted name. -/
lemma expressionName_typedAs (source : ByteArray) (tree : Tree) :
    (tree.expressionName source).TypedAs Node.isNamedValue := by
  unfold expressionName
  split
  · exact ⟨rfl, Node.TypedAs.identifier.wellTyped⟩
  · exact .dottedExpression

/-- What stands between the brackets of a member name is a string, a name, or nothing. -/
lemma keyExpression_typedAs (source : ByteArray) (tree : Tree) :
    (tree.keyExpression source).TypedAs (Node.omittable Node.isKey) := by
  have hvalue : ∀ inner : Tree, (inner.expressionName source).TypedAs Node.isKey := by
    intro inner
    obtain ⟨hfamily, hnode⟩ := expressionName_typedAs source inner
    refine ⟨?_, hnode⟩
    revert hfamily
    fun_cases Node.isNamedValue (inner.expressionName source) <;> simp_all [Node.isKey]
  unfold keyExpression
  split
  · exact .absent
  · split
    · exact .of_fields rfl fun _ hfield => nomatch hfield
    · split
      · exact (hvalue _).omittable
      · exact .absent

/-- A member name is a word, a string, a number, or a key in brackets. -/
lemma memberName_typedAs (source : ByteArray) (tree : Tree) :
    (tree.memberName source).TypedAs Node.isMemberName := by
  have hplain : ∀ kind line text, Node.isMemberName (.text kind line text) = true →
      (Node.text kind line text).TypedAs Node.isMemberName := fun kind line text h =>
    .of_fields h fun _ hfield => nomatch hfield
  unfold memberName
  split
  · exact hplain _ _ _ rfl
  · exact hplain _ _ _ rfl
  · refine .of_fields rfl ?_
    simpa [Node.fields] using keyExpression_typedAs source tree
  · exact hplain _ _ _ rfl

/-- A member name that is there or omitted. -/
lemma optionalMemberName_typedAs (source : ByteArray) (name : Option Tree) :
    (optionalMemberName source name).TypedAs (Node.omittable Node.isMemberName) := by
  cases name with
  | none => exact .absent
  | some name => exact (memberName_typedAs source name).omittable

/-- The type parameters of a complete node have names. -/
lemma declaredTypeParameters_typedAs (source : ByteArray) {tree : Tree} (h : tree.Complete) :
    ∀ node ∈ tree.declaredTypeParameters source, node.TypedAs Node.isTypeParameter := by
  cases hlist : tree.child? "type_parameters" with
  | none => simp [declaredTypeParameters, hlist]
  | some list =>
    have hcomplete : list.Complete := h.child (mem_children_of_child? hlist)
    simp only [declaredTypeParameters, hlist]
    intro node hnode
    obtain ⟨parameter, hparameter, rfl⟩ := List.mem_map.mp hnode
    obtain ⟨hpart, hkind⟩ := List.mem_filter.mp hparameter
    have hown : parameter.Complete := hcomplete.child (mem_children_of_mem_parts hpart)
    obtain ⟨name, hname⟩ := Option.isSome_iff_exists.mp (hown.essentials.2 (by simpa using hkind))
    have hidentifier : (name.identifier source).TypedAs Node.isIdentifier := .identifier
    refine .of_fields rfl ?_
    rw [hname]
    simpa [Node.fields, optionalIdentifier] using hidentifier

end Tree

/-! ### Readings -/

/-- What a node contributes in each position is there and well typed. -/
structure Reading.WellTyped (reading : Reading) : Prop where
  type : reading.type.Yields (·.TypedAs Node.isType)
  annotation : reading.annotation.Yields (·.TypedAs (Node.omittable Node.isType))
  types : reading.types.Yields (∀ node ∈ ·, node.TypedAs Node.isType)
  arms : reading.arms.Yields (∀ node ∈ ·, node.TypedAs Node.isType)
  statement : reading.statement.Yields (∀ node ∈ ·, node.TypedAs Node.isStatement)
  statements : reading.statements.Yields (∀ node ∈ ·, node.TypedAs Node.isStatement)
  member : reading.member.Yields (∀ node ∈ ·, node.TypedAs Node.isMember)
  classMember : reading.classMember.Yields (∀ node ∈ ·, node.TypedAs Node.isMember)
  members : reading.members.Yields (∀ node ∈ ·, node.TypedAs Node.isMember)
  classMembers : reading.classMembers.Yields (∀ node ∈ ·, node.TypedAs Node.isMember)
  parameter : reading.parameter.Yields (∀ node ∈ ·, node.TypedAs Node.isParameter)
  parameters : reading.parameters.Yields (∀ node ∈ ·, node.TypedAs Node.isParameter)
  heritageType : reading.heritageType.Yields (·.TypedAs Node.isHeritageType)
  heritageTypes : reading.heritageTypes.Yields (∀ node ∈ ·, node.TypedAs Node.isHeritageType)
  extendedTypes : reading.extendedTypes.Yields (∀ node ∈ ·, node.TypedAs Node.isHeritageType)
  classHeritage : reading.classHeritage.Yields (∀ node ∈ ·, node.TypedAs Node.isHeritageClause)
  variableDecl : reading.variableDecl.Yields (∀ node ∈ ·, node.TypedAs Node.isVariableDecl)

namespace Reading

variable {source : ByteArray} {tree : Tree} {children : List Child} {family : Node → Bool}

section Children

variable (h : ∀ child ∈ children, child.reading.WellTyped)

include h

/-- What a field contributes is what the child in it contributes, or what stands for an empty
field. -/
lemma fieldOr_yields {α : Type} {field : String} {empty : α} {view : Reading → Traced α}
    {property : α → Prop} (hempty : property empty)
    (hview : ∀ reading : Reading, reading.WellTyped → (view reading).Yields property) :
    (fieldOr children field empty view).Yields property := by
  unfold fieldOr
  split
  case h_1 child hchild => exact hview _ (h child (List.mem_of_find?_eq_some hchild))
  case h_2 => exact Traced.yields_pure hempty

/-- The type in a field may be omitted. -/
lemma typeIn_yields (field : String) :
    (typeIn children field).Yields (·.TypedAs (Node.omittable Node.isType)) :=
  fieldOr_yields h .absent fun _ hreading => hreading.type.imp fun _ => .omittable

/-- The annotation in a field may be omitted. -/
lemma annotationIn_yields (field : String) :
    (annotationIn children field).Yields (·.TypedAs (Node.omittable Node.isType)) :=
  fieldOr_yields h .absent fun _ hreading => hreading.annotation

/-- The field for parameters lists parameters. -/
lemma parametersIn_yields :
    (parametersIn children).Yields (∀ node ∈ ·, node.TypedAs Node.isParameter) :=
  fieldOr_yields h (by simp) fun _ hreading => hreading.parameters

/-- The field for type arguments lists types. -/
lemma typeArguments_yields :
    (fieldOr children "type_arguments" [] Reading.types).Yields
      (∀ node ∈ ·, node.TypedAs Node.isType) :=
  fieldOr_yields h (by simp) fun _ hreading => hreading.types

/-- The readings of the parts are well typed. -/
lemma wellTyped_of_mem_parts : ∀ child ∈ parts children, child.reading.WellTyped :=
  fun child hchild => h child (List.mem_filter.mp hchild).1

/-- The parts contribute nodes of a family when each of them contributes a list of such nodes. -/
lemma gather_yields {view : Reading → Traced (List Node)}
    (hview : ∀ reading : Reading, reading.WellTyped →
      (view reading).Yields (∀ node ∈ ·, node.TypedAs family)) :
    (gather children view).Yields (∀ node ∈ ·, node.TypedAs family) := by
  have hlists := Traced.yields_all_map fun child hchild =>
    hview _ (wellTyped_of_mem_parts h child hchild)
  refine hlists.bind fun lists hall => Traced.yields_pure ?_
  exact List.forall_mem_flatten.mpr hall

/-- The parts contribute nodes of a family when each of them contributes at most one such node. -/
lemma gatherSome_yields {view : Reading → Traced (Option Node)}
    (hview : ∀ reading : Reading, reading.WellTyped →
      (view reading).Yields (∀ node ∈ ·, node.TypedAs family)) :
    (gatherSome children view).Yields (∀ node ∈ ·, node.TypedAs family) := by
  have hoptions := Traced.yields_all_map fun child hchild =>
    hview _ (wellTyped_of_mem_parts h child hchild)
  refine hoptions.bind fun options hall => Traced.yields_pure fun node hnode => ?_
  obtain ⟨option, hoption, hsome⟩ := List.mem_filterMap.mp hnode
  exact hall option hoption node hsome

/-- The parts contribute nodes of a family when each of them contributes one such node. -/
lemma gatherEach_yields {view : Reading → Traced Node}
    (hview : ∀ reading : Reading, reading.WellTyped → (view reading).Yields (·.TypedAs family)) :
    (gatherEach children view).Yields (∀ node ∈ ·, node.TypedAs family) :=
  Traced.yields_all_map fun child hchild => hview _ (wellTyped_of_mem_parts h child hchild)

/-- The first part is a type if there is one. -/
lemma firstType_yields (hparts : parts children ≠ []) :
    (firstType children).Yields (·.TypedAs Node.isType) := by
  unfold firstType
  split
  case h_1 first others heq =>
    exact (wellTyped_of_mem_parts h first (by simp [heq])).type
  case h_2 heq => exact absurd heq hparts

/-! ### Types -/

/-- The arms of a union are types. -/
lemma unionArms_yields : (unionArms children).Yields (∀ node ∈ ·, node.TypedAs Node.isType) := by
  have harms : ∀ child ∈ parts children,
      (armsOf child).Yields (∀ node ∈ ·, node.TypedAs Node.isType) := by
    intro child hchild
    have hreading := wellTyped_of_mem_parts h child hchild
    unfold armsOf
    split
    · exact hreading.arms
    · exact hreading.type.bind fun node hnode => Traced.yields_pure (by simpa using hnode)
  refine (Traced.yields_all_map harms).bind fun lists hall => Traced.yields_pure ?_
  exact List.forall_mem_flatten.mpr hall

/-- A node of a complete tree is a type. -/
lemma typeOf_yields (source : ByteArray) (hcomplete : tree.Complete)
    (hparts : (parts children).map Child.tree = tree.parts) :
    (typeOf source tree children).Yields (·.TypedAs Node.isType) := by
  have hfirst : tree.kind ∈ Tree.partKinds →
      (firstType children).Yields (·.TypedAs Node.isType) := by
    intro hkind
    refine firstType_yields h fun hnil => hcomplete.essentials.1 hkind ?_
    rw [← hparts, hnil, List.map_nil]
  have hleaf : ∀ {node : Node}, node.isType = true → node.fields = [] →
      (pure node : Traced Node).Yields (·.TypedAs Node.isType) := by
    intro node hfamily hfields
    refine Traced.yields_pure (.of_fields hfamily ?_)
    simp [hfields]
  unfold typeOf
  split
  case h_1 => exact hleaf rfl rfl
  case h_2 | h_3 =>
    refine Traced.yields_pure (.of_fields rfl ?_)
    simpa [Node.fields] using (Tree.typeName_typedAs source tree).omittable
  case h_4 =>
    refine (typeArguments_yields h).bind fun arguments harguments => ?_
    refine Traced.yields_pure (.of_fields rfl ?_)
    simpa [Node.fields] using
      ⟨(Tree.typeName_typedAs source (tree.childOrSelf "name")).omittable, harguments⟩
  case h_5 hkind =>
    refine (hfirst (by simp [hkind, Tree.partKinds])).bind fun element helement => ?_
    refine Traced.yields_pure (.of_fields rfl ?_)
    simpa [Node.fields] using helement
  case h_6 =>
    refine (parametersIn_yields h).bind fun parameters hparameters => ?_
    refine (typeIn_yields h "return_type").bind fun result hresult => ?_
    refine Traced.yields_pure (.of_fields rfl ?_)
    have htypeParameters := Tree.declaredTypeParameters_typedAs source hcomplete
    simpa [Node.fields, or_imp, forall_and] using
      ⟨.absent, hresult, htypeParameters, hparameters⟩
  case h_7 =>
    refine (unionArms_yields h).bind fun arms harms => ?_
    refine Traced.yields_pure (.of_fields rfl ?_)
    simpa [Node.fields] using harms
  case h_8 =>
    refine (gatherEach_yields h fun _ hreading => hreading.type).bind fun elements helements => ?_
    refine Traced.yields_pure (.of_fields rfl ?_)
    simpa [Node.fields] using helements
  case h_9 hkind =>
    refine (hfirst (by simp [hkind, Tree.partKinds])).bind fun inner hinner => ?_
    refine Traced.yields_pure (.of_fields rfl ?_)
    simpa [Node.fields] using hinner
  case h_10 hkind => exact hfirst (by simp [hkind, Tree.partKinds])
  case h_11 => exact hleaf rfl rfl
  case h_12 =>
    unfold literalType
    split
    · exact hleaf rfl rfl
    · split
      · exact hleaf rfl rfl
      · exact hleaf rfl rfl
  case h_13 =>
    refine (gatherSome_yields h fun _ hreading => hreading.member).bind fun members hmembers => ?_
    refine Traced.yields_pure (.of_fields rfl ?_)
    simpa [Node.fields] using hmembers
  case h_14 => exact hleaf rfl rfl

/-- A node of a complete tree is a type annotation, which may have nothing behind its sign. -/
lemma annotationOf_yields (source : ByteArray) (hcomplete : tree.Complete)
    (hparts : (parts children).map Child.tree = tree.parts) :
    (annotationOf source tree children).Yields (·.TypedAs (Node.omittable Node.isType)) := by
  unfold annotationOf
  split
  · split
    case h_1 first others heq =>
      have hfirst := wellTyped_of_mem_parts h first (by simp [heq])
      exact hfirst.type.imp fun _ => .omittable
    case h_2 => exact Traced.yields_pure .absent
  · exact (typeOf_yields h source hcomplete hparts).imp fun _ => .omittable

/-! ### Parameters -/

omit h in
/-- A pattern has a target when it is complete. -/
lemma parameterTarget_succeeds {pattern : Option Tree}
    (hcomplete : ∀ tree ∈ pattern, tree.Complete) : (parameterTarget pattern).Succeeds := by
  unfold parameterTarget
  split
  · exact Traced.yields_pure trivial
  · split
    case isTrue tree hkind =>
      obtain ⟨first, others, hparts⟩ :=
        (hcomplete tree rfl).exists_part (by simp [hkind, Tree.partKinds])
      rw [hparts]
      exact Traced.yields_pure trivial
    case isFalse => exact Traced.yields_pure trivial

omit h in
/-- A parameter has a name unless its pattern takes a value apart. -/
lemma parameterName_typedAs (source : ByteArray) (target : Option Tree) :
    (parameterName source target).TypedAs (Node.omittable Node.isIdentifier) := by
  unfold parameterName
  split
  · split
    · exact Node.TypedAs.identifier.omittable
    · exact .absent
  · exact .absent

/-- A node of a complete tree is a parameter or is left out. -/
lemma parameterOf_yields (source : ByteArray) (hcomplete : tree.Complete) :
    (parameterOf source tree children).Yields (∀ node ∈ ·, node.TypedAs Node.isParameter) := by
  have hpattern : ∀ pattern ∈ tree.child? "pattern", pattern.Complete :=
    fun pattern hpattern => hcomplete.child (Tree.mem_children_of_child? hpattern)
  unfold parameterOf
  split
  · refine (parameterTarget_succeeds hpattern).bind fun target _ => ?_
    refine (annotationIn_yields h "type").bind fun type htype => ?_
    refine Traced.yields_some (.of_fields rfl ?_)
    simpa [Node.fields] using ⟨parameterName_typedAs source target, htype⟩
  · exact Traced.yields_pure (by simp)

/-! ### Members -/

omit h in
/-- A member with parameters is well typed when its name, its type and its parameters are. -/
lemma signature_typedAs {kind : SignatureKind} {line : Line} {name type : Node} {optional : Bool}
    {modifiers : List String} {typeParameters parameters : List Node}
    (hfamily : family (.signature kind line name type optional modifiers typeParameters
      parameters) = true)
    (hname : name.TypedAs (Node.omittable Node.isMemberName))
    (htype : type.TypedAs (Node.omittable Node.isType))
    (htypeParameters : ∀ node ∈ typeParameters, node.TypedAs Node.isTypeParameter)
    (hparameters : ∀ node ∈ parameters, node.TypedAs Node.isParameter) :
    (Node.signature kind line name type optional modifiers typeParameters parameters).TypedAs
      family := by
  refine .of_fields hfamily ?_
  simpa [Node.fields, or_imp, forall_and] using ⟨hname, htype, htypeParameters, hparameters⟩

/-- A member without parameters is well typed. -/
lemma fieldOf_yields (source : ByteArray) (kind : FieldKind) :
    (fieldOf source tree children kind).Yields (∀ node ∈ ·, node.TypedAs Node.isMember) := by
  refine (annotationIn_yields h "type").bind fun type htype => ?_
  refine Traced.yields_some (.of_fields rfl ?_)
  simpa [Node.fields] using ⟨Tree.optionalMemberName_typedAs source _, htype⟩

/-- A method of a complete tree is well typed, a constructor of a class included. -/
lemma methodOf_yields (source : ByteArray) (hcomplete : tree.Complete) (inClass : Bool) :
    (methodOf source tree children inClass).Yields (∀ node ∈ ·, node.TypedAs Node.isMember) := by
  have hname := Tree.optionalMemberName_typedAs source (tree.child? "name")
  have htypeParameters := Tree.declaredTypeParameters_typedAs source hcomplete
  refine (parametersIn_yields h).bind fun parameters hparameters => ?_
  split
  · refine Traced.yields_some ?_
    exact signature_typedAs rfl .absent .absent (by simp) hparameters
  · refine (annotationIn_yields h "return_type").bind fun type htype => ?_
    refine Traced.yields_some ?_
    exact signature_typedAs rfl hname htype htypeParameters hparameters

/-- A call or construct signature of a complete tree is well typed. -/
lemma callOf_yields (source : ByteArray) (hcomplete : tree.Complete) (kind : SignatureKind)
    (field : String) :
    (callOf source tree children kind field).Yields (∀ node ∈ ·, node.TypedAs Node.isMember) := by
  have htypeParameters := Tree.declaredTypeParameters_typedAs source hcomplete
  refine (parametersIn_yields h).bind fun parameters hparameters => ?_
  refine (annotationIn_yields h field).bind fun type htype => ?_
  refine Traced.yields_some ?_
  exact signature_typedAs rfl .absent htype htypeParameters hparameters

/-- An index signature is well typed. -/
lemma indexOf_yields (source : ByteArray) :
    (indexOf source tree children).Yields (∀ node ∈ ·, node.TypedAs Node.isMember) := by
  have hsignature : ∀ parameters : List Node, (∀ node ∈ parameters, node.TypedAs Node.isParameter) →
      (do
        let type ← annotationIn children "type"
        return some (.signature .indexSignature tree.line .absent type false (tree.modifiers source)
          [] parameters) : Traced (Option Node)).Yields
        (∀ node ∈ ·, node.TypedAs Node.isMember) := by
    intro parameters hparameters
    refine (annotationIn_yields h "type").bind fun type htype => Traced.yields_some ?_
    exact signature_typedAs rfl .absent htype (by simp) hparameters
  unfold indexOf
  split
  case h_1 key hkey =>
    refine (typeIn_yields h "index_type").bind fun type htype => ?_
    have hparameter : (Node.parameter tree.line (key.identifier source) type false false).TypedAs
        Node.isParameter := by
      refine .of_fields rfl ?_
      simpa [Node.fields] using ⟨Node.TypedAs.identifier.omittable, htype⟩
    exact hsignature _ (List.forall_mem_singleton.mpr hparameter)
  case h_2 => exact hsignature [] (by simp)

/-- A node of a complete tree is a member or is left out. -/
lemma memberOf_yields (source : ByteArray) (hcomplete : tree.Complete) (inClass : Bool) :
    (memberOf source tree children inClass).Yields (∀ node ∈ ·, node.TypedAs Node.isMember) := by
  unfold memberOf
  split
  case h_1 | h_2 => exact fieldOf_yields h source _
  case h_3 | h_4 | h_5 => exact methodOf_yields h source hcomplete inClass
  case h_6 | h_7 => exact callOf_yields h source hcomplete _ _
  case h_8 => exact indexOf_yields h source
  case h_9 =>
    refine (Traced.succeeds_note _).bind fun _ _ => ?_
    exact Traced.yields_pure (by simp)

/-! ### Heritage -/

omit h in
/-- An entry of a heritage clause is well typed when its name and its type arguments are. -/
lemma heritageType_typedAs {line : Line} {expression : Node} {arguments : List Node}
    (hexpression : expression.TypedAs (Node.omittable Node.isNamedValue))
    (harguments : ∀ node ∈ arguments, node.TypedAs Node.isType) :
    (Node.heritageType line expression arguments).TypedAs Node.isHeritageType := by
  refine .of_fields rfl ?_
  simpa [Node.fields] using ⟨hexpression, harguments⟩

/-- A node is an entry of a heritage clause. -/
lemma heritageTypeOf_yields (source : ByteArray) :
    (heritageTypeOf source tree children).Yields (·.TypedAs Node.isHeritageType) := by
  have hentry : ∀ (name : Tree) (arguments : List Node),
      (∀ node ∈ arguments, node.TypedAs Node.isType) →
      (if isTypeName name.kind then
          return .heritageType tree.line (name.expressionName source) arguments
        else return .heritageType tree.line .absent [] : Traced Node).Yields
        (·.TypedAs Node.isHeritageType) := by
    intro name arguments harguments
    split
    · have hname := (Tree.expressionName_typedAs source name).omittable
      exact Traced.yields_pure (heritageType_typedAs hname harguments)
    · exact Traced.yields_pure (heritageType_typedAs .absent (by simp))
  unfold heritageTypeOf
  extract_lets generic name next
  split
  · exact (typeArguments_yields h).bind fun arguments harguments => hentry _ _ harguments
  · exact hentry _ [] (by simp)

omit h in
/-- An entry with other type arguments is well typed. -/
lemma withArguments_typedAs {arguments : List Node} {entry : Node}
    (hentry : entry.TypedAs Node.isHeritageType)
    (harguments : ∀ node ∈ arguments, node.TypedAs Node.isType) :
    (withArguments arguments entry).TypedAs Node.isHeritageType := by
  cases entry with
  | heritageType line expression old =>
    have hexpression := Node.wellTyped_iff.mp hentry.wellTyped
      (Node.omittable Node.isNamedValue, expression) List.mem_cons_self
    exact heritageType_typedAs hexpression harguments
  | _ => exact hentry

omit h in
/-- An entry of an extends clause is well typed. -/
lemma extendedType_typedAs (source : ByteArray) (tree : Tree) :
    (extendedType source tree).TypedAs Node.isHeritageType := by
  refine heritageType_typedAs ?_ (by simp)
  split
  · exact (Tree.expressionName_typedAs source tree).omittable
  · exact .absent

/-- The nodes behind an entry of an extends clause are entries or type arguments. -/
lemma extendedTypesFrom_yields (source : ByteArray) (last : Option Node)
    (hlast : ∀ entry ∈ last, entry.TypedAs Node.isHeritageType) :
    (extendedTypesFrom source last children).Yields
      (∀ node ∈ ·, node.TypedAs Node.isHeritageType) := by
  induction children generalizing last with
  | nil => exact Traced.yields_pure (by simpa using hlast)
  | cons child others ih =>
    obtain ⟨hchild, hothers⟩ := List.forall_mem_cons.mp h
    rw [extendedTypesFrom]
    split
    · refine hchild.types.bind fun arguments harguments => ih hothers _ ?_
      intro entry hentry
      obtain ⟨old, hold, rfl⟩ := Option.map_eq_some_iff.mp hentry
      exact withArguments_typedAs (hlast old hold) harguments
    · have hnext : ∀ entry ∈ some (extendedType source child.tree),
          entry.TypedAs Node.isHeritageType :=
        fun entry hentry => Option.mem_some.mp hentry ▸ extendedType_typedAs source child.tree
      refine (ih hothers _ hnext).bind fun entries hentries => Traced.yields_pure ?_
      exact List.forall_mem_append.mpr ⟨by simpa using hlast, hentries⟩

omit h in
/-- A heritage clause is well typed when its entries are. -/
lemma heritageClause_typedAs {line : Line} {token : String} {types : List Node}
    (htypes : ∀ node ∈ types, node.TypedAs Node.isHeritageType) :
    (Node.heritageClause line token types).TypedAs Node.isHeritageClause := by
  refine .of_fields rfl ?_
  simpa [Node.fields] using htypes

/-- The heritage of a class consists of heritage clauses. -/
lemma classHeritageOf_yields :
    (classHeritageOf children).Yields (∀ node ∈ ·, node.TypedAs Node.isHeritageClause) := by
  have hclauses : ∀ child ∈ parts children,
      (classClause child).Yields (∀ node ∈ ·, node.TypedAs Node.isHeritageClause) := by
    intro child hchild
    have hreading := wellTyped_of_mem_parts h child hchild
    unfold classClause
    split
    · refine hreading.extendedTypes.bind fun types htypes => ?_
      exact Traced.yields_singleton (heritageClause_typedAs htypes)
    · refine hreading.heritageTypes.bind fun types htypes => ?_
      exact Traced.yields_singleton (heritageClause_typedAs htypes)
    · exact Traced.yields_pure (by simp)
  refine (Traced.yields_all_map hclauses).bind fun lists hall => Traced.yields_pure ?_
  exact List.forall_mem_flatten.mpr hall

/-! ### Statements -/

/-- An interface of a complete tree is a statement. -/
lemma interfaceOf_yields (source : ByteArray) (hcomplete : tree.Complete) :
    (interfaceOf source tree children).Yields (·.TypedAs Node.isStatement) := by
  have hname := Tree.optionalIdentifier_typedAs source (tree.child? "name")
  have htypeParameters := Tree.declaredTypeParameters_typedAs source hcomplete
  have hclauses : ∀ child ∈ (parts children).filter (·.tree.kind == "extends_type_clause"),
      (do return .heritageClause child.tree.line "extends" (← child.reading.heritageTypes) :
        Traced Node).Yields (·.TypedAs Node.isHeritageClause) := by
    intro child hchild
    have hreading := wellTyped_of_mem_parts h child (List.mem_filter.mp hchild).1
    refine hreading.heritageTypes.bind fun types htypes => Traced.yields_pure ?_
    exact heritageClause_typedAs htypes
  have hbody : (fieldOr children "body" [] Reading.members).Yields
      (∀ node ∈ ·, node.TypedAs Node.isMember) :=
    fieldOr_yields h (by simp) fun _ hreading => hreading.members
  refine (Traced.yields_all_map hclauses).bind fun heritage hheritage => ?_
  refine hbody.bind fun members hmembers => Traced.yields_pure (.of_fields rfl ?_)
  simpa [Node.fields, or_imp, forall_and] using ⟨hname, htypeParameters, hheritage, hmembers⟩

/-- A class of a complete tree is a statement. -/
lemma classOf_yields (source : ByteArray) (hcomplete : tree.Complete) :
    (classOf source tree children).Yields (·.TypedAs Node.isStatement) := by
  have hname := Tree.optionalIdentifier_typedAs source (tree.child? "name")
  have htypeParameters := Tree.declaredTypeParameters_typedAs source hcomplete
  have hclauses : ∀ child ∈ (parts children).filter (·.tree.kind == "class_heritage"),
      child.reading.classHeritage.Yields (∀ node ∈ ·, node.TypedAs Node.isHeritageClause) :=
    fun child hchild => (wellTyped_of_mem_parts h child (List.mem_filter.mp hchild).1).classHeritage
  have hbody : (fieldOr children "body" [] Reading.classMembers).Yields
      (∀ node ∈ ·, node.TypedAs Node.isMember) :=
    fieldOr_yields h (by simp) fun _ hreading => hreading.classMembers
  refine (Traced.yields_all_map hclauses).bind fun lists hlists => ?_
  have hheritage := List.forall_mem_flatten.mpr hlists
  refine hbody.bind fun members hmembers => Traced.yields_pure (.of_fields rfl ?_)
  generalize lists.flatten = heritage at hheritage
  simpa [Node.fields, or_imp, forall_and] using ⟨hname, htypeParameters, hheritage, hmembers⟩

/-- A node is the declaration of a variable or is left out. -/
lemma variableOf_yields (source : ByteArray) :
    (variableOf source tree children).Yields (∀ node ∈ ·, node.TypedAs Node.isVariableDecl) := by
  unfold variableOf
  split
  · refine (annotationIn_yields h "type").bind fun type htype => ?_
    refine Traced.yields_some (.of_fields rfl ?_)
    simpa [Node.fields] using ⟨Tree.optionalIdentifier_typedAs source _, htype⟩
  · exact Traced.yields_pure (by simp)

/-- A function of a complete tree is a statement. -/
lemma functionOf_yields (source : ByteArray) (hcomplete : tree.Complete) :
    (functionOf source tree children).Yields (·.TypedAs Node.isStatement) := by
  have htypeParameters := Tree.declaredTypeParameters_typedAs source hcomplete
  have hname : (Tree.optionalIdentifier source (tree.child? "name")).TypedAs
      (Node.omittable Node.isMemberName) := by
    cases tree.child? "name" with
    | none => exact .absent
    | some name => exact ⟨rfl, Node.TypedAs.identifier.wellTyped⟩
  refine (parametersIn_yields h).bind fun parameters hparameters => ?_
  refine (annotationIn_yields h "return_type").bind fun type htype => Traced.yields_pure ?_
  exact signature_typedAs rfl hname htype htypeParameters hparameters

omit h in
/-- Namespaces around a body are statements. -/
lemma nestNamespaces_typedAs {line : Line} {body : Node} {names : List Node}
    (hbody : body.TypedAs (Node.omittable Node.isBody))
    (hnames : ∀ name ∈ names, name.TypedAs Node.isNamespaceName) :
    (nestNamespaces line body names).TypedAs Node.isStatement := by
  refine nestNamespaces_induction (fun name hname => ?_) fun name hname first next hinner => ?_
  · have hname' : name.TypedAs (Node.omittable Node.isNamespaceName) := by
      rcases hname with rfl | hname
      · exact .absent
      · exact (hnames name hname).omittable
    exact .of_fields rfl (by simpa [Node.fields] using ⟨hname', hbody⟩)
  · have hinner' : (Node.namespaceDecl line first next).TypedAs (Node.omittable Node.isBody) :=
      ⟨rfl, hinner.wellTyped⟩
    have hname' := (hnames name hname).omittable
    exact .of_fields rfl (by simpa [Node.fields] using ⟨hname', hinner'⟩)

omit h in
/-- The names of a namespace are names. -/
lemma namespaceNames_typedAs (source : ByteArray) (tree : Tree) :
    ∀ name ∈ namespaceNames source tree, name.TypedAs Node.isNamespaceName := by
  unfold namespaceNames
  split
  · simp
  · split
    · exact List.forall_mem_singleton.mpr (.of_fields rfl fun _ hfield => nomatch hfield)
    · intro name hname
      obtain ⟨part, -, rfl⟩ := List.mem_map.mp hname
      exact ⟨rfl, Node.TypedAs.identifier.wellTyped⟩

/-- A namespace is a statement. -/
lemma namespaceOf_yields (source : ByteArray) :
    (namespaceOf source tree children).Yields (·.TypedAs Node.isStatement) := by
  have hnested : ∀ body : Node, body.TypedAs (Node.omittable Node.isBody) →
      (pure (nestNamespaces tree.line body (namespaceNames source tree)) : Traced Node).Yields
        (·.TypedAs Node.isStatement) := fun body hbody =>
    Traced.yields_pure (nestNamespaces_typedAs hbody (namespaceNames_typedAs source tree))
  unfold namespaceOf
  split
  case h_1 => exact hnested .absent .absent
  case h_2 child hchild =>
    have hreading := h child (List.mem_of_find?_eq_some hchild)
    refine hreading.statements.bind fun statements hall => hnested _ (.of_fields rfl ?_)
    simpa [Node.fields] using hall

omit h in
/-- An enumeration is a statement. -/
lemma enumOf_typedAs (source : ByteArray) (tree : Tree) :
    (enumOf source tree).TypedAs Node.isStatement := by
  have hname := Tree.optionalIdentifier_typedAs source (tree.child? "name")
  have hword : ∀ text, (Node.word text).TypedAs Node.isWord := fun text =>
    .of_fields rfl fun _ hfield => nomatch hfield
  refine .of_fields rfl (List.forall_mem_cons.mpr ⟨hname, fun field hfield => ?_⟩)
  obtain ⟨member, hmember, rfl⟩ := List.mem_map.mp hfield
  split at hmember
  · obtain ⟨part, -, rfl⟩ := List.mem_map.mp hmember
    exact hword _
  · cases hmember

/-- A node of a complete tree stands for statements. -/
lemma statementOf_yields (source : ByteArray) (hcomplete : tree.Complete) :
    (statementOf source tree children).Yields (∀ node ∈ ·, node.TypedAs Node.isStatement) := by
  have hone : ∀ {statement : Traced Node}, statement.Yields (·.TypedAs Node.isStatement) →
      (do return [← statement] : Traced (List Node)).Yields
        (∀ node ∈ ·, node.TypedAs Node.isStatement) := fun hstatement =>
    hstatement.bind fun node hnode => Traced.yields_singleton hnode
  have hskipped : ∀ notice : Notice, (do
      Traced.note notice
      return [] : Traced (List Node)).Yields (∀ node ∈ ·, node.TypedAs Node.isStatement) :=
    fun notice => (Traced.succeeds_note notice).bind fun _ _ => Traced.yields_pure (by simp)
  unfold statementOf
  split
  case h_1 | h_2 | h_3 | h_4 => exact gather_yields h fun _ hreading => hreading.statement
  case h_5 | h_6 => exact hone (namespaceOf_yields h source)
  case h_7 => exact hone (interfaceOf_yields h source hcomplete)
  case h_8 | h_9 | h_10 => exact hone (classOf_yields h source hcomplete)
  case h_11 =>
    have hname := Tree.optionalIdentifier_typedAs source (tree.child? "name")
    have htypeParameters := Tree.declaredTypeParameters_typedAs source hcomplete
    refine (typeIn_yields h "value").bind fun type htype => ?_
    refine Traced.yields_singleton (.of_fields rfl ?_)
    simpa [Node.fields] using ⟨hname, htype, htypeParameters⟩
  case h_12 | h_13 =>
    have hvariables := gatherSome_yields h fun _ hreading => hreading.variableDecl
    refine hvariables.bind fun declarations hall => ?_
    refine Traced.yields_singleton (.of_fields rfl ?_)
    simpa [Node.fields] using hall
  case h_14 | h_15 => exact hone (functionOf_yields h source hcomplete)
  case h_16 =>
    exact Traced.yields_singleton (enumOf_typedAs source tree)
  case h_17 | h_18 => exact hskipped _

/-- **The step of reading.**  A complete node whose children are read well is read well. -/
lemma wellTyped_ofChildren (source : ByteArray) (hcomplete : tree.Complete)
    (hparts : (parts children).map Child.tree = tree.parts) :
    (ofChildren source tree children).WellTyped where
  type := typeOf_yields h source hcomplete hparts
  annotation := annotationOf_yields h source hcomplete hparts
  types := gatherEach_yields h fun _ hreading => hreading.type
  arms := unionArms_yields h
  statement := statementOf_yields h source hcomplete
  statements := gather_yields h fun _ hreading => hreading.statement
  member := memberOf_yields h source hcomplete false
  classMember := memberOf_yields h source hcomplete true
  members := gatherSome_yields h fun _ hreading => hreading.member
  classMembers := gatherSome_yields h fun _ hreading => hreading.classMember
  parameter := parameterOf_yields h source hcomplete
  parameters := gatherSome_yields h fun _ hreading => hreading.parameter
  heritageType := heritageTypeOf_yields h source
  heritageTypes := gatherEach_yields h fun _ hreading => hreading.heritageType
  extendedTypes :=
    extendedTypesFrom_yields (wellTyped_of_mem_parts h) source none fun _ hentry => nomatch hentry
  classHeritage := classHeritageOf_yields h
  variableDecl := variableOf_yields h source

end Children

end Reading

/-- **Readings of complete trees are well typed.** -/
theorem Tree.Complete.wellTyped_reading {tree : Tree} (h : tree.Complete) (source : ByteArray) :
    (tree.reading source).WellTyped := by
  induction tree using Tree.induction with
  | node tree ih =>
    rw [Tree.reading_eq]
    refine Reading.wellTyped_ofChildren ?_ source h ?_
    · intro child hchild
      rw [childReadings_eq_map] at hchild
      obtain ⟨inner, hinner, rfl⟩ := List.mem_map.mp hchild
      exact ih inner hinner (h.child hinner)
    · rw [Reading.parts_childReadings, List.map_map]
      exact List.map_id _

/-- **Complete trees always have bindings.**  Every node of a complete tree can be read, its
statements are well typed at any depth, and the declaration file that they make has a record, which
is printed as its bindings, under every path and whatever name the library is given, if any. -/
theorem complete_bindings (source : ByteArray) (tree : Tree) (h : tree.Complete) :
    ∃ statements, (tree.statements source).outcome = .ok statements ∧
      (∀ statement ∈ statements, statement.TypedAs Node.isStatement) ∧
      ∀ (line : Line) (path : String) (name : Option String), ∃ module : Model.Module,
        (Model.fileOf (.sourceFile line path statements) name).outcome = .ok module ∧
        module.print.outcome = .ok module.text ∧
        (bindingsOf (.sourceFile line path statements) name).outcome = .ok module.text := by
  obtain ⟨statements, hstatements, htyped⟩ := (h.wellTyped_reading source).statements
  refine ⟨statements, hstatements, htyped, fun line path name => ?_⟩
  have hfile : (Node.sourceFile line path statements).WellTyped := by
    refine Node.wellTyped_iff.mpr ?_
    simpa [Node.fields] using htyped
  obtain ⟨module, hmodule, hbindings⟩ := Model.exists_bindingsOf hfile name
  exact ⟨module, hmodule, rfl, hbindings⟩

/-- A source text with an alias that has no name, after something that cannot be parsed. -/
def brokenSource : String := "@@@ type <T> = (...[]) => ?[]"

/-- A parse tree of the source text. -/
def brokenTree : Tree :=
  .node "program" true none 0 29 0
    [.node "ERROR" true none 0 3 0 [],
      .node "type_alias_declaration" true none 4 29 0
        [.node "type_parameters" true (some "type_parameters") 9 12 0
            [.node "type_parameter" true none 10 11 0
              [.node "type_identifier" true (some "name") 10 11 0 []]],
          .node "function_type" true (some "value") 15 29 0
            [.node "formal_parameters" true (some "parameters") 15 22 0
                [.node "required_parameter" true none 16 21 0
                  [.node "rest_pattern" true (some "pattern") 16 21 0
                    [.node "array_pattern" true none 19 21 0 []]]],
              .node "array_type" true (some "return_type") 26 29 0
                [.node "ERROR" true none 26 27 0 []]]]]

/-- The broken source text has bindings. -/
theorem complete_brokenTree :
    brokenTree.Complete ∧
    ∃ statements, (brokenTree.statements brokenSource.toUTF8).outcome = .ok statements ∧
      (∀ statement ∈ statements, statement.TypedAs Node.isStatement) ∧
      ∀ (line : Line) (path : String) (name : Option String), ∃ module : Model.Module,
        (Model.fileOf (.sourceFile line path statements) name).outcome = .ok module ∧
        module.print.outcome = .ok module.text ∧
        (bindingsOf (.sourceFile line path statements) name).outcome = .ok module.text :=
  have hcomplete : brokenTree.Complete := by decide
  ⟨hcomplete, complete_bindings brokenSource.toUTF8 brokenTree hcomplete⟩

end ReasonBindings
