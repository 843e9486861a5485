import ReasonBindings.Bindings
import ReasonBindings.Proofs.Model.Interfaces
import ReasonBindings.Proofs.ParseTree.Reading

/-!
# Constructors and makers of parsed files

Whether a method is a constructor is decided when a parse tree is read: it has to
stand directly in the body of a class and to be called `constructor`.  In an object
type the same method is a plain one, also when the object type stands inside a class.
So an interface that is built from a parse tree either is the record of a class, which
has constructors and no maker, or it has a maker and no constructors.
-/

namespace ReasonBindings

open Model Syntax

/-! ### Classes and their constructors -/

namespace Tree

/-- The declaration of a class. -/
def isClass (tree : Tree) : Bool :=
  ["class_declaration", "abstract_class_declaration", "class"].contains tree.kind

/-- The parts of the body of a declaration. -/
def bodyParts (tree : Tree) : List Tree :=
  match tree.child? "body" with
  | some body => body.parts
  | none => []

/-- A method that is called `constructor`. -/
def namesConstructor (source : ByteArray) (tree : Tree) : Bool :=
  ["method_signature", "abstract_method_signature", "method_definition"].contains tree.kind &&
    (tree.child? "name").any (·.text source == "constructor")

end Tree

/-- The declaration of a class. -/
def Syntax.Node.isClass : Node → Bool
  | .classDecl .. => true
  | _ => false

/-- An object type, if the node is one, has no constructors. -/
def Syntax.Node.IsPlain (node : Node) : Prop :=
  ∀ line members, node = .objectType line members → ∀ member ∈ members,
    member.isConstructor = false

/-- The node of a parse tree is read as the given member of a class. -/
def Tree.ReadsAsMember (source : ByteArray) (tree : Tree) (member : Node) : Prop :=
  (tree.reading source).classMember.outcome = .ok (some member)

namespace Reading

variable {source : ByteArray} {tree : Tree}

/-- A method is a constructor when it is called one and stands in a class. -/
lemma isConstructor_of_methodOf {children : List Child} {inClass : Bool} {result : Option Node}
    (h : (methodOf source tree children inClass).outcome = .ok result) :
    result.any Node.isConstructor =
      (inClass && (tree.child? "name").any (·.text source == "constructor")) := by
  obtain ⟨parameters, -, h⟩ := Traced.bind_outcome_eq_ok.mp h
  split at h
  case isTrue hconstructor =>
    obtain rfl := Traced.pure_outcome_eq_ok.mp h
    exact hconstructor.symm
  case isFalse hplain =>
    obtain ⟨type, -, rfl⟩ := Traced.bind_pure_outcome_eq_ok.mp h
    rw [Bool.eq_false_iff.mpr hplain]
    split <;> rfl

/-- A node is read as a constructor when it is called one and stands in a class. -/
lemma isConstructor_of_memberOf {children : List Child} {inClass : Bool} {result : Option Node}
    (h : (memberOf source tree children inClass).outcome = .ok result) :
    result.any Node.isConstructor = (inClass && tree.namesConstructor source) := by
  have other : tree.namesConstructor source = false → result.any Node.isConstructor = false →
      result.any Node.isConstructor = (inClass && tree.namesConstructor source) := by
    intro hname hresult
    rw [hname, hresult, Bool.and_false]
  unfold memberOf at h
  split at h
  case h_1 hkind | h_2 hkind =>
    obtain ⟨type, -, rfl⟩ := Traced.bind_pure_outcome_eq_ok.mp h
    exact other (by simp [Tree.namesConstructor, hkind]) rfl
  case h_3 hkind | h_4 hkind | h_5 hkind =>
    have hname : tree.namesConstructor source =
        (tree.child? "name").any (·.text source == "constructor") := by
      simp [Tree.namesConstructor, hkind]
    rw [hname]
    exact isConstructor_of_methodOf h
  case h_6 hkind | h_7 hkind =>
    obtain ⟨parameters, -, h⟩ := Traced.bind_outcome_eq_ok.mp h
    obtain ⟨type, -, rfl⟩ := Traced.bind_pure_outcome_eq_ok.mp h
    exact other (by simp [Tree.namesConstructor, hkind]) rfl
  case h_8 hkind =>
    have hplain : result.any Node.isConstructor = false := by
      unfold indexOf at h
      split at h
      · obtain ⟨keyType, -, h⟩ := Traced.bind_outcome_eq_ok.mp h
        obtain ⟨type, -, rfl⟩ := Traced.bind_pure_outcome_eq_ok.mp h
        rfl
      · obtain ⟨type, -, rfl⟩ := Traced.bind_pure_outcome_eq_ok.mp h
        rfl
    exact other (by simp [Tree.namesConstructor, hkind]) hplain
  case h_9 =>
    obtain ⟨-, -, rfl⟩ := Traced.bind_pure_outcome_eq_ok.mp h
    exact other (by simp_all [Tree.namesConstructor]) rfl

/-- No member of an interface or an object type is a constructor. -/
lemma isConstructor_of_members {nodes : List Node}
    (h : (gatherSome (childReadings source tree.children) Reading.member).outcome = .ok nodes) :
    ∀ member ∈ nodes, member.isConstructor = false := by
  obtain ⟨options, hoptions, rfl⟩ := gatherSome_outcome_eq_ok.mp h
  intro member hmember
  obtain ⟨option, hoption, rfl⟩ := List.mem_filterMap.mp hmember
  obtain ⟨part, -, hread⟩ := exists_left_of_mem hoptions hoption
  rw [Tree.reading_eq] at hread
  exact isConstructor_of_memberOf hread

/-- The constructors among the members of a class are what the methods called `constructor` in its
body are read as. -/
lemma constructors_of_classMembers {nodes : List Node}
    (h : (gatherSome (childReadings source tree.children) Reading.classMember).outcome =
      .ok nodes) :
    List.Forall₂ (Tree.ReadsAsMember source)
      (tree.parts.filter (·.namesConstructor source)) (nodes.filter Node.isConstructor) := by
  refine forall₂_filter_of_gatherSome (fun part result hread => ?_) h
  rw [Tree.reading_eq] at hread
  exact isConstructor_of_memberOf hread

/-! ### Types -/

/-- The first part of a node is plain when all parts are. -/
lemma isPlain_of_firstType {node : Node}
    (hparts : ∀ part ∈ tree.parts, ∀ type, (part.reading source).type.outcome = .ok type →
      type.IsPlain)
    (h : (firstType (childReadings source tree.children)).outcome = .ok node) : node.IsPlain := by
  unfold firstType at h
  rw [parts_childReadings] at h
  cases hfirst : tree.parts with
  | nil =>
    rw [hfirst] at h
    exact absurd h Traced.fault_outcome_ne_ok
  | cons first others =>
    rw [hfirst] at h
    exact hparts first (by simp [hfirst]) node h

/-- An object type that is read has no constructors. -/
lemma isPlain_of_type {node : Node} (h : (tree.reading source).type.outcome = .ok node) :
    node.IsPlain := by
  induction tree using Tree.induction generalizing node with
  | node tree ih =>
    have hparts : ∀ part ∈ tree.parts, ∀ type, (part.reading source).type.outcome = .ok type →
        type.IsPlain := fun part hpart type =>
      ih part (Tree.mem_children_of_mem_parts hpart)
    rw [Tree.reading_eq] at h
    change (typeOf source tree (childReadings source tree.children)).outcome = .ok node at h
    unfold typeOf at h
    split at h
    case h_10 => exact isPlain_of_firstType hparts h
    case h_13 =>
      obtain ⟨members, hmembers, rfl⟩ := Traced.bind_pure_outcome_eq_ok.mp h
      rintro line _ ⟨⟩
      exact isConstructor_of_members hmembers
    case h_6 =>
      obtain ⟨parameters, -, h⟩ := Traced.bind_outcome_eq_ok.mp h
      obtain ⟨result, -, rfl⟩ := Traced.bind_pure_outcome_eq_ok.mp h
      rintro _ _ ⟨⟩
    case h_4 | h_5 | h_7 | h_8 | h_9 =>
      obtain ⟨_, -, rfl⟩ := Traced.bind_pure_outcome_eq_ok.mp h
      rintro _ _ ⟨⟩
    case h_12 =>
      obtain rfl := Traced.pure_outcome_eq_ok.mp h
      unfold literalType
      split
      · rintro _ _ ⟨⟩
      · split <;> rintro _ _ ⟨⟩
    all_goals
      obtain rfl := Traced.pure_outcome_eq_ok.mp h
      rintro _ _ ⟨⟩

/-- An object type that is read as an annotation has no constructors. -/
lemma isPlain_of_annotation {node : Node}
    (h : ( Reading.annotation (tree.reading source)).outcome = .ok node) : node.IsPlain := by
  rw [Tree.reading_eq] at h
  change (annotationOf source tree (childReadings source tree.children)).outcome = .ok node at h
  unfold annotationOf at h
  split at h
  · rw [parts_childReadings] at h
    cases hfirst : tree.parts with
    | nil =>
      rw [hfirst] at h
      obtain rfl := Traced.pure_outcome_eq_ok.mp h
      rintro _ _ ⟨⟩
    | cons first others =>
      rw [hfirst] at h
      have htype : (first.reading source).type.outcome = .ok node := h
      exact isPlain_of_type htype
  · have htype : (tree.reading source).type.outcome = .ok node := by
      rw [Tree.reading_eq]
      exact h
    exact isPlain_of_type htype

/-- The type in a field is plain. -/
lemma isPlain_of_typeIn {field : String} {node : Node}
    (h : (typeIn (childReadings source tree.children) field).outcome = .ok node) :
    node.IsPlain := by
  rw [typeIn, fieldOr_childReadings] at h
  split at h
  · exact isPlain_of_type h
  · obtain rfl := Traced.pure_outcome_eq_ok.mp h
    rintro _ _ ⟨⟩

/-- The annotation in a field is plain. -/
lemma isPlain_of_annotationIn {field : String} {node : Node}
    (h : (annotationIn (childReadings source tree.children) field).outcome = .ok node) :
    node.IsPlain := by
  rw [annotationIn, fieldOr_childReadings] at h
  split at h
  · exact isPlain_of_annotation h
  · obtain rfl := Traced.pure_outcome_eq_ok.mp h
    rintro _ _ ⟨⟩

end Reading

/-! ### Shapes that are read -/

/-- A shape that the statements of a tree declare: a class of the tree, whose constructors are what
the methods called `constructor` in its body are read as, or something else, which has none. -/
inductive Model.Shape.ReadFrom (source : ByteArray) (tree : Tree) (shape : Shape) : Prop
  | ofClass {declaration : Tree} : declaration ∈ tree.subtrees → declaration.isClass = true →
    (declaration.reading source).statement.outcome = .ok [shape.declaration] →
    shape.kind = .classLike →
    List.Forall₂ (Tree.ReadsAsMember source)
      (declaration.bodyParts.filter (·.namesConstructor source))
      (shape.members.filter Node.isConstructor) → ReadFrom source tree shape
  | other : shape.kind = .interfaceLike → shape.declaration.isClass = false →
    (∀ member ∈ shape.members, member.isConstructor = false) → ReadFrom source tree shape

/-- What is read from a child of a tree is read from the tree. -/
lemma Model.Shape.ReadFrom.of_child {source : ByteArray} {tree child : Tree} {shape : Shape}
    (h : shape.ReadFrom source child) (hchild : child ∈ tree.children) :
    shape.ReadFrom source tree := by
  cases h with
  | ofClass hdeclaration hclass hread hkind hmembers =>
    have hnode := Tree.mem_subtrees.mpr (Or.inr ⟨child, hchild, hdeclaration⟩)
    exact .ofClass hnode hclass hread hkind hmembers
  | other hkind hclass hmembers => exact .other hkind hclass hmembers

namespace Reading

variable {source : ByteArray} {tree : Tree}

/-- A class that is read is a single class declaration, whose shape is read from the tree. -/
lemma readFrom_of_class {nodes : List Node} (hclass : tree.isClass = true)
    (h : (tree.reading source).statement.outcome = .ok nodes) :
    ∃ node, nodes = [node] ∧ node.isClass = true ∧
      ∀ shape ∈ shapes node, shape.ReadFrom source tree := by
  have hread := h
  rw [Tree.reading_eq] at h
  change (statementOf source tree (childReadings source tree.children)).outcome = .ok nodes at h
  have hstatement : statementOf source tree (childReadings source tree.children) = (do
      return [← classOf source tree (childReadings source tree.children)]) := by
    have hkind : tree.kind = "class_declaration" ∨ tree.kind = "abstract_class_declaration" ∨
        tree.kind = "class" := by simpa [Tree.isClass] using hclass
    unfold statementOf
    rcases hkind with hkind | hkind | hkind <;> rw [hkind] <;> rfl
  rw [hstatement] at h
  obtain ⟨node, hnode, rfl⟩ := Traced.bind_pure_outcome_eq_ok.mp h
  obtain ⟨heritage, -, hnode⟩ := Traced.bind_outcome_eq_ok.mp hnode
  obtain ⟨members, hmembers, rfl⟩ := Traced.bind_pure_outcome_eq_ok.mp hnode
  refine ⟨_, rfl, rfl, List.forall_mem_singleton.mpr ?_⟩
  refine .ofClass (Tree.mem_subtrees.mpr (Or.inl rfl)) hclass hread rfl ?_
  rw [fieldOr_childReadings] at hmembers
  unfold Tree.bodyParts
  cases hbody : tree.child? "body" with
  | some body =>
    rw [hbody] at hmembers
    have hread' : (body.reading source).classMembers.outcome = .ok members := hmembers
    rw [Tree.reading_eq] at hread'
    exact constructors_of_classMembers hread'
  | none =>
    rw [hbody] at hmembers
    obtain rfl := Traced.pure_outcome_eq_ok.mp hmembers
    exact .nil

/-- An interface that is read has no constructors. -/
lemma readFrom_of_interfaceOf {node : Node}
    (h : (interfaceOf source tree (childReadings source tree.children)).outcome = .ok node) :
    ∀ shape ∈ allShapes [node], shape.ReadFrom source tree := by
  obtain ⟨heritage, -, hnode⟩ := Traced.bind_outcome_eq_ok.mp h
  obtain ⟨members, hmembers, rfl⟩ := Traced.bind_pure_outcome_eq_ok.mp hnode
  rw [allShapes_simple rfl]
  refine List.forall_mem_singleton.mpr (.other rfl rfl ?_)
  rw [fieldOr_childReadings] at hmembers
  split at hmembers
  · rw [Tree.reading_eq] at hmembers
    exact isConstructor_of_members hmembers
  · obtain rfl := Traced.pure_outcome_eq_ok.mp hmembers
    simp

/-- An alias of a plain type has no constructors. -/
lemma readFrom_of_alias {line : Line} {name type : Node} {typeParameters : List Node}
    (htype : type.IsPlain) :
    ∀ shape ∈ allShapes [.aliasDecl line name typeParameters type],
      shape.ReadFrom source tree := by
  rw [allShapes_simple rfl]
  cases type with
  | objectType typeLine members =>
    exact List.forall_mem_singleton.mpr (.other rfl rfl (htype typeLine members rfl))
  | _ => exact List.forall_mem_singleton.mpr (.other rfl rfl (by simp))

/-- The object types of variables that are read have no constructors. -/
lemma readFrom_of_variables {line : Line} {declarations : List Node}
    (h : (gatherSome (childReadings source tree.children) Reading.variableDecl).outcome =
      .ok declarations) :
    ∀ shape ∈ allShapes [.variableStatement line declarations], shape.ReadFrom source tree := by
  obtain ⟨options, hoptions, rfl⟩ := gatherSome_outcome_eq_ok.mp h
  rw [allShapes_simple rfl]
  intro shape hshape
  obtain ⟨declaration, hdeclaration, hinline⟩ := List.mem_filterMap.mp hshape
  obtain ⟨option, hoption, rfl⟩ := List.mem_filterMap.mp hdeclaration
  obtain ⟨part, -, hread⟩ := exists_left_of_mem hoptions hoption
  rw [Tree.reading_eq] at hread
  change (variableOf source part (childReadings source part.children)).outcome = _ at hread
  unfold variableOf at hread
  split at hread
  · obtain ⟨type, htype, hsome⟩ := Traced.bind_pure_outcome_eq_ok.mp hread
    obtain rfl := Option.some.inj hsome
    have hplain : type.IsPlain := isPlain_of_annotationIn htype
    unfold inlineShape? at hinline
    split at hinline
    case h_1 typeLine members hobject =>
      obtain rfl := Option.some.inj hinline
      exact .other rfl rfl (hplain typeLine members (Option.some.inj hobject))
    case h_2 => cases hinline
  · cases Traced.pure_outcome_eq_ok.mp hread

/-- Namespaces around a body declare what the body declares. -/
lemma allShapes_nestNamespaces (line : Line) (body : Node) (names : List Node) :
    allShapes [nestNamespaces line body names] = bodyShapes body := by
  refine nestNamespaces_induction (motive := fun node => allShapes [node] = bodyShapes body)
    (fun name _ => ?_) fun name _ first next hinner => ?_
  · exact allShapes_namespaceDecl line name body
  · rw [allShapes_namespaceDecl] at hinner ⊢
    exact hinner

/-- A namespace that is read declares what its statements declare. -/
lemma readFrom_of_namespaceOf {node : Node}
    (hbody : ∀ body ∈ tree.child? "body", ∀ nodes,
      (body.reading source).statements.outcome = .ok nodes →
        ∀ shape ∈ allShapes nodes, shape.ReadFrom source tree)
    (h : (namespaceOf source tree (childReadings source tree.children)).outcome = .ok node) :
    ∀ shape ∈ allShapes [node], shape.ReadFrom source tree := by
  unfold namespaceOf at h
  rw [child?_childReadings] at h
  cases hchild : tree.child? "body" with
  | none =>
    rw [hchild] at h
    obtain rfl := Traced.pure_outcome_eq_ok.mp h
    rw [allShapes_nestNamespaces]
    exact fun _ hshape => nomatch hshape
  | some body =>
    rw [hchild] at h
    obtain ⟨statements, hstatements, rfl⟩ := Traced.bind_pure_outcome_eq_ok.mp h
    rw [allShapes_nestNamespaces]
    exact hbody body hchild statements hstatements

/-- What the parts of a tree declare is declared in the tree. -/
lemma readFrom_of_gather {nodes : List Node}
    (hparts : ∀ part ∈ tree.children, ∀ nodes,
      (part.reading source).statement.outcome = .ok nodes →
        ∀ shape ∈ allShapes nodes, shape.ReadFrom source part)
    (h : (gather (childReadings source tree.children) Reading.statement).outcome = .ok nodes) :
    ∀ shape ∈ allShapes nodes, shape.ReadFrom source tree := by
  obtain ⟨lists, hlists, rfl⟩ := gather_outcome_eq_ok.mp h
  intro shape hshape
  obtain ⟨list, hlist, hinside⟩ := mem_allShapes_flatten.mp hshape
  obtain ⟨part, hpart, hread⟩ := exists_left_of_mem hlists hlist
  have hchild := Tree.mem_children_of_mem_parts hpart
  exact (hparts part hchild list hread shape hinside).of_child hchild

/-- **Shapes of parsed files.**  What a node declares, as a statement and through the statements in
it, is read from the node. -/
theorem readFrom_of_statement (source : ByteArray) (tree : Tree) :
    (∀ nodes, (tree.reading source).statement.outcome = .ok nodes →
      ∀ shape ∈ allShapes nodes, shape.ReadFrom source tree) ∧
    ∀ nodes, (tree.reading source).statements.outcome = .ok nodes →
      ∀ shape ∈ allShapes nodes, shape.ReadFrom source tree := by
  induction tree using Tree.induction with
  | node tree ih =>
    have hparts := fun part hpart => (ih part hpart).1
    constructor
    · intro nodes h
      by_cases hclass : tree.isClass = true
      · obtain ⟨node, rfl, hnode, hshapes⟩ := readFrom_of_class hclass h
        have hbody : node.body? = none := by
          cases node with
          | classDecl => rfl
          | _ => cases hnode
        rw [allShapes_simple hbody]
        exact hshapes
      · rw [Tree.reading_eq] at h
        change (statementOf source tree (childReadings source tree.children)).outcome = _ at h
        unfold statementOf at h
        split at h
        case h_1 | h_2 | h_3 | h_4 => exact readFrom_of_gather hparts h
        case h_5 | h_6 =>
          obtain ⟨node, hnode, rfl⟩ := Traced.bind_pure_outcome_eq_ok.mp h
          refine readFrom_of_namespaceOf (fun body hbody nodes hnodes shape hshape => ?_) hnode
          have hchild := Tree.mem_children_of_child? hbody
          exact ((ih body hchild).2 nodes hnodes shape hshape).of_child hchild
        case h_7 =>
          obtain ⟨node, hnode, rfl⟩ := Traced.bind_pure_outcome_eq_ok.mp h
          exact readFrom_of_interfaceOf hnode
        case h_8 hkind | h_9 hkind | h_10 hkind => simp [Tree.isClass, hkind] at hclass
        case h_11 =>
          obtain ⟨type, htype, rfl⟩ := Traced.bind_pure_outcome_eq_ok.mp h
          exact readFrom_of_alias (isPlain_of_typeIn htype)
        case h_12 | h_13 =>
          obtain ⟨declarations, hdeclarations, rfl⟩ := Traced.bind_pure_outcome_eq_ok.mp h
          exact readFrom_of_variables hdeclarations
        case h_14 | h_15 =>
          obtain ⟨node, hnode, rfl⟩ := Traced.bind_pure_outcome_eq_ok.mp h
          obtain ⟨parameters, -, hnode⟩ := Traced.bind_outcome_eq_ok.mp hnode
          obtain ⟨type, -, rfl⟩ := Traced.bind_pure_outcome_eq_ok.mp hnode
          exact fun _ hshape => nomatch hshape
        case h_16 =>
          obtain rfl := Traced.pure_outcome_eq_ok.mp h
          exact fun _ hshape => nomatch hshape
        case h_17 | h_18 =>
          obtain ⟨-, -, rfl⟩ := Traced.bind_pure_outcome_eq_ok.mp h
          exact fun _ hshape => nomatch hshape
    · intro nodes h
      rw [Tree.reading_eq] at h
      exact readFrom_of_gather hparts h

end Reading

/-! ### Interfaces of parsed files -/

/-- The interface is the record of a class declaration of the tree: it has no maker, and its
constructors are the records of the methods called `constructor` in the body of the class. -/
def Model.Interface.RecordsClass (source : ByteArray) (tree : Tree) (shape : Shape)
    (interface : Interface) : Prop :=
  interface.kind = .classLike ∧ (∀ method ∈ interface.methods, method.maker = false) ∧
  ∃ declaration ∈ tree.subtrees, declaration.isClass = true ∧
    (declaration.reading source).statement.outcome = .ok [shape.declaration] ∧
    List.Forall₂ (fun part method => ∃ member, part.ReadsAsMember source member ∧
      method.Constructs member)
      (declaration.bodyParts.filter (·.namesConstructor source))
      (interface.methods.filter (·.ctor))

/-- The interface is the record of something that is no class declaration of any tree: it ends in
its only maker and has no constructors. -/
def Model.Interface.RecordsOther (source : ByteArray) (shape : Shape) (interface : Interface) :
    Prop :=
  interface.kind = .interfaceLike ∧ interface.EndsInMaker ∧
  (∀ method ∈ interface.methods, method.ctor = false) ∧
  ∀ declaration : Tree, declaration.isClass = true →
    (declaration.reading source).statement.outcome ≠ .ok [shape.declaration]

/-- The record of a class that is read has its constructors and no maker. -/
lemma Model.Interface.Records.recordsClass {source : ByteArray} {tree declaration : Tree}
    {shape : Shape} {interface : Interface} (h : interface.Records shape)
    (hkind : shape.kind = .classLike) (hdeclaration : declaration ∈ tree.subtrees)
    (hclass : declaration.isClass = true)
    (hread : (declaration.reading source).statement.outcome = .ok [shape.declaration])
    (hmembers : List.Forall₂ (Tree.ReadsAsMember source)
      (declaration.bodyParts.filter (·.namesConstructor source))
      (shape.members.filter Node.isConstructor)) :
    interface.RecordsClass source tree shape := by
  have hconstructors := forall₂_comp hmembers h.constructors
  exact ⟨h.kind_eq.trans hkind, h.maker_of_class hkind, declaration, hdeclaration, hclass, hread,
    hconstructors⟩

/-- The record of anything else that is read has a maker and no constructors. -/
lemma Model.Interface.Records.recordsOther (source : ByteArray) {shape : Shape}
    {interface : Interface} (h : interface.Records shape) (hkind : shape.kind = .interfaceLike)
    (hdeclaration : shape.declaration.isClass = false)
    (hmembers : ∀ member ∈ shape.members, member.isConstructor = false) :
    interface.RecordsOther source shape := by
  refine ⟨h.kind_eq.trans hkind, h.endsInMaker hkind, fun method hmethod => ?_, ?_⟩
  · have hnone : shape.members.filter Node.isConstructor = [] :=
      List.filter_eq_nil_iff.mpr fun member hmember => by simp [hmembers member hmember]
    have hconstructors := h.constructors
    rw [hnone, List.forall₂_nil_left_iff, List.filter_eq_nil_iff] at hconstructors
    exact Bool.eq_false_iff.mpr (hconstructors method hmethod)
  · intro declaration hclass hread
    obtain ⟨node, hnode, hisClass, -⟩ := Reading.readFrom_of_class hclass hread
    obtain rfl := List.singleton_inj.mp hnode
    rw [hdeclaration] at hisClass
    cases hisClass

/-- **Makers and constructors never mix.**  Each interface that is built from a parse tree, at any
depth, either is the record of a class declaration of the tree, without a maker and with the
constructors that stand directly in the body of the class, or is the record of something else,
without constructors and with its only maker at the end.  Nothing else that is built is a
constructor. -/
theorem makers_constructors_apart {source : ByteArray} {tree : Tree} {statements : List Node}
    {line : Line} {path : String} {name : Option String} {module : Module}
    (hread : (tree.statements source).outcome = .ok statements)
    (hbuilt : (fileOf (.sourceFile line path statements) name).outcome = .ok module) :
    List.Forall₂ (fun shape interface => interface.Records shape ∧
      (interface.RecordsClass source tree shape ∨ interface.RecordsOther source shape))
      (allShapes statements) module.allInterfaces ∧
    ∀ method ∈ module.allMethods, method.ctor = true →
      ∃ interface ∈ module.allInterfaces, interface.kind = .classLike ∧
        method ∈ interface.methods := by
  obtain ⟨root, hstems⟩ := stemsFrom_of_fileOf hbuilt
  have hrecords := hstems.records
  have hread' := (Reading.readFrom_of_statement source tree).2 statements hread
  have hlaw : List.Forall₂ (fun shape interface => interface.Records shape ∧
      (interface.RecordsClass source tree shape ∨ interface.RecordsOther source shape))
      (allShapes statements) module.allInterfaces := by
    refine ((List.forall₂_and_left _ _).mpr ⟨hread', hrecords⟩).imp fun shape interface hpair => ?_
    obtain ⟨hshape, hrecord⟩ := hpair
    refine ⟨hrecord, ?_⟩
    cases hshape with
    | ofClass hdeclaration hclass hstatement hkind hmembers =>
      exact Or.inl (hrecord.recordsClass hkind hdeclaration hclass hstatement hmembers)
    | other hkind hnode hmembers =>
      exact Or.inr (hrecord.recordsOther source hkind hnode hmembers)
  refine ⟨hlaw, fun method hmem hctor => ?_⟩
  obtain ⟨interface, hinterface, hmethod⟩ := hstems.exists_interface method hmem hctor
  obtain ⟨shape, -, -, hclass | hother⟩ := exists_left_of_mem hlaw hinterface
  · exact ⟨interface, hinterface, hclass.1, hmethod⟩
  · rw [hother.2.2.1 method hmethod] at hctor
    cases hctor

/-- A class with a constructor, and an alias of an object type with a method of the same name. -/
def constructorSource : String := "class A{constructor()}type B={constructor()}"

/-- The parse tree of the source text. -/
def constructorTree : Tree :=
  .node "program" true none 0 44 0
    [.node "class_declaration" true none 0 22 0
      [.node "type_identifier" true (some "name") 6 7 0 [],
        .node "class_body" true (some "body") 7 22 0
          [.node "method_signature" true none 8 21 0
            [.node "property_identifier" true (some "name") 8 19 0 [],
              .node "formal_parameters" true (some "parameters") 19 21 0 []]]],
      .node "type_alias_declaration" true none 22 44 0
        [.node "type_identifier" true (some "name") 27 28 0 [],
          .node "object_type" true (some "value") 29 44 0
            [.node "method_signature" true none 30 43 0
              [.node "property_identifier" true (some "name") 30 41 0 [],
                .node "formal_parameters" true (some "parameters") 41 43 0 []]]]]

/-- The statements of the parse tree. -/
def constructorStatements : List Node :=
  [.classDecl (some 1) (.identifier (some 1) "A") [] []
      [.signature .constructor (some 1) .absent .absent false [] [] []] [],
    .aliasDecl (some 1) (.identifier (some 1) "B") []
      (.objectType (some 1) [.signature .methodSignature (some 1)
        (.identifier (some 1) "constructor") .absent false [] [] []])]

/-- The record of the statements. -/
def constructorModule : Module where
  name := "index"
  interfaces := [
    { name := "A"
      kind := .classLike
      methods := [{ name := "make", type := "'a", ctor := true, owner := "A" }] },
    { name := "B"
      methods := [{ name := "constructor", type := "'a", owner := "B" },
        { name := "make", type := "t", static := true, maker := true, owner := "B" }] }]

/-- The class has a constructor and no maker, and the alias has a maker and no constructor. -/
theorem makers_constructors_apart_sample :
    (constructorTree.statements constructorSource.toUTF8).outcome = .ok constructorStatements ∧
    (fileOf (.sourceFile none "index.d.ts" constructorStatements) none).outcome =
      .ok constructorModule ∧
    List.Forall₂ (fun shape interface => interface.Records shape ∧
      (interface.RecordsClass constructorSource.toUTF8 constructorTree shape ∨
        interface.RecordsOther constructorSource.toUTF8 shape))
      (allShapes constructorStatements) constructorModule.allInterfaces ∧
    ∀ method ∈ constructorModule.allMethods, method.ctor = true →
      ∃ interface ∈ constructorModule.allInterfaces, interface.kind = .classLike ∧
        method ∈ interface.methods :=
  have hread : (constructorTree.statements constructorSource.toUTF8).outcome =
      .ok constructorStatements := by with_unfolding_all rfl
  have hbuilt : (fileOf (.sourceFile none "index.d.ts" constructorStatements) none).outcome =
      .ok constructorModule := rfl
  ⟨hread, hbuilt, makers_constructors_apart hread hbuilt⟩

end ReasonBindings
