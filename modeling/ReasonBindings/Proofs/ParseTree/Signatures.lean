import ReasonBindings.Proofs.Model.Signatures
import ReasonBindings.Proofs.ParseTree.Constructors
import ReasonBindings.Proofs.ParseTree.DottedNamespaces

/-!
# Signatures in parse trees

A signature of a parse tree is declared when it is a function among the statements, or a member
that is called in the body of a class or an interface, or in an object type that an alias
or a variable is declared with; all of this at any depth of namespaces and of constructs that
stand for the statements in them.

Each signature that a tree declares is read as a signature that the statements of the tree
declare, and there are no others.  So the methods that are built, but for makers, are the
records of the signatures that the tree declares.
-/

namespace ReasonBindings

open Model Syntax

/-! ### Declared signatures -/

namespace Tree

/-- The declaration of a function. -/
def isFunction (tree : Tree) : Bool :=
  ["function_signature", "function_declaration"].contains tree.kind

/-- A member that is called. -/
def isCalled (tree : Tree) : Bool :=
  ["method_signature", "abstract_method_signature", "method_definition", "call_signature",
    "construct_signature"].contains tree.kind

/-- The type is the given object type, which may be marked as one that is only read. -/
inductive Denotes (object : Tree) : Tree → Prop
  | itself : object.kind = "object_type" → Denotes object object
  | readonly {tree inner : Tree} {others : List Tree} : tree.kind = "readonly_type" →
    tree.parts = inner :: others → Denotes object inner → Denotes object tree

/-- The annotation is the given object type behind a sign. -/
def Annotates (object tree : Tree) : Prop :=
  if Reading.isAnnotation tree.kind then
    ∃ inner others, tree.parts = inner :: others ∧ object.Denotes inner
  else object.Denotes tree

/-- The member stands in the interface that a statement declares, or in one of those that it
declares. -/
def IsMemberOf (member tree : Tree) : Prop :=
  match tree.kind with
  | "interface_declaration" | "class_declaration" | "abstract_class_declaration" | "class" =>
    member ∈ tree.bodyParts
  | "type_alias_declaration" =>
    ∃ type ∈ tree.child? "value", ∃ object : Tree, object.Denotes type ∧ member ∈ object.parts
  | "lexical_declaration" | "variable_declaration" =>
    ∃ declarator ∈ tree.parts, declarator.kind = "variable_declarator" ∧
      ∃ annotation ∈ declarator.child? "type", ∃ object : Tree, object.Annotates annotation ∧
        member ∈ object.parts
  | _ => False

/-- The statement declares the signature. -/
inductive DeclaredIn (signature : Tree) : Tree → Prop
  | function : signature.isFunction = true → DeclaredIn signature signature
  | member {tree : Tree} : signature.isCalled = true → signature.IsMemberOf tree →
    DeclaredIn signature tree
  | wrapper {tree part : Tree} : tree.kind ∈ wrapperKinds → part ∈ tree.parts →
    DeclaredIn signature part → DeclaredIn signature tree
  | namespaceBody {tree body part : Tree} :
    tree.kind = "internal_module" ∨ tree.kind = "module" → tree.child? "body" = some body →
    part ∈ body.parts → DeclaredIn signature part → DeclaredIn signature tree

/-- One of the statements of a tree declares the signature. -/
def Declares (tree signature : Tree) : Prop :=
  ∃ part ∈ tree.parts, signature.DeclaredIn part

/-- A signature is read as a function, or as a member that is called. -/
inductive ReadsAsSignature (source : ByteArray) (tree : Tree) (node : Node) : Prop
  | function : tree.isFunction = true →
    (tree.reading source).statement.outcome = .ok [node] → ReadsAsSignature source tree node
  | member : tree.isCalled = true →
    (tree.reading source).member.outcome = .ok (some node) → ReadsAsSignature source tree node
  | classMember : tree.isCalled = true →
    (tree.reading source).classMember.outcome = .ok (some node) → ReadsAsSignature source tree node

end Tree

namespace Reading

variable {source : ByteArray} {tree : Tree}

/-! ### Members -/

/-- A method is called. -/
lemma declaresMethod_of_methodOf {children : List Child} {inClass : Bool} {result : Option Node}
    (h : (methodOf source tree children inClass).outcome = .ok result) :
    result.any Node.declaresMethod = true := by
  obtain ⟨parameters, -, h⟩ := Traced.bind_outcome_eq_ok.mp h
  split at h
  · obtain rfl := Traced.pure_outcome_eq_ok.mp h
    rfl
  · obtain ⟨type, -, rfl⟩ := Traced.bind_pure_outcome_eq_ok.mp h
    split <;> rfl

/-- A member is called when it is of a kind that is called. -/
lemma declaresMethod_of_memberOf {children : List Child} {inClass : Bool} {result : Option Node}
    (h : (memberOf source tree children inClass).outcome = .ok result) :
    result.any Node.declaresMethod = tree.isCalled := by
  have called : tree.isCalled = true → result.any Node.declaresMethod = true →
      result.any Node.declaresMethod = tree.isCalled := by
    intro hkind hresult
    rw [hkind, hresult]
  have other : tree.isCalled = false → result.any Node.declaresMethod = false →
      result.any Node.declaresMethod = tree.isCalled := by
    intro hkind hresult
    rw [hkind, hresult]
  unfold memberOf at h
  split at h
  case h_1 hkind | h_2 hkind =>
    obtain ⟨type, -, rfl⟩ := Traced.bind_pure_outcome_eq_ok.mp h
    exact other (by simp [Tree.isCalled, hkind]) rfl
  case h_3 hkind | h_4 hkind | h_5 hkind =>
    exact called (by simp [Tree.isCalled, hkind]) (declaresMethod_of_methodOf h)
  case h_6 hkind | h_7 hkind =>
    obtain ⟨parameters, -, h⟩ := Traced.bind_outcome_eq_ok.mp h
    obtain ⟨type, -, rfl⟩ := Traced.bind_pure_outcome_eq_ok.mp h
    exact called (by simp [Tree.isCalled, hkind]) rfl
  case h_8 hkind =>
    have hplain : result.any Node.declaresMethod = false := by
      unfold indexOf at h
      split at h
      · obtain ⟨keyType, -, h⟩ := Traced.bind_outcome_eq_ok.mp h
        obtain ⟨type, -, rfl⟩ := Traced.bind_pure_outcome_eq_ok.mp h
        rfl
      · obtain ⟨type, -, rfl⟩ := Traced.bind_pure_outcome_eq_ok.mp h
        rfl
    exact other (by simp [Tree.isCalled, hkind]) hplain
  case h_9 =>
    obtain ⟨-, -, rfl⟩ := Traced.bind_pure_outcome_eq_ok.mp h
    exact other (by simp_all [Tree.isCalled]) rfl

/-- Members that are called are what the parts of these kinds are read as. -/
lemma called_of_gatherSome {view : Reading → Traced (Option Node)} (inClass : Bool)
    {nodes : List Node}
    (hview : ∀ part : Tree, view (part.reading source) =
      memberOf source part (childReadings source part.children) inClass)
    (hsignature : ∀ (part : Tree) node, part.isCalled = true →
      (view (part.reading source)).outcome = .ok (some node) → part.ReadsAsSignature source node)
    (h : (gatherSome (childReadings source tree.children) view).outcome = .ok nodes) :
    List.Forall₂ (Tree.ReadsAsSignature source) (tree.parts.filter Tree.isCalled)
      (nodes.filter Node.declaresMethod) := by
  have hparts : List.Forall₂ (fun part node => (view (part.reading source)).outcome =
      .ok (some node)) (tree.parts.filter Tree.isCalled) (nodes.filter Node.declaresMethod) := by
    refine forall₂_filter_of_gatherSome (fun part result hread => ?_) h
    rw [hview] at hread
    exact declaresMethod_of_memberOf hread
  refine ((List.forall₂_and_left _ _).mpr
    ⟨fun _ hmem => (List.mem_filter.mp hmem).2, hparts⟩).imp fun part node hpair => ?_
  exact hsignature part node hpair.1 hpair.2

/-- The members of a class that are called are read from its body. -/
lemma called_of_classMembers {nodes : List Node}
    (h : (gatherSome (childReadings source tree.children) Reading.classMember).outcome =
      .ok nodes) :
    List.Forall₂ (Tree.ReadsAsSignature source) (tree.parts.filter Tree.isCalled)
      (nodes.filter Node.declaresMethod) := by
  refine called_of_gatherSome true (fun part => ?_) (fun _ _ => .classMember) h
  rw [Tree.reading_eq]
  rfl

/-- The members of an interface or an object type that are called are read from its parts. -/
lemma called_of_members {nodes : List Node}
    (h : (gatherSome (childReadings source tree.children) Reading.member).outcome = .ok nodes) :
    List.Forall₂ (Tree.ReadsAsSignature source) (tree.parts.filter Tree.isCalled)
      (nodes.filter Node.declaresMethod) := by
  refine called_of_gatherSome false (fun part => ?_) (fun _ _ => .member) h
  rw [Tree.reading_eq]
  rfl

end Reading

/-! ### Signatures of a declaration -/

/-- The signatures of an object type, if the node is one. -/
def Syntax.Node.objectSignatures : Node → List Node
  | .objectType _ members => members.filter declaresMethod
  | _ => []

/-- Some of the trees are read as signatures, and each of the signatures is what one of them is read
as. -/
structure Tree.ReadAs (source : ByteArray) (trees : Tree → Prop) (nodes : List Node) : Prop where
  read : ∀ tree, tree.isCalled = true → trees tree →
    ∃ node ∈ nodes, tree.ReadsAsSignature source node
  declared : ∀ node ∈ nodes, ∃ tree : Tree, tree.isCalled = true ∧ trees tree ∧
    tree.ReadsAsSignature source node

namespace Tree.ReadAs

variable {source : ByteArray}

/-- No trees are read as no signatures. -/
lemma none {trees : Tree → Prop} (h : ∀ tree, ¬ trees tree) : ReadAs source trees [] :=
  ⟨fun tree _ htree => absurd htree (h tree), fun _ hmem => nomatch hmem⟩

/-- The members of a list are read as signatures one by one. -/
lemma of_forall₂ {parts : List Tree} {nodes : List Node}
    (h : List.Forall₂ (ReadsAsSignature source) (parts.filter isCalled) nodes) :
    ReadAs source (· ∈ parts) nodes := by
  constructor
  · intro tree hcalled hmem
    exact exists_right_of_mem h (List.mem_filter.mpr ⟨hmem, hcalled⟩)
  · intro node hmem
    obtain ⟨tree, htree, hread⟩ := exists_left_of_mem h hmem
    obtain ⟨hpart, hcalled⟩ := List.mem_filter.mp htree
    exact ⟨tree, hcalled, hpart, hread⟩

/-- The same trees may be given in another way. -/
lemma congr {trees trees' : Tree → Prop} {nodes : List Node} (h : ReadAs source trees nodes)
    (htrees : ∀ tree, trees' tree ↔ trees tree) : ReadAs source trees' nodes := by
  constructor
  · intro tree hcalled htree
    exact h.read tree hcalled ((htrees tree).mp htree)
  · intro node hmem
    obtain ⟨tree, hcalled, htree, hread⟩ := h.declared node hmem
    exact ⟨tree, hcalled, (htrees tree).mpr htree, hread⟩

end Tree.ReadAs

namespace Reading

variable {source : ByteArray} {tree : Tree}

/-- The members of the object type that a type denotes are read as its signatures. -/
lemma readAs_of_type {type : Node} (h : (tree.reading source).type.outcome = .ok type) :
    Tree.ReadAs source (fun member => ∃ object : Tree, object.Denotes tree ∧ member ∈ object.parts)
      type.objectSignatures := by
  induction tree using Tree.induction generalizing type with
  | node tree ih =>
    -- A tree of another kind is no object type, and it denotes none.
    have other : tree.kind ≠ "object_type" → tree.kind ≠ "readonly_type" →
        type.objectSignatures = [] → Tree.ReadAs source
          (fun member => ∃ object : Tree, object.Denotes tree ∧ member ∈ object.parts)
          type.objectSignatures := by
      intro hobject hreadonly hnone
      rw [hnone]
      apply Tree.ReadAs.none
      rintro member ⟨object, hdenotes, -⟩
      cases hdenotes with
      | itself hkind => exact hobject hkind
      | readonly hkind => exact hreadonly hkind
    rw [Tree.reading_eq] at h
    change (typeOf source tree (childReadings source tree.children)).outcome = .ok type at h
    unfold typeOf at h
    split at h
    case h_10 hkind =>
      unfold firstType at h
      rw [parts_childReadings] at h
      cases hparts : tree.parts with
      | nil =>
        rw [hparts] at h
        exact absurd h Traced.fault_outcome_ne_ok
      | cons inner others =>
        rw [hparts] at h
        have hinner : inner ∈ tree.parts := by rw [hparts]; exact List.mem_cons_self
        refine (ih inner (Tree.mem_children_of_mem_parts hinner) h).congr fun member => ?_
        constructor
        · rintro ⟨object, hdenotes, hmember⟩
          cases hdenotes with
          | itself hobject => simp [hkind] at hobject
          | readonly _ hparts' hdenotes =>
            obtain ⟨rfl, -⟩ := List.cons.inj (hparts.symm.trans hparts')
            exact ⟨object, hdenotes, hmember⟩
        · rintro ⟨object, hdenotes, hmember⟩
          exact ⟨object, .readonly hkind hparts hdenotes, hmember⟩
    case h_13 hkind =>
      obtain ⟨members, hmembers, rfl⟩ := Traced.bind_pure_outcome_eq_ok.mp h
      refine (Tree.ReadAs.of_forall₂ (called_of_members hmembers)).congr fun member => ?_
      constructor
      · rintro ⟨object, hdenotes, hmember⟩
        cases hdenotes with
        | itself => exact hmember
        | readonly hreadonly => simp [hkind] at hreadonly
      · intro hmember
        exact ⟨tree, .itself hkind, hmember⟩
    case h_6 hkind =>
      obtain ⟨parameters, -, h⟩ := Traced.bind_outcome_eq_ok.mp h
      obtain ⟨result, -, rfl⟩ := Traced.bind_pure_outcome_eq_ok.mp h
      exact other (by simp [hkind]) (by simp [hkind]) rfl
    case h_4 hkind | h_5 hkind | h_7 hkind | h_8 hkind | h_9 hkind =>
      obtain ⟨_, -, rfl⟩ := Traced.bind_pure_outcome_eq_ok.mp h
      exact other (by simp [hkind]) (by simp [hkind]) rfl
    case h_12 hkind =>
      obtain rfl := Traced.pure_outcome_eq_ok.mp h
      apply other (by simp [hkind]) (by simp [hkind])
      unfold literalType
      split
      · rfl
      · split <;> rfl
    case h_1 hkind | h_2 hkind | h_3 hkind | h_11 hkind =>
      obtain rfl := Traced.pure_outcome_eq_ok.mp h
      exact other (by simp [hkind]) (by simp [hkind]) rfl
    case h_14 =>
      obtain rfl := Traced.pure_outcome_eq_ok.mp h
      exact other (by assumption) (by assumption) rfl

/-- The members of the object type that an annotation gives are read as its signatures. -/
lemma readAs_of_annotation {type : Node}
    (h : (Reading.annotation (tree.reading source)).outcome = .ok type) :
    Tree.ReadAs source
      (fun member => ∃ object : Tree, object.Annotates tree ∧ member ∈ object.parts)
      type.objectSignatures := by
  rw [Tree.reading_eq] at h
  change (annotationOf source tree (childReadings source tree.children)).outcome = .ok type at h
  unfold annotationOf at h
  by_cases hsign : isAnnotation tree.kind = true
  · rw [if_pos hsign, parts_childReadings] at h
    cases hparts : tree.parts with
    | nil =>
      rw [hparts] at h
      obtain rfl := Traced.pure_outcome_eq_ok.mp h
      apply Tree.ReadAs.none
      rintro member ⟨object, hannotates, -⟩
      rw [Tree.Annotates, if_pos hsign, hparts] at hannotates
      obtain ⟨_, _, hnil, -⟩ := hannotates
      cases hnil
    | cons inner others =>
      rw [hparts] at h
      have hinner : (inner.reading source).type.outcome = .ok type := h
      refine (readAs_of_type hinner).congr fun member => ?_
      constructor
      · rintro ⟨object, hannotates, hmember⟩
        rw [Tree.Annotates, if_pos hsign, hparts] at hannotates
        obtain ⟨_, _, heq, hdenotes⟩ := hannotates
        obtain ⟨rfl, -⟩ := List.cons.inj heq
        exact ⟨object, hdenotes, hmember⟩
      · rintro ⟨object, hdenotes, hmember⟩
        refine ⟨object, ?_, hmember⟩
        rw [Tree.Annotates, if_pos hsign]
        exact ⟨inner, others, hparts, hdenotes⟩
  · have htype : (tree.reading source).type.outcome = .ok type := by
      rw [if_neg hsign] at h
      rw [Tree.reading_eq]
      exact h
    refine (readAs_of_type htype).congr fun member => ?_
    simp only [Tree.Annotates, if_neg hsign]

/-- The members in the body of a declaration are read as its signatures. -/
lemma readAs_of_body {view : Reading → Traced (List Node)} {members : List Node}
    (hview : ∀ (body : Tree) nodes, (view (body.reading source)).outcome = .ok nodes →
      List.Forall₂ (Tree.ReadsAsSignature source) (body.parts.filter Tree.isCalled)
        (nodes.filter Node.declaresMethod))
    (h : (fieldOr (childReadings source tree.children) "body" [] view).outcome = .ok members) :
    Tree.ReadAs source (· ∈ tree.bodyParts) (members.filter Node.declaresMethod) := by
  rw [fieldOr_childReadings] at h
  apply Tree.ReadAs.of_forall₂
  unfold Tree.bodyParts
  cases hbody : tree.child? "body" with
  | none =>
    rw [hbody] at h
    obtain rfl := Traced.pure_outcome_eq_ok.mp h
    exact .nil
  | some body =>
    rw [hbody] at h
    exact hview body members h

/-- The members of the object type in a field are read as its signatures. -/
lemma readAs_of_fieldOr {view : Reading → Traced Node} {given : Tree → Tree → Prop}
    {field : String} {type : Node}
    (hview : ∀ (child : Tree) node, (view (child.reading source)).outcome = .ok node →
      Tree.ReadAs source (given child) node.objectSignatures)
    (h : (fieldOr (childReadings source tree.children) field .absent view).outcome = .ok type) :
    Tree.ReadAs source (fun member => ∃ child ∈ tree.child? field, given child member)
      type.objectSignatures := by
  rw [fieldOr_childReadings] at h
  cases hchild : tree.child? field with
  | none =>
    rw [hchild] at h
    obtain rfl := Traced.pure_outcome_eq_ok.mp h
    apply Tree.ReadAs.none
    rintro member ⟨child, hnone, -⟩
    cases hnone
  | some child =>
    rw [hchild] at h
    refine (hview child type h).congr fun member => ?_
    constructor
    · rintro ⟨other, hother, hgiven⟩
      obtain rfl := Option.some.inj hother
      exact hgiven
    · intro hgiven
      exact ⟨child, rfl, hgiven⟩

/-! ### Statements with members -/

/-- The kinds of statements that have members. -/
def memberKinds : List String :=
  ["interface_declaration", "class_declaration", "abstract_class_declaration", "class",
    "type_alias_declaration", "lexical_declaration", "variable_declaration"]

/-- The tree is read as a single statement, whose signatures are what the members of the tree are
read as. -/
def ReadsMembers (source : ByteArray) (tree : Tree) (nodes : List Node) : Prop :=
  ∃ node, nodes = [node] ∧ node.body? = none ∧
    Tree.ReadAs source (·.IsMemberOf tree) (signatures node)

/-- Only statements of these kinds have members. -/
lemma mem_memberKinds_of_isMemberOf {member : Tree} (h : member.IsMemberOf tree) :
    tree.kind ∈ memberKinds := by
  unfold Tree.IsMemberOf at h
  split at h
  case h_8 => exact h.elim
  all_goals simp [memberKinds, *]

/-- A declaration that has its members in a body is read with those that stand there. -/
lemma readsMembers_of_body {view : Reading → Traced (List Node)} {node : Node}
    {members : List Node} (hmembers : ∀ member : Tree,
      member.IsMemberOf tree ↔ member ∈ tree.bodyParts)
    (hview : ∀ (body : Tree) nodes, (view (body.reading source)).outcome = .ok nodes →
      List.Forall₂ (Tree.ReadsAsSignature source) (body.parts.filter Tree.isCalled)
        (nodes.filter Node.declaresMethod))
    (h : (fieldOr (childReadings source tree.children) "body" [] view).outcome = .ok members)
    (hbody : node.body? = none)
    (hsignatures : signatures node = members.filter Node.declaresMethod) :
    ReadsMembers source tree [node] := by
  refine ⟨node, rfl, hbody, ?_⟩
  rw [hsignatures]
  exact (readAs_of_body hview h).congr hmembers

/-- A class is read with the members in its body. -/
lemma readsMembers_of_class {nodes : List Node} (hmembers : ∀ member : Tree,
      member.IsMemberOf tree ↔ member ∈ tree.bodyParts)
    (h : (do return [← classOf source tree (childReadings source tree.children)] :
      Traced (List Node)).outcome = .ok nodes) : ReadsMembers source tree nodes := by
  obtain ⟨node, hnode, rfl⟩ := Traced.bind_pure_outcome_eq_ok.mp h
  obtain ⟨heritage, -, hnode⟩ := Traced.bind_outcome_eq_ok.mp hnode
  obtain ⟨members, hread, rfl⟩ := Traced.bind_pure_outcome_eq_ok.mp hnode
  refine readsMembers_of_body hmembers (fun body nodes hbody => ?_) hread rfl (List.append_nil _)
  rw [Tree.reading_eq] at hbody
  exact called_of_classMembers hbody

/-- An interface is read with the members in its body. -/
lemma readsMembers_of_interface {nodes : List Node} (hmembers : ∀ member : Tree,
      member.IsMemberOf tree ↔ member ∈ tree.bodyParts)
    (h : (do return [← interfaceOf source tree (childReadings source tree.children)] :
      Traced (List Node)).outcome = .ok nodes) : ReadsMembers source tree nodes := by
  obtain ⟨node, hnode, rfl⟩ := Traced.bind_pure_outcome_eq_ok.mp h
  obtain ⟨heritage, -, hnode⟩ := Traced.bind_outcome_eq_ok.mp hnode
  obtain ⟨members, hread, rfl⟩ := Traced.bind_pure_outcome_eq_ok.mp hnode
  refine readsMembers_of_body hmembers (fun body nodes hbody => ?_) hread rfl (List.append_nil _)
  rw [Tree.reading_eq] at hbody
  exact called_of_members hbody

/-- The signatures of an alias are those of the object type that it is declared with. -/
lemma signatures_aliasDecl (line : Line) (name type : Node) (typeParameters : List Node) :
    signatures (.aliasDecl line name typeParameters type) = type.objectSignatures := by
  cases type with
  | objectType => exact List.append_nil _
  | _ => rfl

/-- The signatures of variables are those of the object types that they are declared with. -/
lemma mem_signatures_variableStatement {line : Line} {declarations : List Node}
    {signature : Node} : signature ∈ signatures (.variableStatement line declarations) ↔
      ∃ declaration ∈ declarations, ∃ type ∈ declaration.type?,
        signature ∈ type.objectSignatures := by
  have hshape : ∀ declaration : Node, (∃ shape, inlineShape? declaration = some shape ∧
      signature ∈ shape.members.filter Node.declaresMethod) ↔
        ∃ type ∈ declaration.type?, signature ∈ type.objectSignatures := by
    intro declaration
    unfold inlineShape?
    cases declaration.type? with
    | none => simp
    | some type =>
      cases type with
      | objectType line members => simp [Node.objectSignatures]
      | _ => simp [Node.objectSignatures]
  have hnone : [Node.variableStatement line declarations].filter Node.declaresFunction = [] := rfl
  rw [signatures, hnone, List.nil_append, shapes, List.mem_flatMap]
  simp only [List.mem_filterMap, ← hshape]
  constructor
  · rintro ⟨shape, ⟨declaration, hdeclaration, hinline⟩, hmem⟩
    exact ⟨declaration, hdeclaration, shape, hinline, hmem⟩
  · rintro ⟨declaration, hdeclaration, shape, hinline, hmem⟩
    exact ⟨shape, ⟨declaration, hdeclaration, hinline⟩, hmem⟩

/-- Variables are read with the members of the object types that they are declared with. -/
lemma readsMembers_of_variables {nodes : List Node} (hmembers : ∀ member : Tree,
      member.IsMemberOf tree ↔ ∃ declarator ∈ tree.parts, declarator.kind = "variable_declarator" ∧
        ∃ annotation ∈ declarator.child? "type", ∃ object : Tree, object.Annotates annotation ∧
          member ∈ object.parts)
    (h : (do return [.variableStatement tree.line (← gatherSome
      (childReadings source tree.children) Reading.variableDecl)] :
      Traced (List Node)).outcome = .ok nodes) : ReadsMembers source tree nodes := by
  obtain ⟨declarations, hdeclarations, rfl⟩ := Traced.bind_pure_outcome_eq_ok.mp h
  obtain ⟨options, hoptions, rfl⟩ := gatherSome_outcome_eq_ok.mp hdeclarations
  have hdeclarator : ∀ (part : Tree) option,
      (part.reading source).variableDecl.outcome = .ok option →
      (part.kind = "variable_declarator" ∧ ∃ line name type, option = some (.variableDecl line name
        type) ∧ Tree.ReadAs source (fun member => ∃ annotation ∈ part.child? "type",
          ∃ object : Tree, object.Annotates annotation ∧ member ∈ object.parts)
          type.objectSignatures) ∨
      (part.kind ≠ "variable_declarator" ∧ option = none) := by
    intro part option hread
    rw [Tree.reading_eq] at hread
    change (variableOf source part (childReadings source part.children)).outcome = _ at hread
    unfold variableOf at hread
    split at hread
    case isTrue hkind =>
      obtain ⟨type, htype, rfl⟩ := Traced.bind_pure_outcome_eq_ok.mp hread
      exact Or.inl ⟨hkind, _, _, type, rfl,
        readAs_of_fieldOr (fun _ _ => readAs_of_annotation) htype⟩
    case isFalse hkind =>
      exact Or.inr ⟨hkind, (Traced.pure_outcome_eq_ok.mp hread).symm⟩
  refine ⟨_, rfl, rfl, ?_⟩
  constructor
  · intro member hcalled hmember
    obtain ⟨declarator, hpart, hkind, hobject⟩ := (hmembers member).mp hmember
    obtain ⟨option, hoption, hread⟩ := exists_right_of_mem hoptions hpart
    rcases hdeclarator declarator option hread with
      ⟨-, line, name, type, rfl, htype⟩ | ⟨hother, -⟩
    · obtain ⟨signature, hsignature, hreads⟩ := htype.read member hcalled hobject
      refine ⟨signature, mem_signatures_variableStatement.mpr ?_, hreads⟩
      exact ⟨_, List.mem_filterMap.mpr ⟨_, hoption, rfl⟩, type, rfl, hsignature⟩
    · exact absurd hkind hother
  · intro signature hsignature
    obtain ⟨declaration, hdeclaration, written, hwritten, hmem⟩ :=
      mem_signatures_variableStatement.mp hsignature
    obtain ⟨option, hoption, rfl⟩ := List.mem_filterMap.mp hdeclaration
    obtain ⟨declarator, hpart, hread⟩ := exists_left_of_mem hoptions hoption
    rcases hdeclarator declarator (some declaration) hread with
      ⟨hkind, line, name, type, heq, htype⟩ | ⟨-, hnone⟩
    · obtain rfl := Option.some.inj heq
      obtain rfl := Option.some.inj hwritten
      obtain ⟨member, hcalled, hobject, hreads⟩ := htype.declared signature hmem
      exact ⟨member, hcalled, (hmembers member).mpr ⟨declarator, hpart, hkind, hobject⟩, hreads⟩
    · cases hnone

/-- **Members of statements.**  A statement of a kind that has members is read as a single
statement, whose signatures are what its members that are called are read as. -/
theorem readsMembers_of_statement {nodes : List Node} (hkind : tree.kind ∈ memberKinds)
    (h : (tree.reading source).statement.outcome = .ok nodes) : ReadsMembers source tree nodes := by
  rw [Tree.reading_eq] at h
  change (statementOf source tree (childReadings source tree.children)).outcome = .ok nodes at h
  unfold statementOf at h
  split at h
  case h_7 hinterface =>
    refine readsMembers_of_interface (fun member => ?_) h
    simp only [Tree.IsMemberOf, hinterface]
  case h_8 hclass | h_9 hclass | h_10 hclass =>
    refine readsMembers_of_class (fun member => ?_) h
    simp only [Tree.IsMemberOf, hclass]
  case h_11 halias =>
    obtain ⟨type, htype, rfl⟩ := Traced.bind_pure_outcome_eq_ok.mp h
    refine ⟨_, rfl, rfl, ?_⟩
    rw [signatures_aliasDecl]
    refine (readAs_of_fieldOr (fun _ _ => readAs_of_type) htype).congr fun member => ?_
    simp only [Tree.IsMemberOf, halias]
  case h_12 hvariables | h_13 hvariables =>
    refine readsMembers_of_variables (fun member => ?_) h
    simp only [Tree.IsMemberOf, hvariables]
  all_goals simp_all [memberKinds]

/-! ### Statements that declare signatures -/

/-- Namespaces around a body declare what the statements of the body declare. -/
lemma declares_nestNamespaces {signature : Node} (line : Line) (body : Node) (names : List Node) :
    Model.Declares signature (nestNamespaces line body names) ↔
      ∃ inner ∈ body.bodyStatements, Model.Declares signature inner := by
  refine nestNamespaces_induction (motive := fun node => Model.Declares signature node ↔
    ∃ inner ∈ body.bodyStatements, Model.Declares signature inner)
    (fun name _ => ?_) fun name _ first next hinner => ?_
  · exact declares_namespaceDecl
  · rw [declares_namespaceDecl, ← hinner, Node.bodyStatements]
    simp

/-- A namespace that is read declares what the statements in its body declare. -/
lemma exists_heldBy_of_namespaceOf {node : Node}
    (h : (namespaceOf source tree (childReadings source tree.children)).outcome = .ok node) :
    ∃ statements, (Tree.heldBy source (tree.child? "body")).outcome = .ok statements ∧
      ∀ signature, Model.Declares signature node ↔
        ∃ inner ∈ statements, Model.Declares signature inner := by
  unfold namespaceOf at h
  rw [child?_childReadings] at h
  cases hbody : tree.child? "body" with
  | none =>
    rw [hbody] at h
    obtain rfl := Traced.pure_outcome_eq_ok.mp h
    exact ⟨[], rfl, fun signature => declares_nestNamespaces _ _ _⟩
  | some body =>
    rw [hbody] at h
    obtain ⟨statements, hstatements, rfl⟩ := Traced.bind_pure_outcome_eq_ok.mp h
    exact ⟨statements, hstatements, fun signature => declares_nestNamespaces _ _ _⟩

/-- A function is read as a single declaration. -/
lemma statement_of_function (h : tree.isFunction = true) :
    (tree.reading source).statement =
      (do return [← functionOf source tree (childReadings source tree.children)]) := by
  have hkinds : tree.kind = "function_signature" ∨ tree.kind = "function_declaration" := by
    simpa [Tree.isFunction] using h
  rw [Tree.reading_eq]
  change statementOf source tree (childReadings source tree.children) = _
  rcases hkinds with hkind | hkind
  · simp only [statementOf, hkind]
  · simp only [statementOf, hkind]

/-- A function that is read is the signature that it declares. -/
lemma exists_function_of_statement {nodes : List Node} (hkind : tree.isFunction = true)
    (h : (tree.reading source).statement.outcome = .ok nodes) :
    ∃ node, nodes = [node] ∧ node.body? = none ∧ signatures node = [node] := by
  rw [statement_of_function hkind] at h
  obtain ⟨node, hnode, rfl⟩ := Traced.bind_pure_outcome_eq_ok.mp h
  obtain ⟨parameters, -, hnode⟩ := Traced.bind_outcome_eq_ok.mp hnode
  obtain ⟨type, -, rfl⟩ := Traced.bind_pure_outcome_eq_ok.mp hnode
  exact ⟨_, rfl, rfl, rfl⟩

/-- A node of any other kind declares no signatures. -/
lemma not_declares_of_statement {nodes : List Node} (hmembers : tree.kind ∉ memberKinds)
    (hfunction : tree.isFunction = false) (hwrapper : tree.kind ∉ Tree.wrapperKinds)
    (hnamespace : ¬ (tree.kind = "internal_module" ∨ tree.kind = "module"))
    (h : (tree.reading source).statement.outcome = .ok nodes) :
    ∀ node ∈ nodes, ∀ declared, ¬ Model.Declares declared node := by
  have hnone : ∀ node ∈ ([] : List Node), ∀ declared, ¬ Model.Declares declared node :=
    fun _ hmem => absurd hmem List.not_mem_nil
  rw [Tree.reading_eq] at h
  change (statementOf source tree (childReadings source tree.children)).outcome = .ok nodes at h
  unfold statementOf at h
  split at h
  case h_1 hkind | h_2 hkind | h_3 hkind | h_4 hkind => simp [Tree.wrapperKinds, hkind] at hwrapper
  case h_5 hkind | h_6 hkind => simp [hkind] at hnamespace
  case h_7 hkind | h_8 hkind | h_9 hkind | h_10 hkind | h_11 hkind | h_12 hkind | h_13 hkind =>
    simp [memberKinds, hkind] at hmembers
  case h_14 hkind | h_15 hkind => simp [Tree.isFunction, hkind] at hfunction
  case h_16 =>
    obtain rfl := Traced.pure_outcome_eq_ok.mp h
    intro node hnode declared hdeclared
    obtain rfl := List.mem_singleton.mp hnode
    exact absurd (hdeclared.mem_signatures rfl) List.not_mem_nil
  case h_17 | h_18 =>
    obtain ⟨-, -, rfl⟩ := Traced.bind_pure_outcome_eq_ok.mp h
    exact hnone

/-- A signature that a statement declares is read as one. -/
lemma exists_declares_of_declaredIn {signature : Tree} {nodes : List Node}
    (hdeclared : signature.DeclaredIn tree)
    (h : (tree.reading source).statement.outcome = .ok nodes) :
    ∃ node ∈ nodes, ∃ declared, Model.Declares declared node ∧
      signature.ReadsAsSignature source declared := by
  induction hdeclared generalizing nodes with
  | function hkind =>
    obtain ⟨node, rfl, -, hsignatures⟩ := exists_function_of_statement hkind h
    have hmem : node ∈ signatures node := by rw [hsignatures]; exact List.mem_cons_self
    exact ⟨node, List.mem_cons_self, node, .own hmem, .function hkind h⟩
  | member hcalled hmember =>
    obtain ⟨node, rfl, -, hmembers⟩ :=
      readsMembers_of_statement (mem_memberKinds_of_isMemberOf hmember) h
    obtain ⟨declared, hmem, hread⟩ := hmembers.read signature hcalled hmember
    exact ⟨node, List.mem_cons_self, declared, .own hmem, hread⟩
  | wrapper hkind hpart _ ih =>
    rw [Tree.statement_of_wrapper hkind] at h
    obtain ⟨lists, hlists, rfl⟩ := gather_outcome_eq_ok.mp h
    obtain ⟨list, hlist, hread⟩ := exists_right_of_mem hlists hpart
    obtain ⟨node, hnode, hdeclares⟩ := ih hread
    exact ⟨node, List.mem_flatten.mpr ⟨list, hlist, hnode⟩, hdeclares⟩
  | @namespaceBody tree body part hkind hbody hpart _ ih =>
    rw [Tree.statement_of_namespaceKind hkind] at h
    obtain ⟨node, hnode, rfl⟩ := Traced.bind_pure_outcome_eq_ok.mp h
    obtain ⟨statements, hheld, hdeclares⟩ := exists_heldBy_of_namespaceOf hnode
    rw [hbody] at hheld
    have hstatements : (body.reading source).statements.outcome = .ok statements := hheld
    rw [Tree.reading_eq] at hstatements
    obtain ⟨lists, hlists, rfl⟩ := gather_outcome_eq_ok.mp hstatements
    obtain ⟨list, hlist, hread⟩ := exists_right_of_mem hlists hpart
    obtain ⟨inner, hinner, declared, hdeclared, hreads⟩ := ih hread
    refine ⟨node, List.mem_cons_self, declared, (hdeclares declared).mpr ?_, hreads⟩
    exact ⟨inner, List.mem_flatten.mpr ⟨list, hlist, hinner⟩, hdeclared⟩

/-- The parts of a tree declare what they are read as. -/
lemma exists_part_of_gather {nodes : List Node}
    (hparts : ∀ part ∈ tree.children, ∀ nodes, (part.reading source).statement.outcome = .ok nodes →
      ∀ node ∈ nodes, ∀ declared, Model.Declares declared node →
        ∃ signature : Tree, signature.DeclaredIn part ∧ signature.ReadsAsSignature source declared)
    (h : (gather (childReadings source tree.children) Reading.statement).outcome = .ok nodes) :
    ∀ node ∈ nodes, ∀ declared, Model.Declares declared node →
      ∃ signature, tree.Declares signature ∧ signature.ReadsAsSignature source declared := by
  obtain ⟨lists, hlists, rfl⟩ := gather_outcome_eq_ok.mp h
  intro node hnode declared hdeclared
  obtain ⟨list, hlist, hmem⟩ := List.mem_flatten.mp hnode
  obtain ⟨part, hpart, hread⟩ := exists_left_of_mem hlists hlist
  obtain ⟨signature, hsignature, hreads⟩ := hparts part (Tree.mem_children_of_mem_parts hpart) list
    hread node hmem declared hdeclared
  exact ⟨signature, ⟨part, hpart, hsignature⟩, hreads⟩

/-- Every signature that a statement is read with is declared in it. -/
lemma exists_declaredIn_of_declares (source : ByteArray) (tree : Tree) :
    (∀ nodes, (tree.reading source).statement.outcome = .ok nodes →
      ∀ node ∈ nodes, ∀ declared, Model.Declares declared node →
        ∃ signature : Tree, signature.DeclaredIn tree ∧
          signature.ReadsAsSignature source declared) ∧
    ∀ nodes, (tree.reading source).statements.outcome = .ok nodes →
      ∀ node ∈ nodes, ∀ declared, Model.Declares declared node →
        ∃ signature, tree.Declares signature ∧ signature.ReadsAsSignature source declared := by
  induction tree using Tree.induction with
  | node tree ih =>
    have hparts := fun part hpart => (ih part hpart).1
    constructor
    · intro nodes h node hnode declared hdeclared
      by_cases hmembers : tree.kind ∈ memberKinds
      · obtain ⟨statement, rfl, hbody, hread⟩ := readsMembers_of_statement hmembers h
        obtain rfl := List.mem_singleton.mp hnode
        obtain ⟨signature, hcalled, hmember, hreads⟩ :=
          hread.declared declared (hdeclared.mem_signatures hbody)
        exact ⟨signature, .member hcalled hmember, hreads⟩
      by_cases hfunction : tree.isFunction = true
      · have hread := h
        obtain ⟨statement, rfl, hbody, hsignatures⟩ := exists_function_of_statement hfunction h
        obtain rfl := List.mem_singleton.mp hnode
        have hmem := hdeclared.mem_signatures hbody
        rw [hsignatures] at hmem
        obtain rfl := List.mem_singleton.mp hmem
        exact ⟨tree, .function hfunction, .function hfunction hread⟩
      by_cases hwrapper : tree.kind ∈ Tree.wrapperKinds
      · rw [Tree.statement_of_wrapper hwrapper] at h
        obtain ⟨signature, ⟨part, hpart, hsignature⟩, hreads⟩ :=
          exists_part_of_gather hparts h node hnode declared hdeclared
        exact ⟨signature, .wrapper hwrapper hpart hsignature, hreads⟩
      by_cases hnamespace : tree.kind = "internal_module" ∨ tree.kind = "module"
      · rw [Tree.statement_of_namespaceKind hnamespace] at h
        obtain ⟨statement, hstatement, rfl⟩ := Traced.bind_pure_outcome_eq_ok.mp h
        obtain rfl := List.mem_singleton.mp hnode
        obtain ⟨statements, hheld, hdeclares⟩ := exists_heldBy_of_namespaceOf hstatement
        obtain ⟨inner, hinner, hinside⟩ := (hdeclares declared).mp hdeclared
        cases hbody : tree.child? "body" with
        | none =>
          rw [hbody] at hheld
          obtain rfl := Traced.pure_outcome_eq_ok.mp hheld
          cases hinner
        | some body =>
          rw [hbody] at hheld
          obtain ⟨signature, ⟨part, hpart, hsignature⟩, hreads⟩ :=
            (ih body (Tree.mem_children_of_child? hbody)).2 statements hheld inner hinner declared
              hinside
          exact ⟨signature, .namespaceBody hnamespace hbody hpart hsignature, hreads⟩
      exact absurd hdeclared (not_declares_of_statement hmembers (by simpa using hfunction)
        hwrapper hnamespace h node hnode declared)
    · intro nodes h
      rw [Tree.reading_eq] at h
      exact exists_part_of_gather hparts h

end Reading

/-! ### Signatures of files -/

/-- The method is the record of what the signature is read as. -/
def Model.Method.Binds (source : ByteArray) (signature : Tree) (method : Method) : Prop :=
  ∃ declared, signature.ReadsAsSignature source declared ∧ method.RecordsSignature declared

/-- **Signatures of parsed files.**  Each signature that a parse tree declares has its record in the
module that the tree is built as, and each method of the module that is no maker is the record of
such a signature. -/
theorem binds_of_fileOf {source : ByteArray} {tree : Tree} {statements : List Node}
    {line : Line} {path : String} {name : Option String} {module : Module}
    (hread : (tree.statements source).outcome = .ok statements)
    (hbuilt : (fileOf (.sourceFile line path statements) name).outcome = .ok module) :
    (∀ signature, tree.Declares signature →
      ∃ method ∈ module.allMethods, method.Binds source signature) ∧
    ∀ method ∈ module.allMethods, method.maker = false →
      ∃ signature, tree.Declares signature ∧ method.Binds source signature := by
  obtain ⟨root, hstems⟩ := stemsFrom_of_fileOf hbuilt
  obtain ⟨hrecorded, hrecords⟩ := hstems.recordsSignatures
  constructor
  · rintro signature ⟨part, hpart, hsignature⟩
    have hgather := hread
    rw [Tree.statements, Tree.reading_eq] at hgather
    obtain ⟨lists, hlists, rfl⟩ := Reading.gather_outcome_eq_ok.mp hgather
    obtain ⟨list, hlist, hstatement⟩ := exists_right_of_mem hlists hpart
    obtain ⟨node, hnode, declared, hdeclared, hreads⟩ :=
      Reading.exists_declares_of_declaredIn hsignature hstatement
    obtain ⟨method, hmethod, hrecord⟩ :=
      hrecorded node (List.mem_flatten.mpr ⟨list, hlist, hnode⟩) declared hdeclared
    exact ⟨method, hmethod, declared, hreads, hrecord⟩
  · intro method hmethod hmaker
    obtain ⟨node, hnode, declared, hdeclared, hrecord⟩ := hrecords method hmethod hmaker
    obtain ⟨signature, hsignature, hreads⟩ :=
      (Reading.exists_declaredIn_of_declares source tree).2 statements hread node hnode declared
        hdeclared
    exact ⟨signature, hsignature, declared, hreads, hrecord⟩

end ReasonBindings
