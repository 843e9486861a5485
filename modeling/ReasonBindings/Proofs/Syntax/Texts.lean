import ReasonBindings.Proofs.Layout.SingleLine
import ReasonBindings.Proofs.Traced.Outcome
import ReasonBindings.Syntax.Name

/-!
# The texts of a syntax tree

A syntax tree is made of texts: the parts of names, literals, predefined types,
modifiers and paths.  A tree is *unbroken* when none of its texts has a line feed.
The attributes of an unbroken tree are unbroken, and so are the names that are found
in it.
-/

namespace ReasonBindings.Syntax

open Layout

mutual

/-- The texts of a node and of everything in it. -/
def Node.texts : Node → List String
  | .absent | .bare .. => []
  | .word text | .text _ _ text | .keywordType _ text => [text]
  | .qualifiedName _ first second | .propertyAccess _ first second | .variableDecl _ first second |
    .parameter _ first second _ _ | .namespaceDecl _ first second => first.texts ++ second.texts
  | .computedName _ inner | .arrayType _ inner | .parenthesizedType _ inner |
    .typeParameter _ inner => inner.texts
  | .unionType _ nodes | .tupleType _ nodes | .objectType _ nodes | .variableStatement _ nodes |
    .block _ nodes => nodesTexts nodes
  | .typeReference _ name nodes | .heritageType _ name nodes | .enumDecl _ name nodes =>
    name.texts ++ nodesTexts nodes
  | .field _ _ name type _ modifiers => name.texts ++ type.texts ++ modifiers
  | .signature _ _ name type _ modifiers typeParameters parameters =>
    name.texts ++ type.texts ++ modifiers ++ nodesTexts typeParameters ++ nodesTexts parameters
  | .heritageClause _ text nodes | .sourceFile _ text nodes => text :: nodesTexts nodes
  | .interfaceDecl _ name typeParameters heritage members =>
    name.texts ++ nodesTexts typeParameters ++ nodesTexts heritage ++ nodesTexts members
  | .classDecl _ name typeParameters heritage members modifiers =>
    name.texts ++ nodesTexts typeParameters ++ nodesTexts heritage ++ nodesTexts members ++
      modifiers
  | .aliasDecl _ name typeParameters type => name.texts ++ nodesTexts typeParameters ++ type.texts

/-- The texts of a list of nodes. -/
def nodesTexts : List Node → List String
  | [] => []
  | node :: nodes => node.texts ++ nodesTexts nodes

end

/-- None of the texts of a node has a line feed. -/
def Node.Unbroken (node : Node) : Prop :=
  ∀ text ∈ node.texts, SingleLine text

instance (node : Node) : Decidable node.Unbroken :=
  inferInstanceAs (Decidable (∀ text ∈ _, _))

/-- The nodes that a node consists of. -/
def Node.children : Node → List Node
  | .absent | .word _ | .bare .. | .text .. | .keywordType .. => []
  | .qualifiedName _ first second | .propertyAccess _ first second | .variableDecl _ first second |
    .parameter _ first second _ _ | .namespaceDecl _ first second |
    .field _ _ first second _ _ => [first, second]
  | .computedName _ inner | .arrayType _ inner | .parenthesizedType _ inner |
    .typeParameter _ inner => [inner]
  | .unionType _ nodes | .tupleType _ nodes | .objectType _ nodes | .variableStatement _ nodes |
    .block _ nodes | .heritageClause _ _ nodes | .sourceFile _ _ nodes => nodes
  | .typeReference _ name nodes | .heritageType _ name nodes | .enumDecl _ name nodes =>
    name :: nodes
  | .signature _ _ name type _ _ typeParameters parameters =>
    name :: type :: (typeParameters ++ parameters)
  | .interfaceDecl _ name typeParameters heritage members
  | .classDecl _ name typeParameters heritage members _ =>
    name :: (typeParameters ++ (heritage ++ members))
  | .aliasDecl _ name typeParameters type => name :: type :: typeParameters

/-! ### Attributes among the children -/

/-- The name of a node is one of the nodes that it consists of. -/
lemma mem_children_of_name? {node name : Node} (h : node.name? = some name) :
    name ∈ node.children := by
  cases node <;> cases h <;> simp [Node.children]

/-- The type of a node is one of the nodes that it consists of. -/
lemma mem_children_of_type? {node type : Node} (h : node.type? = some type) :
    type ∈ node.children := by
  cases node <;> cases h <;> simp [Node.children]

/-- The body of a node is one of the nodes that it consists of. -/
lemma mem_children_of_body? {node body : Node} (h : node.body? = some body) :
    body ∈ node.children := by
  cases node <;> cases h
  simp [Node.children]

/-- The parameters of a node are among the nodes that it consists of. -/
lemma mem_children_of_mem_parameters? {node : Node} {nodes : List Node}
    (h : node.parameters? = some nodes) {inner : Node} (hinner : inner ∈ nodes) :
    inner ∈ node.children := by
  cases node <;> cases h
  simp [Node.children, hinner]

/-- The type parameters of a node are among the nodes that it consists of. -/
lemma mem_children_of_mem_typeParameters? {node : Node} {nodes : List Node}
    (h : node.typeParameters? = some nodes) {inner : Node} (hinner : inner ∈ nodes) :
    inner ∈ node.children := by
  cases node <;> cases h <;> simp [Node.children, hinner]

/-- The members of a node are among the nodes that it consists of. -/
lemma mem_children_of_mem_members? {node : Node} {nodes : List Node}
    (h : node.members? = some nodes) {inner : Node} (hinner : inner ∈ nodes) :
    inner ∈ node.children := by
  cases node <;> cases h <;> simp [Node.children, hinner]

/-- The listed types of a node are among the nodes that it consists of. -/
lemma mem_children_of_mem_types? {node : Node} {nodes : List Node}
    (h : node.types? = some nodes) {inner : Node} (hinner : inner ∈ nodes) :
    inner ∈ node.children := by
  cases node <;> cases h <;> simp [Node.children, hinner]

/-- The variables of a node are among the nodes that it consists of. -/
lemma mem_children_of_mem_declarations? {node : Node} {nodes : List Node}
    (h : node.declarations? = some nodes) {inner : Node} (hinner : inner ∈ nodes) :
    inner ∈ node.children := by
  cases node <;> cases h
  simp [Node.children, hinner]

/-- The statements of a node are among the nodes that it consists of. -/
lemma mem_children_of_mem_statements? {node : Node} {nodes : List Node}
    (h : node.statements? = some nodes) {inner : Node} (hinner : inner ∈ nodes) :
    inner ∈ node.children := by
  cases node <;> cases h <;> simp [Node.children, hinner]

/-- The heritage clauses of a node are among the nodes that it consists of. -/
lemma mem_children_of_mem_heritage {node clause : Node} (h : clause ∈ node.heritage) :
    clause ∈ node.children := by
  cases node with
  | interfaceDecl | classDecl =>
    rw [Node.heritage] at h
    simp [Node.children, h]
  | _ => cases h

/-! ### Unbroken trees -/

/-- A text of a list of nodes is a text of one of them. -/
lemma mem_nodesTexts {text : String} {nodes : List Node} :
    text ∈ nodesTexts nodes ↔ ∃ node ∈ nodes, text ∈ node.texts := by
  induction nodes with
  | nil => simp [nodesTexts]
  | cons node nodes ih => simp [nodesTexts, ih]

/-- None of the texts of a list of nodes has a line feed exactly when this holds of each node. -/
lemma forall_nodesTexts {nodes : List Node} :
    (∀ text ∈ nodesTexts nodes, SingleLine text) ↔ ∀ node ∈ nodes, node.Unbroken := by
  simp only [mem_nodesTexts, Node.Unbroken]
  exact ⟨fun h node hnode text htext => h text ⟨node, hnode, htext⟩,
    fun h text ⟨node, hnode, htext⟩ => h node hnode text htext⟩

/-- The texts of the nodes that a node consists of are texts of the node. -/
lemma mem_texts_of_mem_children {node child : Node} (h : child ∈ node.children) {text : String}
    (htext : text ∈ child.texts) : text ∈ node.texts := by
  -- The children of a node and its texts are listed in the same order in every case.
  cases node <;>
    simp only [Node.children, List.mem_cons, List.mem_append, List.not_mem_nil, or_false] at h <;>
    simp only [Node.texts, List.mem_cons, List.mem_append, mem_nodesTexts] <;>
    grind

namespace Node.Unbroken

variable {node : Node}

/-! ### Attributes -/

/-- The nodes that an unbroken node consists of are unbroken. -/
lemma child (h : node.Unbroken) {child : Node} (hchild : child ∈ node.children) :
    child.Unbroken :=
  fun text htext => h text (mem_texts_of_mem_children hchild htext)

/-- The name of an unbroken node is unbroken. -/
lemma name? (h : node.Unbroken) {name : Node} (hname : node.name? = some name) :
    name.Unbroken :=
  h.child (mem_children_of_name? hname)

/-- The type of an unbroken node is unbroken. -/
lemma type? (h : node.Unbroken) {type : Node} (htype : node.type? = some type) :
    type.Unbroken :=
  h.child (mem_children_of_type? htype)

/-- The body of an unbroken node is unbroken. -/
lemma body? (h : node.Unbroken) {body : Node} (hbody : node.body? = some body) :
    body.Unbroken :=
  h.child (mem_children_of_body? hbody)

/-- The parameters of an unbroken node are unbroken. -/
lemma parameters? (h : node.Unbroken) {nodes : List Node} (hnodes : node.parameters? = some nodes) :
    ∀ inner ∈ nodes, inner.Unbroken :=
  fun _ hinner => h.child (mem_children_of_mem_parameters? hnodes hinner)

/-- The type parameters of an unbroken node are unbroken. -/
lemma typeParameters? (h : node.Unbroken) {nodes : List Node}
    (hnodes : node.typeParameters? = some nodes) : ∀ inner ∈ nodes, inner.Unbroken :=
  fun _ hinner => h.child (mem_children_of_mem_typeParameters? hnodes hinner)

/-- The members of an unbroken node are unbroken. -/
lemma members? (h : node.Unbroken) {nodes : List Node} (hnodes : node.members? = some nodes) :
    ∀ inner ∈ nodes, inner.Unbroken :=
  fun _ hinner => h.child (mem_children_of_mem_members? hnodes hinner)

/-- The listed types of an unbroken node are unbroken. -/
lemma types? (h : node.Unbroken) {nodes : List Node} (hnodes : node.types? = some nodes) :
    ∀ inner ∈ nodes, inner.Unbroken :=
  fun _ hinner => h.child (mem_children_of_mem_types? hnodes hinner)

/-- The variables of an unbroken node are unbroken. -/
lemma declarations? (h : node.Unbroken) {nodes : List Node}
    (hnodes : node.declarations? = some nodes) : ∀ inner ∈ nodes, inner.Unbroken :=
  fun _ hinner => h.child (mem_children_of_mem_declarations? hnodes hinner)

/-- The statements of an unbroken node are unbroken. -/
lemma statements? (h : node.Unbroken) {nodes : List Node} (hnodes : node.statements? = some nodes) :
    ∀ inner ∈ nodes, inner.Unbroken :=
  fun _ hinner => h.child (mem_children_of_mem_statements? hnodes hinner)

/-- The heritage clauses of an unbroken node are unbroken. -/
lemma heritage (h : node.Unbroken) : ∀ clause ∈ node.heritage, clause.Unbroken :=
  fun _ hclause => h.child (mem_children_of_mem_heritage hclause)

/-! ### Names -/

/-- The text of an unbroken node is on one line. -/
lemma text? (h : node.Unbroken) {text : String} (htext : node.text? = some text) :
    SingleLine text := by
  have joined : ∀ {left right : Node} {first second : String},
      (∀ other ∈ left.texts ++ right.texts, SingleLine other) →
      (left.Unbroken → SingleLine first) → (right.Unbroken → SingleLine second) →
      SingleLine s!"{first}.{second}" := by
    intro left right first second hsides hleft hright
    obtain ⟨hleft', hright'⟩ := List.forall_mem_append.mp hsides
    have hboth := And.intro (hleft hleft') (hright hright')
    simpa [SingleLine, toString] using hboth
  induction node using Node.text?.induct generalizing text with
  | case1 kind line content =>
    obtain rfl : content = text := Option.some.inj htext
    exact h content List.mem_cons_self
  | case2 line left right first second hsecond hfirst ihleft ihright
  | case4 line left right first second hsecond hfirst ihleft ihright =>
    simp only [Node.text?, hfirst, hsecond] at htext
    obtain rfl := Option.some.inj htext
    exact joined h (fun hleft => ihleft hleft hfirst) fun hright => ihright hright hsecond
  | case3 line left right hmissing | case5 line left right hmissing =>
    rw [Node.text?] at htext
    split at htext
    · rename_i first second hfirst hsecond
      exact absurd hsecond (hmissing first second hfirst)
    · cases htext
  | case6 node htext' hqualified hproperty =>
    rw [Node.text?] at htext
    · cases htext
    all_goals assumption

/-- The text of an unbroken node that is asked for is on one line. -/
lemma nameText (h : node.Unbroken) {name : Option String}
    (hname : node.nameText.outcome = .ok name) : ∀ text ∈ name, SingleLine text := by
  obtain ⟨text, htext, rfl⟩ := Traced.bind_pure_outcome_eq_ok.mp hname
  rintro _ ⟨⟩
  exact h.text? (Traced.present_outcome_eq_ok.mp htext)

/-- The name that an unbroken node stands for is on one line. -/
lemma declaredName (h : node.Unbroken) {name : Option String}
    (hname : node.declaredName.outcome = .ok name) : ∀ text ∈ name, SingleLine text := by
  fun_induction Node.declaredName node with
  | case1 | case18 =>
    obtain rfl := Traced.pure_outcome_eq_ok.mp hname
    rintro _ ⟨⟩
  | case2 line expression ih => exact ih h hname
  | case3 | case4 => exact h.nameText hname
  | case5 line content | case6 line content | case7 line content =>
    obtain rfl := Traced.pure_outcome_eq_ok.mp hname
    rintro _ ⟨⟩
    exact h.text? rfl
  | _ => rename_i ih; exact ih (h.name? rfl) hname

/-- The name of an unbroken declaration is on one line. -/
lemma requiredName (h : node.Unbroken) {name : String}
    (hname : node.requiredName.outcome = .ok name) : SingleLine name := by
  rw [Node.requiredName] at hname
  obtain ⟨declared, hdeclared, hname⟩ := Traced.bind_outcome_eq_ok.mp hname
  cases declared with
  | some text =>
    obtain rfl := Traced.pure_outcome_eq_ok.mp hname
    exact h.declaredName hdeclared _ rfl
  | none =>
    simp only [Traced.bind_outcome_eq_ok, Traced.pure_outcome_eq_ok] at hname
    obtain ⟨-, -, -, -, rfl⟩ := hname
    decide

end Node.Unbroken

end ReasonBindings.Syntax
