import ReasonBindings.Proofs.Model.Relocation

/-!
# What matters of a syntax tree

Much of a declaration file has no place in bindings: where something is written, what a
class extends, enumerations, most modifiers, the names of arguments that are passed by
position.  The *essence* of a tree is the tree without all this.  Two trees that have the
same essence differ, at any depth, in such things only.

Two rules depend on what a parameter belongs to.  Its name is a label for the caller of a
constructor, and elsewhere as soon as it is optional; in a function type and in an index
signature it is never one.  Whether it takes all remaining arguments matters in a function
type and nowhere else.

Names, type parameters and the texts of annotations are the same in the essence.
-/

namespace ReasonBindings

namespace Syntax

/-! ### Signatures -/

namespace SignatureKind

/-- The question mark behind a signature that matters: that of an index signature, which stands for
a property. -/
def essentialMark (kind : SignatureKind) (optional : Bool) : Bool :=
  kind == indexSignature && optional

/-- The modifiers of a signature that matter: whether it belongs to the class itself, which is no
question for constructors and index signatures. -/
def essentialModifiers (kind : SignatureKind) (modifiers : List String) : List String :=
  match kind with
  | constructor | indexSignature => []
  | _ => if modifiers.contains "static" then ["static"] else []

/-- Whether the name of a parameter matters. -/
def labels (kind : SignatureKind) (optional : Bool) : Bool :=
  match kind with
  | constructor => true
  | functionType | indexSignature => false
  | _ => optional

/-- What matters of a parameter. -/
def essentialParameter (kind : SignatureKind) : Node → Node
  | .parameter line name type optional rest =>
    .parameter line (if kind.labels optional then name else .absent) type optional
      (kind == functionType && rest)
  | node => node

end SignatureKind

/-! ### Nodes -/

namespace Node

/-- Something is built from the statement. -/
def isSupportedStatement : Node → Bool
  | namespaceDecl .. | classDecl .. | interfaceDecl .. | aliasDecl .. | variableStatement .. |
    signature .functionDeclaration .. => true
  | _ => false

/-- Something is built from the member. -/
def isSupportedMember (node : Node) : Bool :=
  node.declaresProperty || node.declaresMethod

end Node

mutual

/-- What matters of a node. -/
def Node.essence : Node → Node
  | .absent => .absent
  | .word text => .word text
  | .bare kind _ => .bare kind none
  | .text kind _ text => .text kind none text
  | .qualifiedName _ left right => .qualifiedName none left.essence right.essence
  | .propertyAccess _ expression name => .propertyAccess none expression.essence name.essence
  | .computedName _ expression => .computedName none expression.essence
  | .keywordType _ keyword => .keywordType none keyword
  | .arrayType _ element => .arrayType none element.essence
  | .unionType _ arms => .unionType none (essences arms)
  | .tupleType _ elements => .tupleType none (essences elements)
  | .parenthesizedType _ inner => .parenthesizedType none inner.essence
  | .typeReference _ name arguments => .typeReference none name.essence (essences arguments)
  | .heritageType _ expression arguments =>
    .heritageType none expression.essence (essences arguments)
  | .objectType _ members => .objectType none ((essences members).filter (·.isSupportedMember))
  | .typeParameter _ name => .typeParameter none name.essence
  | .parameter _ name type optional rest =>
    .parameter none name.essence type.essence optional rest
  | .field kind _ name type optional _ => .field kind none name.essence type.essence optional []
  | .signature kind _ name type optional modifiers typeParameters parameters =>
    .signature kind none name.essence type.essence (kind.essentialMark optional)
      (kind.essentialModifiers modifiers) (essences typeParameters)
      ((essences parameters).map kind.essentialParameter)
  | .heritageClause _ token types => .heritageClause none token (essences types)
  | .interfaceDecl _ name typeParameters _ members =>
    .interfaceDecl none name.essence (essences typeParameters) []
      ((essences members).filter (·.isSupportedMember))
  | .classDecl _ name typeParameters _ members _ =>
    .classDecl none name.essence (essences typeParameters) []
      ((essences members).filter (·.isSupportedMember)) []
  | .aliasDecl _ name typeParameters type =>
    .aliasDecl none name.essence (essences typeParameters) type.essence
  | .variableDecl _ name type => .variableDecl none name.essence type.essence
  | .variableStatement _ declarations => .variableStatement none (essences declarations)
  | .enumDecl _ name members => .enumDecl none name.essence (essences members)
  | .block _ statements => .block none ((essences statements).filter (·.isSupportedStatement))
  | .namespaceDecl _ name body => .namespaceDecl none name.essence body.essence
  | .sourceFile _ path statements =>
    .sourceFile none path ((essences statements).filter (·.isSupportedStatement))

/-- What matters of each node of a list. -/
def essences : List Node → List Node
  | [] => []
  | node :: nodes => node.essence :: essences nodes

end

/-- What matters of a list is what matters of its members. -/
lemma essences_eq_map (nodes : List Node) : essences nodes = nodes.map Node.essence := by
  induction nodes with
  | nil => rfl
  | cons node nodes ih => rw [essences, ih, List.map_cons]

namespace Node

/-- A node that another one consists of is smaller. -/
lemma sizeOf_lt_of_mem_children {child node : Node} (h : child ∈ node.children) :
    sizeOf child < sizeOf node := by
  have hlist : ∀ {nodes : List Node}, child ∈ nodes → sizeOf child < sizeOf nodes :=
    List.sizeOf_lt_of_mem
  cases node <;>
    simp only [children, List.mem_cons, List.mem_append, List.not_mem_nil, or_false] at h <;>
    grind

/-- **Induction along syntax trees.**  A property that passes from the nodes that a node consists of
to the node holds of all nodes. -/
@[elab_as_elim]
theorem induction {motive : Node → Prop}
    (node : ∀ node : Node, (∀ child ∈ node.children, motive child) → motive node) (tree : Node) :
    motive tree :=
  node tree fun child _ => induction node child
termination_by sizeOf tree
decreasing_by exact sizeOf_lt_of_mem_children ‹_›

/-! ### Attributes -/

/-- A node proper has a line, which is not told. -/
lemma line?_essence (node : Node) : node.essence.line? = node.line?.map fun _ => none := by
  cases node <;> rfl

/-- The name is what matters of the name. -/
lemma name?_essence (node : Node) : node.essence.name? = node.name?.map essence := by
  cases node <;> rfl

/-- The type is what matters of the type. -/
lemma type?_essence (node : Node) : node.essence.type? = node.type?.map essence := by
  cases node <;> rfl

/-- The type parameters are what matters of them. -/
lemma typeParameters?_essence (node : Node) :
    node.essence.typeParameters? = node.typeParameters?.map essences := by
  cases node <;> rfl

/-- No heritage clauses are left. -/
lemma heritage_essence (node : Node) : node.essence.heritage = [] := by
  cases node <;> rfl

/-- What is built from a member depends on what matters of it. -/
lemma isSupportedMember_essence (node : Node) :
    node.essence.isSupportedMember = node.isSupportedMember := by
  cases node with
  | field kind => cases kind <;> rfl
  | signature kind => cases kind <;> rfl
  | _ => rfl

/-- What is built from a statement depends on what matters of it. -/
lemma isSupportedStatement_essence (node : Node) :
    node.essence.isSupportedStatement = node.isSupportedStatement := by
  cases node with
  | signature kind => cases kind <;> rfl
  | _ => rfl

/-! ### Names -/

/-- A name has the same text. -/
lemma text?_essence (node : Node) : node.essence.text? = node.text? := by
  induction node using Node.induction with
  | node node ih =>
    cases node with
    | qualifiedName line left right =>
      have hleft := ih left List.mem_cons_self
      have hright := ih right (List.mem_cons_of_mem _ List.mem_cons_self)
      rw [essence, text?, text?, hleft, hright]
    | propertyAccess line expression name =>
      have hleft := ih expression List.mem_cons_self
      have hright := ih name (List.mem_cons_of_mem _ List.mem_cons_self)
      rw [essence, text?, text?, hleft, hright]
    | _ => rfl

/-- The text that a name must have is the same. -/
lemma nameText_essence (node : Node) : node.essence.nameText = node.nameText := by
  rw [nameText, nameText, text?_essence]

/-- A declaration stands for the same name. -/
lemma declaredName_essence (node : Node) : node.essence.declaredName = node.declaredName := by
  induction node using Node.induction with
  | node node ih =>
    cases node with
    | qualifiedName line left right => exact nameText_essence (.qualifiedName line left right)
    | propertyAccess line expression name =>
      exact nameText_essence (.propertyAccess line expression name)
    | text kind => cases kind <;> rfl
    | computedName line inner | typeParameter line inner => exact ih inner List.mem_cons_self
    | parameter line name | field kind line name | signature kind line name
    | interfaceDecl line name | classDecl line name | aliasDecl line name | variableDecl line name
    | enumDecl line name | namespaceDecl line name => exact ih name List.mem_cons_self
    | _ => rfl

/-- Declarations that stand for the same name are called by the same name, whatever is reported. -/
lemma requiredName_outcome_congr {node node' : Node}
    (hname : node.declaredName = node'.declaredName)
    (hline : node.line?.isSome = node'.line?.isSome) :
    node.requiredName.outcome = node'.requiredName.outcome := by
  rw [requiredName, requiredName, hname, Traced.bind_outcome, Traced.bind_outcome]
  refine bind_congr fun declared => ?_
  cases declared with
  | some name => rfl
  | none =>
    -- Without a name the declaration has to have a line, whichever it is.
    cases hfirst : node.line? with
    | none =>
      have hsecond : node'.line? = none := by simpa [hfirst] using hline
      rw [hsecond]
      rfl
    | some line =>
      obtain ⟨line', hsecond⟩ : ∃ line', node'.line? = some line' :=
        Option.isSome_iff_exists.mp (by rw [← hline, hfirst]; rfl)
      rw [hsecond]
      rfl

/-- A declaration is called by the same name, whatever is reported. -/
lemma requiredName_essence (node : Node) :
    node.essence.requiredName.outcome = node.requiredName.outcome :=
  requiredName_outcome_congr node.declaredName_essence (by rw [line?_essence, Option.isSome_map])

/-- A type parameter has the same name. -/
lemma parameterName_essence (node : Node) :
    node.essence.parameterName = node.parameterName := by
  rw [parameterName, parameterName, name?_essence]
  cases node.name? with
  | none => rfl
  | some name => simp [text?_essence]

/-- The same type parameters are declared. -/
lemma ownTypeParameters_essence (node : Node) :
    node.essence.ownTypeParameters = node.ownTypeParameters := by
  rw [ownTypeParameters, ownTypeParameters, typeParameters?_essence]
  cases node.typeParameters? with
  | none => rfl
  | some parameters =>
    simp [essences_eq_map, Function.comp_def, parameterName_essence]

/-- Inside of a declaration the same type parameters are in scope. -/
lemma sameNames_essence (node : Node) (scope : Scope) :
    (scope.enter node.essence).SameNames (scope.enter node) :=
  (Scope.SameNames.refl scope).enter_congr node.ownTypeParameters_essence

end Node

end Syntax

end ReasonBindings
