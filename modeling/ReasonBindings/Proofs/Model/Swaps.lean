import Mathlib.Logic.Relation
import ReasonBindings.Proofs.Model.Relocation

/-!
# Swapping neighbours

Two statements next to each other are *independent* when they feed different lists of
records of the module that they stand in, and two members are independent when they do
not both make a property and do not both make a method.  `Swapped` relates two trees of
which the second one is the first one with two independent neighbours swapped, at any
depth.  The places where something can be swapped inside a node are listed by the
inductive predicates of slots; names and type parameters are not among them, because in
a well-typed tree they consist of identifiers and literals.

A type shows nothing of the members of an object type, so its text stays the same, and
so do the records of everything that consists of types: parameters, methods, properties
and whatever single members contribute.
-/

namespace ReasonBindings

open Syntax TypeText

namespace Model

/-! ### Independent neighbours -/

/-- The lists of records that a module consists of. -/
inductive RecordList where
  | modules
  | globals
  | interfaces
  | methods
deriving Repr, DecidableEq

/-- The lists of records to which a statement adds something. -/
def feeds : Node → List RecordList
  | .namespaceDecl .. => [.modules]
  | .classDecl .. | .interfaceDecl .. | .aliasDecl .. => [.interfaces]
  | .signature .functionDeclaration .. => [.methods]
  | .variableStatement _ declarations =>
    if declarations.any fun declaration => (inlineShape? declaration).isSome then
      [.globals, .interfaces]
    else [.globals]
  | _ => []

/-- The statements feed different lists. -/
def IndependentStatements (first second : Node) : Prop :=
  ∀ list ∈ feeds first, list ∉ feeds second

instance (first second : Node) : Decidable (IndependentStatements first second) :=
  inferInstanceAs (Decidable (∀ list ∈ feeds first, list ∉ feeds second))

/-- The members do not both make a property and do not both make a method. -/
structure IndependentMembers (first second : Node) : Prop where
  property : first.declaresProperty = false ∨ second.declaresProperty = false
  method : first.declaresMethod = false ∨ second.declaresMethod = false

/-! ### Slots -/

/-- What a list of nodes inside a node has in it. -/
inductive Content where
  | statements
  | members
  /-- Types, parameters, variables and the like, the order of which matters. -/
  | others
deriving Repr, DecidableEq

/-- The places for a list of nodes, other than type parameters. -/
inductive ListSlot : Content → (List Node → Node) → Prop
  | block (line : Line) : ListSlot .statements (.block line)
  | sourceFile (line : Line) (path : String) : ListSlot .statements (.sourceFile line path)
  | objectType (line : Line) : ListSlot .members (.objectType line)
  | interfaceMembers (line : Line) (name : Node) (typeParameters heritage : List Node) :
    ListSlot .members (.interfaceDecl line name typeParameters heritage)
  | classMembers (line : Line) (name : Node) (typeParameters heritage : List Node)
    (modifiers : List String) :
    ListSlot .members fun members => .classDecl line name typeParameters heritage members modifiers
  | interfaceHeritage (line : Line) (name : Node) (typeParameters members : List Node) :
    ListSlot .others fun heritage => .interfaceDecl line name typeParameters heritage members
  | classHeritage (line : Line) (name : Node) (typeParameters members : List Node)
    (modifiers : List String) :
    ListSlot .others fun heritage => .classDecl line name typeParameters heritage members modifiers
  | heritageClause (line : Line) (token : String) : ListSlot .others (.heritageClause line token)
  | heritageType (line : Line) (expression : Node) :
    ListSlot .others (.heritageType line expression)
  | typeReference (line : Line) (name : Node) : ListSlot .others (.typeReference line name)
  | unionType (line : Line) : ListSlot .others (.unionType line)
  | tupleType (line : Line) : ListSlot .others (.tupleType line)
  | parameters (kind : SignatureKind) (line : Line) (name type : Node) (optional : Bool)
    (modifiers : List String) (typeParameters : List Node) :
    ListSlot .others (.signature kind line name type optional modifiers typeParameters)
  | variableStatement (line : Line) : ListSlot .others (.variableStatement line)

/-- The places for a single node, other than names. -/
inductive NodeSlot : (Node → Node) → Prop
  | arrayType (line : Line) : NodeSlot (.arrayType line)
  | parenthesizedType (line : Line) : NodeSlot (.parenthesizedType line)
  | parameter (line : Line) (name : Node) (optional rest : Bool) :
    NodeSlot fun type => .parameter line name type optional rest
  | field (kind : FieldKind) (line : Line) (name : Node) (optional : Bool)
    (modifiers : List String) :
    NodeSlot fun type => .field kind line name type optional modifiers
  | signature (kind : SignatureKind) (line : Line) (name : Node) (optional : Bool)
    (modifiers : List String) (typeParameters parameters : List Node) :
    NodeSlot fun type =>
      .signature kind line name type optional modifiers typeParameters parameters
  | aliasDecl (line : Line) (name : Node) (typeParameters : List Node) :
    NodeSlot (.aliasDecl line name typeParameters)
  | variableDecl (line : Line) (name : Node) : NodeSlot (.variableDecl line name)
  | namespaceDecl (line : Line) (name : Node) : NodeSlot (.namespaceDecl line name)

/-- The second tree is the first one with two independent neighbours swapped, at any depth. -/
inductive Swapped : Node → Node → Prop
  | statements {slot : List Node → Node} {before after : List Node} {first second : Node} :
    ListSlot .statements slot → IndependentStatements first second →
    Swapped (slot (before ++ first :: second :: after)) (slot (before ++ second :: first :: after))
  | members {slot : List Node → Node} {before after : List Node} {first second : Node} :
    ListSlot .members slot → IndependentMembers first second →
    Swapped (slot (before ++ first :: second :: after)) (slot (before ++ second :: first :: after))
  | inList {content : Content} {slot : List Node → Node} {before after : List Node}
    {node node' : Node} : ListSlot content slot → Swapped node node' →
    Swapped (slot (before ++ node :: after)) (slot (before ++ node' :: after))
  | inPlace {slot : Node → Node} {node node' : Node} : NodeSlot slot → Swapped node node' →
    Swapped (slot node) (slot node')

/-! ### Heads -/

/-- What does not change when the nodes inside a node change, names and type parameters apart. -/
structure SameHead (node node' : Node) : Prop where
  line : node.line? = node'.line?
  className : node.className = node'.className
  name : node.name? = node'.name?
  declaredName : node.declaredName = node'.declaredName
  typeParameters : node.typeParameters? = node'.typeParameters?
  optional : node.optional? = node'.optional?
  rest : node.rest? = node'.rest?
  modifiers : node.modifiers = node'.modifiers

/-- Whatever stands in a list inside a node, the head of the node is the same. -/
lemma ListSlot.sameHead {content : Content} {slot : List Node → Node} (h : ListSlot content slot)
    (nodes nodes' : List Node) : SameHead (slot nodes) (slot nodes') := by
  cases h <;> exact ⟨rfl, rfl, rfl, rfl, rfl, rfl, rfl, rfl⟩

/-- Whatever stands in a place inside a node, the head of the node is the same. -/
lemma NodeSlot.sameHead {slot : Node → Node} (h : NodeSlot slot) (node node' : Node) :
    SameHead (slot node) (slot node') := by
  cases h <;> exact ⟨rfl, rfl, rfl, rfl, rfl, rfl, rfl, rfl⟩

/-- A swap inside a node does not change its head. -/
lemma Swapped.sameHead {node node' : Node} (h : Swapped node node') : SameHead node node' := by
  cases h with
  | statements hslot => exact hslot.sameHead _ _
  | members hslot => exact hslot.sameHead _ _
  | inList hslot => exact hslot.sameHead _ _
  | inPlace hslot => exact hslot.sameHead _ _

/-- Entering declarations with the same head keeps the names of type parameters. -/
lemma SameHead.sameNames {node node' : Node} (h : SameHead node node') (scope : Scope) :
    (scope.enter node).SameNames (scope.enter node') := by
  have hown : node.ownTypeParameters = node'.ownTypeParameters := by
    rw [Node.ownTypeParameters, Node.ownTypeParameters, h.typeParameters]
  exact (Scope.SameNames.refl scope).enter_congr hown

/-- Declarations with the same head have the same name. -/
lemma SameHead.requiredName_eq {node node' : Node} (h : SameHead node node') :
    node.requiredName = node'.requiredName := by
  rw [Node.requiredName, Node.requiredName, h.declaredName, h.className, h.line]

/-- Declarations with the same head have the same name with type parameters. -/
lemma SameHead.genericName_eq {node node' : Node} (h : SameHead node node') :
    genericName node = genericName node' := by
  rw [genericName, genericName, h.requiredName_eq, h.typeParameters]

/-- The same name is chosen for declarations with the same head. -/
lemma SameHead.chosenName_eq {node node' : Node} (h : SameHead node node')
    (name : Option String) : chosenName node name = chosenName node' name := by
  cases name with
  | none => exact h.genericName_eq
  | some given => rw [chosenName, chosenName, h.genericName_eq]

/-! ### Texts of annotations -/

/-- In no scope can the two nodes be told apart by their texts, as types or as parameters of
function types. -/
structure SameText (node node' : Node) : Prop where
  type : ∀ scope, typeText scope node = typeText scope node'
  parameter : ∀ scope, callbackParameterText scope node = callbackParameterText scope node'

/-- The text of a union depends on the cases after the first one through their texts. -/
lemma union_cons_congr (first : Node) {arms arms' : List Node}
    (h : arms.map enumCase = arms'.map enumCase) :
    union (first :: arms) = union (first :: arms') := by
  have hlength : arms.length = arms'.length := by
    rw [← List.length_map enumCase, h, List.length_map]
  have hopen : (do Traced.note (.degradedUnion (first :: arms).length); return anonymous) = (do
      Traced.note (.degradedUnion (first :: arms').length)
      return anonymous) := by
    rw [List.length_cons, List.length_cons, hlength]
  cases first with
  | text kind =>
    cases kind with
    | stringLiteralType => simp only [union, List.map_cons, h]
    | _ => exact hopen
  | _ => exact hopen

/-- A union does not change when something is swapped inside of one of its cases: nothing can be
swapped inside of a string, so the case is left open both times. -/
lemma union_swapped {node node' : Node} (h : Swapped node node') (before after : List Node) :
    union (before ++ node :: after) = union (before ++ node' :: after) := by
  cases before with
  | nil =>
    cases h with
    | statements hslot | members hslot | inList hslot | inPlace hslot => cases hslot <;> rfl
  | cons first rest =>
    have hcase : enumCase node = enumCase node' := by
      cases h with
      | statements hslot | members hslot | inList hslot | inPlace hslot => cases hslot <;> rfl
    rw [List.cons_append, List.cons_append]
    refine union_cons_congr first ?_
    rw [List.map_append, List.map_append, List.map_cons, List.map_cons, hcase]

/-- References to one name have the same text when their arguments have the same texts. -/
lemma typeText_reference_congr {scope : Scope} {node node' name : Node} {ending : String}
    {arguments arguments' : List Node} (h : reference? node = some ⟨name, ending, arguments⟩)
    (h' : reference? node' = some ⟨name, ending, arguments'⟩)
    (harguments : arguments.map (typeText scope) = arguments'.map (typeText scope)) :
    typeText scope node = typeText scope node' := by
  rw [typeText_reference_resolves h, typeText_reference_resolves h', harguments]

/-- Function types with the same head have the same text when their parts have the same texts. -/
lemma typeText_functionType_congr {line : Line} {name result result' : Node} {optional : Bool}
    {modifiers : List String} {typeParameters parameters parameters' : List Node}
    (hresult : ∀ scope, typeText scope result = typeText scope result')
    (hparameters : ∀ scope, parameters.map (callbackParameterText scope) =
      parameters'.map (callbackParameterText scope)) (scope : Scope) :
    typeText scope (.signature .functionType line name result optional modifiers typeParameters
        parameters) =
      typeText scope (.signature .functionType line name result' optional modifiers typeParameters
        parameters') := by
  have hnames : (scope.enter (.signature .functionType line name result optional modifiers
      typeParameters parameters)).SameNames (scope.enter (.signature .functionType line name result'
      optional modifiers typeParameters parameters')) := by
    refine SameHead.sameNames ?_ scope
    exact ⟨rfl, rfl, rfl, rfl, rfl, rfl, rfl, rfl⟩
  rw [typeText_functionType, typeText_functionType]
  simp only [hparameters, hresult, hnames.typeText_eq, funext hnames.callbackParameterText_eq]

/-- **Types hide members.**  A swap inside a type does not change its text. -/
theorem Swapped.sameText {node node' : Node} (h : Swapped node node') : SameText node node' := by
  induction h with
  | statements hslot | members hslot => cases hslot <;> exact ⟨fun _ => rfl, fun _ => rfl⟩
  | @inList content slot before after node node' hslot hswapped ih =>
    have htexts : ∀ scope, (before ++ node :: after).map (typeText scope) =
        (before ++ node' :: after).map (typeText scope) := by
      intro scope
      rw [List.map_append, List.map_append, List.map_cons, List.map_cons, ih.type]
    have hparameters : ∀ scope, (before ++ node :: after).map (callbackParameterText scope) =
        (before ++ node' :: after).map (callbackParameterText scope) := by
      intro scope
      rw [List.map_append, List.map_append, List.map_cons, List.map_cons, ih.parameter]
    cases hslot with
    | unionType line => exact ⟨fun _ => union_swapped hswapped before after, fun _ => rfl⟩
    | tupleType line =>
      refine ⟨fun scope => ?_, fun _ => rfl⟩
      rw [typeText_tupleType, typeText_tupleType, htexts]
    | typeReference line name =>
      refine ⟨fun scope => ?_, fun _ => rfl⟩
      cases name with
      | text kind =>
        cases kind with
        | identifier => exact typeText_reference_congr rfl rfl (htexts scope)
        | _ => rfl
      | qualifiedName => exact typeText_reference_congr rfl rfl (htexts scope)
      | _ => rfl
    | heritageType line expression =>
      refine ⟨fun scope => ?_, fun _ => rfl⟩
      cases expression with
      | text kind =>
        cases kind with
        | identifier => exact typeText_reference_congr rfl rfl (htexts scope)
        | _ => rfl
      | propertyAccess => exact typeText_reference_congr rfl rfl (htexts scope)
      | _ => rfl
    | parameters kind =>
      cases kind with
      | functionType =>
        exact ⟨typeText_functionType_congr (fun _ => rfl) hparameters, fun _ => rfl⟩
      | _ => exact ⟨fun _ => rfl, fun _ => rfl⟩
    | _ => exact ⟨fun _ => rfl, fun _ => rfl⟩
  | @inPlace slot node node' hslot hswapped ih =>
    cases hslot with
    | arrayType line =>
      refine ⟨fun scope => ?_, fun _ => rfl⟩
      rw [typeText_arrayType, typeText_arrayType, ih.type]
    | parenthesizedType line => exact ⟨ih.type, fun _ => rfl⟩
    | parameter line name optional rest =>
      refine ⟨fun _ => rfl, fun scope => ?_⟩
      rw [callbackParameterText, callbackParameterText, ih.type]
    | signature kind =>
      cases kind with
      | functionType =>
        exact ⟨typeText_functionType_congr ih.type fun _ => rfl, fun _ => rfl⟩
      | _ => exact ⟨fun _ => rfl, fun _ => rfl⟩
    | _ => exact ⟨fun _ => rfl, fun _ => rfl⟩

/-! ### Records of single nodes -/

/-- Two nodes are the same, or something is swapped inside. -/
abbrev SameOrSwapped : Node → Node → Prop :=
  Relation.ReflGen Swapped

/-- Types that are the same up to a swap have the same text. -/
lemma SameOrSwapped.typeText_eq {type type' : Node} (h : SameOrSwapped type type') (scope : Scope) :
    typeText scope type = typeText scope type' := by
  cases h with
  | refl => rfl
  | single hswapped => exact hswapped.sameText.type scope

/-- The same parameters are built in every scope. -/
def SameParameters (parameters parameters' : List Node) : Prop :=
  ∀ scope, parameters.map (parameterOf scope) = parameters'.map (parameterOf scope)

/-- A swap inside a node leaves its type as it is or is a swap inside of that. -/
lemma Swapped.type? {node node' : Node} (h : Swapped node node') :
    Option.Rel SameOrSwapped node.type? node'.type? := by
  have same : ∀ type? : Option Node, Option.Rel SameOrSwapped type? type? :=
    optionRel_refl fun _ => .refl
  cases h with
  | statements hslot | members hslot | inList hslot => cases hslot <;> exact same _
  | inPlace hslot hswapped =>
    cases hslot with
    | arrayType | namespaceDecl => exact .none
    | _ => exact .some (.single hswapped)

/-- A swap inside a parameter does not change its record. -/
lemma Swapped.parameterOf_eq {node node' : Node} (h : Swapped node node') (scope : Scope) :
    parameterOf scope node = parameterOf scope node' := by
  obtain ⟨-, -, hname, -, -, hoptional, hrest, -⟩ := h.sameHead
  simp only [parameterOf, hname, hoptional, hrest]
  refine bind_congr fun name => bind_congr fun label => ?_
  refine Traced.present_bind_congr h.type? fun type type' htype => ?_
  rw [htype.typeText_eq]

/-- A swap inside a declaration does not change the records of its parameters. -/
lemma Swapped.parameters? {node node' : Node} (h : Swapped node node') :
    Option.Rel SameParameters node.parameters? node'.parameters? := by
  have same : ∀ parameters? : Option (List Node),
      Option.Rel SameParameters parameters? parameters? := optionRel_refl fun _ _ => rfl
  cases h with
  | statements hslot | members hslot | inPlace hslot => cases hslot <;> exact same _
  | inList hslot hswapped =>
    cases hslot with
    | parameters =>
      refine .some fun scope => ?_
      rw [List.map_append, List.map_append, List.map_cons, List.map_cons,
        hswapped.parameterOf_eq scope]
    | _ => exact same _

/-- A swap inside a declaration with parameters does not change its record. -/
lemma Swapped.methodOf_eq {node node' : Node} (h : Swapped node node') (scope : Scope)
    (name : Option String) (static ctor : Bool) (owner : String) :
    methodOf scope node name static ctor owner = methodOf scope node' name static ctor owner := by
  have hnames := h.sameHead.sameNames scope
  have hparameterOf : parameterOf (scope.enter node) = parameterOf (scope.enter node') :=
    funext (parameterOf_congr hnames)
  have hstatic : node.isStatic = node'.isStatic := by
    rw [Node.isStatic, Node.isStatic, h.sameHead.modifiers]
  simp only [methodOf, hparameterOf, hnames.typeText_eq, h.sameHead.requiredName_eq, hstatic,
    h.sameHead.optional]
  refine Traced.present_bind_congr h.parameters? fun parameters parameters' hparameters => ?_
  rw [hparameters]
  refine bind_congr fun built => ?_
  cases name with
  | none | some =>
    refine bind_congr fun bound => ?_
    refine Traced.present_bind_congr h.type? fun type type' htype => ?_
    rw [htype.typeText_eq]

/-- A swap inside a property does not change its record. -/
lemma Swapped.propertyOf_eq {node node' : Node} (h : Swapped node node') (scope : Scope) :
    propertyOf scope node = propertyOf scope node' := by
  have hstatic : node.isStatic = node'.isStatic := by
    rw [Node.isStatic, Node.isStatic, h.sameHead.modifiers]
  simp only [propertyOf, h.sameHead.requiredName_eq, h.sameHead.optional, h.sameHead.name, hstatic]
  refine bind_congr fun name => ?_
  refine Traced.present_bind_congr h.type? fun type type' htype => ?_
  rw [htype.typeText_eq]

/-- A swap inside an index signature does not change its record. -/
lemma Swapped.indexPropertyOf_eq {node node' : Node} (h : Swapped node node') (scope : Scope) :
    indexPropertyOf scope node = indexPropertyOf scope node' := by
  have hstatic : node.isStatic = node'.isStatic := by
    rw [Node.isStatic, Node.isStatic, h.sameHead.modifiers]
  simp only [indexPropertyOf, (h.sameHead.sameNames scope).typeText_eq, h.sameHead.optional,
    hstatic]
  refine Traced.present_bind_congr h.type? fun type type' htype => ?_
  rw [htype.typeText_eq]

/-- **Single members.**  A swap inside a member does not change what it contributes. -/
theorem Swapped.contributionOf_eq {node node' : Node} (h : Swapped node node') (scope : Scope)
    (owner : String) : contributionOf scope owner node = contributionOf scope owner node' := by
  have hmethod := h.methodOf_eq scope
  have hproperty := h.propertyOf_eq scope
  have hindex := h.indexPropertyOf_eq scope
  cases h with
  | statements hslot | members hslot => cases hslot <;> rfl
  | inList hslot =>
    cases hslot with
    | parameters kind =>
      cases kind with
      | indexSignature => simp only [contributionOf, hindex]
      | signature | functionType | functionDeclaration => rfl
      | _ => simp only [contributionOf, keyMethodOf, hmethod]
    | _ => rfl
  | inPlace hslot =>
    cases hslot with
    | field kind =>
      cases kind with
      | member => rfl
      | _ => simp only [contributionOf, hproperty]
    | signature kind =>
      cases kind with
      | indexSignature => simp only [contributionOf, hindex]
      | signature | functionType | functionDeclaration => rfl
      | _ => simp only [contributionOf, keyMethodOf, hmethod]
    | _ => rfl

end Model

end ReasonBindings
