import ReasonBindings.Proofs.TypeText.Essence

/-!
# Lines of declarations

Every node of a syntax tree has a line, which says where it was written.  Lines are for
reports: what is built from a tree is built from the tree without its lines as well, and
one of them ends in a fault when the other does.
-/

namespace ReasonBindings

namespace Syntax

mutual

/-- A node without the lines of the node and of everything in it. -/
def Node.unlined : Node → Node
  | .absent => .absent
  | .word text => .word text
  | .bare kind _ => .bare kind none
  | .text kind _ text => .text kind none text
  | .qualifiedName _ left right => .qualifiedName none left.unlined right.unlined
  | .propertyAccess _ expression name => .propertyAccess none expression.unlined name.unlined
  | .computedName _ expression => .computedName none expression.unlined
  | .keywordType _ keyword => .keywordType none keyword
  | .arrayType _ element => .arrayType none element.unlined
  | .unionType _ arms => .unionType none (unlinedNodes arms)
  | .tupleType _ elements => .tupleType none (unlinedNodes elements)
  | .parenthesizedType _ inner => .parenthesizedType none inner.unlined
  | .typeReference _ name arguments => .typeReference none name.unlined (unlinedNodes arguments)
  | .heritageType _ expression arguments =>
    .heritageType none expression.unlined (unlinedNodes arguments)
  | .objectType _ members => .objectType none (unlinedNodes members)
  | .typeParameter _ name => .typeParameter none name.unlined
  | .parameter _ name type optional rest =>
    .parameter none name.unlined type.unlined optional rest
  | .field kind _ name type optional modifiers =>
    .field kind none name.unlined type.unlined optional modifiers
  | .signature kind _ name type optional modifiers typeParameters parameters =>
    .signature kind none name.unlined type.unlined optional modifiers
      (unlinedNodes typeParameters) (unlinedNodes parameters)
  | .heritageClause _ token types => .heritageClause none token (unlinedNodes types)
  | .interfaceDecl _ name typeParameters heritage members =>
    .interfaceDecl none name.unlined (unlinedNodes typeParameters) (unlinedNodes heritage)
      (unlinedNodes members)
  | .classDecl _ name typeParameters heritage members modifiers =>
    .classDecl none name.unlined (unlinedNodes typeParameters) (unlinedNodes heritage)
      (unlinedNodes members) modifiers
  | .aliasDecl _ name typeParameters type =>
    .aliasDecl none name.unlined (unlinedNodes typeParameters) type.unlined
  | .variableDecl _ name type => .variableDecl none name.unlined type.unlined
  | .variableStatement _ declarations => .variableStatement none (unlinedNodes declarations)
  | .enumDecl _ name members => .enumDecl none name.unlined (unlinedNodes members)
  | .block _ statements => .block none (unlinedNodes statements)
  | .namespaceDecl _ name body => .namespaceDecl none name.unlined body.unlined
  | .sourceFile _ path statements => .sourceFile none path (unlinedNodes statements)

/-- The nodes of a list without their lines. -/
def unlinedNodes : List Node → List Node
  | [] => []
  | node :: nodes => node.unlined :: unlinedNodes nodes

end

/-- The nodes of a list lose their lines one by one. -/
lemma unlinedNodes_eq_map (nodes : List Node) : unlinedNodes nodes = nodes.map Node.unlined := by
  induction nodes with
  | nil => rfl
  | cons node nodes ih => rw [unlinedNodes, ih, List.map_cons]

namespace Node

/-- No line matters. -/
lemma essence_unlined (node : Node) : node.unlined.essence = node.essence := by
  induction node using Node.induction with
  | node node ih =>
    have hlist : ∀ nodes : List Node, (∀ child ∈ nodes, child.unlined.essence = child.essence) →
        essences (unlinedNodes nodes) = essences nodes := by
      intro nodes hnodes
      rw [unlinedNodes_eq_map, essences_eq_map, essences_eq_map, List.map_map]
      exact List.map_congr_left hnodes
    cases node <;> simp_all [unlined, essence, children]

/-! ### Attributes -/

/-- The name loses its lines. -/
lemma name?_unlined (node : Node) : node.unlined.name? = node.name?.map unlined := by
  cases node <;> rfl

/-- The type loses its lines. -/
lemma type?_unlined (node : Node) : node.unlined.type? = node.type?.map unlined := by
  cases node <;> rfl

/-- The body of a namespace loses its lines. -/
lemma body?_unlined (node : Node) : node.unlined.body? = node.body?.map unlined := by
  cases node <;> rfl

/-- The parameters lose their lines. -/
lemma parameters?_unlined (node : Node) :
    node.unlined.parameters? = node.parameters?.map (List.map unlined) := by
  cases node with
  | signature => exact congrArg some (unlinedNodes_eq_map _)
  | _ => rfl

/-- The type parameters lose their lines. -/
lemma typeParameters?_unlined (node : Node) :
    node.unlined.typeParameters? = node.typeParameters?.map (List.map unlined) := by
  cases node with
  | signature | interfaceDecl | classDecl | aliasDecl => exact congrArg some (unlinedNodes_eq_map _)
  | _ => rfl

/-- The members lose their lines. -/
lemma members?_unlined (node : Node) :
    node.unlined.members? = node.members?.map (List.map unlined) := by
  cases node with
  | objectType | interfaceDecl | classDecl | enumDecl => exact congrArg some (unlinedNodes_eq_map _)
  | _ => rfl

/-- The types of a heritage clause lose their lines. -/
lemma types?_unlined (node : Node) :
    node.unlined.types? = node.types?.map (List.map unlined) := by
  cases node with
  | unionType | heritageClause => exact congrArg some (unlinedNodes_eq_map _)
  | _ => rfl

/-- The variables of a statement lose their lines. -/
lemma declarations?_unlined (node : Node) :
    node.unlined.declarations? = node.declarations?.map (List.map unlined) := by
  cases node with
  | variableStatement => exact congrArg some (unlinedNodes_eq_map _)
  | _ => rfl

/-- The heritage clauses lose their lines. -/
lemma heritage_unlined (node : Node) : node.unlined.heritage = node.heritage.map unlined := by
  cases node with
  | interfaceDecl | classDecl => exact unlinedNodes_eq_map _
  | _ => rfl

/-- The statements of a body lose their lines. -/
lemma bodyStatements_unlined (body : Node) :
    body.unlined.bodyStatements = body.bodyStatements.map unlined := by
  cases body with
  | block => exact unlinedNodes_eq_map _
  | _ => rfl

/-- The question mark stays. -/
lemma optional?_unlined (node : Node) : node.unlined.optional? = node.optional? := by
  cases node <;> rfl

/-- The rest token stays. -/
lemma rest?_unlined (node : Node) : node.unlined.rest? = node.rest? := by
  cases node <;> rfl

/-- The modifiers stay. -/
lemma isStatic_unlined (node : Node) : node.unlined.isStatic = node.isStatic := by
  cases node <;> rfl

/-! ### Names -/

/-- A declaration stands for the same name. -/
lemma declaredName_unlined (node : Node) : node.unlined.declaredName = node.declaredName := by
  rw [← declaredName_essence, essence_unlined, declaredName_essence]

/-- A declaration is called by the same name, whatever is reported. -/
lemma requiredName_unlined (node : Node) :
    node.unlined.requiredName.outcome = node.requiredName.outcome := by
  rw [← requiredName_essence, essence_unlined, requiredName_essence]

/-- A type parameter has the same name. -/
lemma parameterName_unlined (node : Node) : node.unlined.parameterName = node.parameterName := by
  rw [← parameterName_essence, essence_unlined, parameterName_essence]

/-- Inside of a declaration the same type parameters are in scope. -/
lemma sameNames_unlined (node : Node) (scope : Scope) :
    (scope.enter node.unlined).SameNames (scope.enter node) := by
  refine (Scope.SameNames.refl scope).enter_congr ?_
  rw [← ownTypeParameters_essence, essence_unlined, ownTypeParameters_essence]

end Node

end Syntax

open Syntax

namespace Model

/-! ### Records of single members -/

/-- An annotation has the same text. -/
lemma typeText_unlined (scope : Scope) (node : Node) :
    typeText scope node.unlined = typeText scope node := by
  rw [← (sameText_essence node.unlined).type, node.essence_unlined, (sameText_essence node).type]

/-- A parameter has the same record. -/
lemma parameterOf_unlined (scope : Scope) (node : Node) :
    parameterOf scope node.unlined = parameterOf scope node := by
  simp only [parameterOf, node.name?_unlined, node.type?_unlined, node.optional?_unlined,
    node.rest?_unlined, Traced.present_map, bind_map_left, Node.declaredName_unlined,
    typeText_unlined]

/-- A declaration with parameters has the same record. -/
lemma methodOf_unlined (scope : Scope) (node : Node) (name : Option String) (static ctor : Bool)
    (owner : String) :
    (methodOf scope node.unlined name static ctor owner).outcome =
      (methodOf scope node name static ctor owner).outcome := by
  have hnames := node.sameNames_unlined scope
  have hparameters : parameterOf (scope.enter node.unlined) = parameterOf (scope.enter node) :=
    funext (parameterOf_congr hnames)
  simp only [methodOf, node.parameters?_unlined, node.type?_unlined, node.optional?_unlined,
    node.isStatic_unlined, Traced.present_map, bind_map_left, List.map_map, Function.comp_def,
    hparameters, parameterOf_unlined, hnames.typeText_eq, typeText_unlined]
  cases name with
  | some given => rfl
  | none => simp only [Traced.bind_outcome, node.requiredName_unlined]

/-- A name in brackets stays in brackets. -/
lemma isComputed_unlined (name : Node) : isComputed name.unlined = isComputed name := by
  cases name <;> rfl

/-- A property has the same record. -/
lemma propertyOf_unlined (scope : Scope) (node : Node) :
    (propertyOf scope node.unlined).outcome = (propertyOf scope node).outcome := by
  simp only [propertyOf, node.type?_unlined, node.optional?_unlined, node.name?_unlined,
    node.isStatic_unlined, Traced.present_map, bind_map_left, isComputed_unlined, typeText_unlined,
    Traced.bind_outcome, node.requiredName_unlined]

/-- An index signature has the same record. -/
lemma indexPropertyOf_unlined (scope : Scope) (node : Node) :
    indexPropertyOf scope node.unlined = indexPropertyOf scope node := by
  simp only [indexPropertyOf, node.type?_unlined, node.optional?_unlined, node.isStatic_unlined,
    Traced.present_map, bind_map_left, (node.sameNames_unlined scope).typeText_eq,
    typeText_unlined]

/-- A method whose name stands in brackets has the same record. -/
lemma keyMethodOf_unlined (scope : Scope) (node key : Node) (owner : String) :
    (keyMethodOf scope node.unlined key.unlined owner).outcome =
      (keyMethodOf scope node key owner).outcome := by
  simp only [keyMethodOf, key.declaredName_unlined, Traced.bind_outcome, methodOf_unlined]

/-- **Members.**  A member contributes the same. -/
lemma contributionOf_unlined (scope : Scope) (owner : String) (node : Node) :
    (contributionOf scope owner node.unlined).outcome =
      (contributionOf scope owner node).outcome := by
  have hmethod := methodOf_unlined scope node
  have hproperty := propertyOf_unlined scope node
  have hindex := indexPropertyOf_unlined scope node
  have hkey := keyMethodOf_unlined scope node
  cases node with
  | field kind =>
    rw [Node.unlined] at hproperty ⊢
    cases kind with
    | member => rfl
    | _ => simp only [contributionOf, Traced.bind_outcome, hproperty]
  | signature kind =>
    rw [Node.unlined] at hmethod hindex hkey ⊢
    cases kind with
    | indexSignature => simp only [contributionOf, hindex]
    | callSignature | constructSignature | constructor =>
      simp only [contributionOf, Traced.bind_outcome, hmethod]
    | methodSignature | methodDeclaration =>
      simp only [contributionOf, isComputed_unlined]
      split
      · simp only [Traced.bind_outcome, hkey]
      · simp only [Traced.bind_outcome, hmethod]
    | _ => rfl
  | _ => rfl

/-- Members contribute the same, inside of declarations with the same type parameters. -/
lemma contributions_unlined {scope scope' : Scope} (h : scope.SameNames scope') (owner : String)
    (members : List Node) :
    (Traced.all (members.map fun member => contributionOf scope owner member.unlined)).outcome =
      (Traced.all (members.map (contributionOf scope' owner))).outcome := by
  refine Traced.all_map_outcome_congr fun member _ => ?_
  rw [contributionOf_congr h, contributionOf_unlined]

/-! ### Interfaces -/

/-- A declaration has the same name with type parameters. -/
lemma genericName_unlined (node : Node) :
    (genericName node.unlined).outcome = (genericName node).outcome := by
  simp only [genericName, node.typeParameters?_unlined, Traced.present_map, bind_map_left,
    List.isEmpty_map, List.map_map, Function.comp_def, Node.parameterName_unlined,
    Traced.bind_outcome, node.requiredName_unlined]

/-- The same name is chosen for a declaration. -/
lemma chosenName_unlined (node : Node) (name : Option String) :
    (chosenName node.unlined name).outcome = (chosenName node name).outcome := by
  cases name with
  | none => exact genericName_unlined node
  | some given =>
    rw [chosenName, chosenName]
    split
    · exact genericName_unlined node
    · rfl

/-- The types of a heritage clause have the same texts. -/
lemma clauseTexts_unlined (scope : Scope) (clause : Node) :
    clauseTexts scope clause.unlined = clauseTexts scope clause := by
  simp only [clauseTexts, clause.types?_unlined, Traced.present_map, bind_map_left,
    typeTexts_eq_all, List.map_map, Function.comp_def, typeText_unlined]

/-- A class, an interface or an object type has the same record. -/
lemma interfaceOf_unlined (scope : Scope) (node : Node) (kind : InterfaceKind)
    (name : Option String) :
    (interfaceOf scope node.unlined kind name).outcome =
      (interfaceOf scope node kind name).outcome := by
  have hnames := node.sameNames_unlined scope
  have hclauses : clauseTexts (scope.enter node.unlined) = clauseTexts (scope.enter node) :=
    funext (clauseTexts_congr hnames)
  simp only [interfaceOf, node.heritage_unlined, node.members?_unlined, List.map_map,
    Function.comp_def, hclauses, clauseTexts_unlined, Traced.present_map, bind_map_left,
    Traced.bind_outcome, chosenName_unlined, contributions_unlined hnames]

/-- An alias has the same record. -/
lemma aliasOf_unlined (scope : Scope) (node : Node) :
    (aliasOf scope node.unlined).outcome = (aliasOf scope node).outcome := by
  have hnames := node.sameNames_unlined scope
  simp only [aliasOf, node.type?_unlined, Traced.present_map, bind_map_left, Traced.bind_outcome,
    genericName_unlined]
  refine bind_congr fun name => bind_congr fun aliased => ?_
  have htype : typeText (scope.enter node.unlined) aliased.unlined =
      typeText (scope.enter node) aliased := by
    rw [hnames.typeText_eq, typeText_unlined]
  cases aliased with
  | objectType line members =>
    simp only [Node.unlined, unlinedNodes_eq_map, List.map_map, Function.comp_def,
      Traced.bind_outcome, contributions_unlined hnames]
  | _ =>
    exact congrArg (fun text : Traced String => (do
      let interface := interfaceWith name .interfaceLike [← text] []
      Traced.note (.collectedAlias name)
      return interface : Traced Interface).outcome) htype

/-! ### Statements -/

/-- A variable has the same record, and so has its type. -/
lemma variableOf_unlined (scope : Scope) (node : Node) :
    (variableOf scope node.unlined).outcome = (variableOf scope node).outcome := by
  simp only [variableOf, node.type?_unlined, Traced.present_map, bind_map_left, Traced.bind_outcome,
    node.requiredName_unlined]
  refine bind_congr fun name => bind_congr fun written => ?_
  have htype := typeText_unlined scope written
  have hinterface := interfaceOf_unlined scope written
  cases written with
  | objectType line members =>
    rw [Node.unlined] at hinterface ⊢
    simp only [Traced.bind_outcome, hinterface]
  | _ =>
    exact congrArg (fun text : Traced String => (do
      return (⟨name, ← text, true⟩, none) : Traced (Variable × Option Interface)).outcome) htype

/-- The variables of a statement have the same records. -/
lemma variablesOf_unlined (scope : Scope) (node : Node) :
    (variablesOf scope node.unlined).outcome = (variablesOf scope node).outcome := by
  have hvariables : ∀ declarations : List Node,
      (Traced.all (declarations.map fun declaration =>
        variableOf scope declaration.unlined)).outcome =
      (Traced.all (declarations.map (variableOf scope))).outcome := fun declarations =>
    Traced.all_map_outcome_congr fun declaration _ => variableOf_unlined scope declaration
  simp only [variablesOf, node.declarations?_unlined, Traced.present_map, bind_map_left,
    List.map_map, Function.comp_def, Traced.bind_outcome, hvariables]

/-- A statement that holds no others adds the same. -/
lemma simpleStatementOf_unlined (scope : Scope) (owner : String) (node : Node) :
    (simpleStatementOf scope owner node.unlined).outcome =
      (simpleStatementOf scope owner node).outcome := by
  have hinterface := interfaceOf_unlined scope node
  have halias := aliasOf_unlined scope node
  have hvariables := variablesOf_unlined scope node
  have hmethod := methodOf_unlined scope node
  have hname := node.declaredName_unlined
  cases node with
  | classDecl | interfaceDecl =>
    rw [Node.unlined] at hinterface ⊢
    simp only [simpleStatementOf, Traced.bind_outcome, hinterface]
  | aliasDecl =>
    rw [Node.unlined] at halias ⊢
    simp only [simpleStatementOf, Traced.bind_outcome, halias]
  | variableStatement =>
    rw [Node.unlined] at hvariables ⊢
    simp only [simpleStatementOf, Traced.bind_outcome, hvariables]
  | signature kind =>
    rw [Node.unlined] at hmethod ⊢
    cases kind with
    | functionDeclaration => simp only [simpleStatementOf, Traced.bind_outcome, hmethod]
    | _ => rfl
  | enumDecl =>
    rw [Node.unlined] at hname ⊢
    simp only [simpleStatementOf, hname]
  | _ => rfl

/-- A namespace without a body has none without its lines. -/
lemma noteBodiless_unlined (owner : String) (body : Node) :
    noteBodiless owner body.unlined = noteBodiless owner body := by
  cases body <;> rfl

/-- **Lines are not built.**  Statements add the same records as the statements without their
lines, and one of the two ends in a fault when the other does. -/
theorem statementsOf_unlined (scope : Scope) (owner : String) (statements : List Node) :
    (statementsOf scope owner (statements.map Node.unlined)).outcome =
      (statementsOf scope owner statements).outcome := by
  induction statements using statements_induction generalizing scope owner with
  | nil => rfl
  | simple node nodes hbody ih =>
    have hbody' : node.unlined.body? = none := by
      rw [node.body?_unlined, hbody]
      rfl
    simp only [List.map_cons, statementsOf_cons, statementOf_simple hbody,
      statementOf_simple hbody', Traced.bind_outcome, Traced.map_outcome,
      simpleStatementOf_unlined, ih]
  | namespaceDecl line name body nodes ihbody ihnodes =>
    have hnames := (Node.namespaceDecl line name body).sameNames_unlined scope
    have hrequired := (Node.namespaceDecl line name body).requiredName_unlined
    rw [Node.unlined] at hnames hrequired
    simp only [List.map_cons, Node.unlined, statementsOf_cons, statementOf_namespaceDecl,
      Traced.bind_outcome, Traced.map_outcome, hrequired, noteBodiless_unlined,
      body.bodyStatements_unlined, statementsOf_congr hnames, ihbody, ihnodes]

end Model

end ReasonBindings
