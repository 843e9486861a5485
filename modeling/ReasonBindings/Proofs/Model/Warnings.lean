import ReasonBindings.Proofs.Model.Shapes
import ReasonBindings.Proofs.Model.Total
import ReasonBindings.Proofs.Traced.Reports

/-!
# Warnings of builds

The only warning of a build is that a declaration has no name.  Names are asked for in the
order in which the declarations are *visited*: a namespace comes before what stands in it, a
class, an interface, an alias or a variable before the members that are collected for it.
Texts of types, labels of parameters and the names of type parameters are asked for
without a warning.

A member whose name stands in brackets is called by what is in the brackets.  A property of
that kind is reported when there is no name in the brackets, like every other declaration;
a method is not, and is bound under empty brackets.  So the warnings are one for each
visited declaration without a name, except for methods with such a name.
-/

namespace ReasonBindings

open Syntax TypeText

/-! ### Declarations without a name -/

namespace Syntax.Node

/-- No name can be derived for the node. -/
def isNameless (node : Node) : Bool :=
  match node.declaredName.outcome with
  | .ok none => true
  | _ => false

/-- The member has a name of its own. -/
def isNamedMember : Node → Bool
  | .field .propertySignature .. | .field .propertyDeclaration .. |
    .signature .methodSignature .. | .signature .methodDeclaration .. => true
  | _ => false

/-- The member is a method whose name stands in brackets. -/
def isKeyedMethod : Node → Bool
  | .signature .methodSignature _ name .. | .signature .methodDeclaration _ name .. =>
    Model.isComputed name
  | _ => false

/-- The warning that the node has no name. -/
def unnamedNotice (node : Node) : Notice :=
  .unnamed node.className (node.line?.getD none)

/-- The node is reported when it is visited. -/
def isReported (node : Node) : Bool :=
  node.isNameless && !node.isKeyedMethod

/-- What is reported when the node is visited. -/
def reports (node : Node) : List Notice :=
  if node.isReported then [node.unnamedNotice] else []

/-- A name that can be derived is not reported. -/
lemma isNameless_of_outcome {node : Node} {name : Option String}
    (h : node.declaredName.outcome = .ok name) : node.isNameless = name.isNone := by
  rw [isNameless, h]
  cases name <;> rfl

/-- Names are looked for without warnings. -/
lemma quiet_declaredName (node : Node) : node.declaredName.Quiet := by
  have named : ∀ name : Node, name.nameText.Quiet := fun name =>
    (Traced.quiet_present _).bind_quiet fun _ _ => Traced.quiet_pure _
  fun_induction declaredName node with
  | case3 | case4 => exact named _
  | case1 | case5 | case6 | case7 | case18 => exact Traced.quiet_pure _
  | _ => assumption

/-- A name that is required is reported when it cannot be derived. -/
lemma reports_requiredName (node : Node) :
    node.requiredName.Reports (if node.isNameless then [node.unnamedNotice] else []) := by
  refine (quiet_declaredName node).bind_quiet fun name hname => ?_
  rw [isNameless_of_outcome hname]
  cases name with
  | some name => exact Traced.quiet_pure name
  | none =>
    refine (Traced.quiet_present _).bind_quiet fun line hline => ?_
    have hnotice : node.unnamedNotice = .unnamed node.className line := by
      rw [unnamedNotice, Traced.present_outcome_eq_ok.mp hline, Option.getD_some]
    rw [Option.isNone_none, if_pos rfl, hnotice]
    exact (Traced.reports_note rfl).then_quiet fun _ _ => Traced.quiet_pure _

/-- Names of type parameters are looked for without warnings. -/
lemma quiet_parameterName (node : Node) : node.parameterName.Quiet :=
  (Traced.quiet_present _).bind_quiet fun _ _ => Traced.quiet_present _

/-- The type parameters of a node are looked for without warnings. -/
lemma quiet_ownTypeParameters (node : Node) : node.ownTypeParameters.Quiet := by
  unfold ownTypeParameters
  split
  · exact Traced.quiet_pure []
  · exact Traced.quiet_all_map fun parameter _ => quiet_parameterName parameter

end Syntax.Node

/-- The type parameters in scope are looked for without warnings. -/
lemma quiet_resolves (scope : Scope) (name : String) : (scope.resolves name).Quiet := by
  have hdeclared : (Scope.declaredBy scope.enclosing.reverse).Quiet :=
    (Traced.quiet_all_map fun declaration _ => declaration.quiet_ownTypeParameters).bind_quiet
      fun _ _ => Traced.quiet_pure _
  exact hdeclared.bind_quiet fun _ _ => Traced.quiet_pure _

/-- **Types are no reason for warnings.** -/
theorem quiet_typeText (node : Node) (scope : Scope) : (typeText scope node).Quiet := by
  induction node using typeText_induction generalizing scope with
  | keywordType line keyword => exact Traced.quiet_pure _
  | thisType line => exact Traced.quiet_pure _
  | other node hother =>
    rw [hother]
    exact Traced.quiet_pure _
  | unionType line arms =>
    change (union arms).Quiet
    unfold union
    split
    · exact Traced.quiet_pure _
    · exact (Traced.quiet_note rfl).bind_quiet fun _ _ => Traced.quiet_pure _
  | arrayType line element ih =>
    rw [typeText_arrayType]
    exact (ih scope).map _
  | tupleType line elements ih =>
    rw [typeText_tupleType]
    exact (Traced.quiet_all_map fun element hmem => ih element hmem scope).map _
  | parenthesizedType line inner ih => exact ih scope
  | functionType line name result optional modifiers typeParameters parameters ihresult
      ihparameters =>
    rw [typeText_functionType]
    have hparameters : ∀ inner, ∀ parameter ∈ parameters,
        (callbackParameterText inner parameter).Quiet := by
      intro inner parameter hmem
      cases parameter with
      | parameter parameterLine parameterName type parameterOptional rest =>
        cases rest with
        | true => exact Traced.quiet_pure _
        | false => exact ihparameters _ hmem _ _ _ _ rfl inner
      | _ => exact Traced.reports_fault _ _
    refine (Traced.quiet_all_map (hparameters _)).bind_quiet fun taken _ => ?_
    exact (ihresult _).bind_quiet fun given _ => Traced.quiet_pure _
  | reference node reference hreference ih =>
    rw [typeText_reference_resolves hreference]
    refine (Traced.quiet_present _).bind_quiet fun raw _ => ?_
    refine (Traced.quiet_all_map fun argument hmem => ih argument hmem scope).bind_quiet ?_
    intro texts _
    exact (quiet_resolves scope raw).bind_quiet fun _ _ => Traced.quiet_pure _

namespace Model

/-! ### Members -/

/-- The members of a list that have names of their own. -/
def namedMembers (members : List Node) : List Node :=
  members.filter Node.isNamedMember

/-- A parameter may do without a name. -/
lemma quiet_parameterOf (scope : Scope) (node : Node) : (parameterOf scope node).Quiet := by
  refine (Traced.quiet_present _).bind_quiet fun name _ => ?_
  refine name.quiet_declaredName.bind_quiet fun label _ => ?_
  refine (Traced.quiet_present _).bind_quiet fun annotation _ => ?_
  refine (quiet_typeText annotation scope).bind_quiet fun type _ => ?_
  refine (Traced.quiet_present _).bind_quiet fun optional _ => ?_
  exact (Traced.quiet_present _).bind_quiet fun rest _ => Traced.quiet_pure _

/-- A declaration with parameters is reported when it has to be bound under a name that it has
not. -/
lemma reports_methodOf (scope : Scope) (node : Node) (name : Option String) (static ctor : Bool)
    (owner : String) : (methodOf scope node name static ctor owner).Reports
      (if name.isNone && node.isNameless then [node.unnamedNotice] else []) := by
  have hlater : ∀ (own : List Parameter) (bound : String), (do
      let annotation ← Traced.present node.type?
      let type ← typeText (scope.enter node) annotation
      let optional ← Traced.present node.optional?
      return ({
        name := bound
        type := type
        optional := optional
        static := static || node.isStatic
        parameters := withSentinel own
        ctor := ctor
        owner := owner } : Method)).Quiet := by
    intro own bound
    refine (Traced.quiet_present _).bind_quiet fun annotation _ => ?_
    refine (quiet_typeText annotation _).bind_quiet fun type _ => ?_
    exact (Traced.quiet_present _).bind_quiet fun optional _ => Traced.quiet_pure _
  refine (Traced.quiet_present _).bind_quiet fun parameters _ => ?_
  have hparameters : (Traced.all (parameters.map (parameterOf (scope.enter node)))).Quiet :=
    Traced.quiet_all_map fun parameter _ => quiet_parameterOf _ parameter
  refine hparameters.bind_quiet fun own _ => ?_
  cases name with
  | some given => exact hlater own given
  | none => exact node.reports_requiredName.then_quiet fun bound _ => hlater own bound

/-- A method that is bound under a given name is not reported. -/
lemma quiet_methodOf (scope : Scope) (node : Node) (given : String) (static ctor : Bool)
    (owner : String) : (methodOf scope node (some given) static ctor owner).Quiet :=
  reports_methodOf scope node (some given) static ctor owner

/-- A property is reported when it has no name. -/
lemma reports_propertyOf (scope : Scope) (node : Node) :
    (propertyOf scope node).Reports (if node.isNameless then [node.unnamedNotice] else []) := by
  refine node.reports_requiredName.then_quiet fun name _ => ?_
  refine (Traced.quiet_present _).bind_quiet fun annotation _ => ?_
  refine (quiet_typeText annotation scope).bind_quiet fun type _ => ?_
  refine (Traced.quiet_present _).bind_quiet fun optional _ => ?_
  refine (Traced.quiet_present _).bind_quiet fun key _ => ?_
  split <;> exact Traced.quiet_pure _

/-- An index signature has no name to be reported. -/
lemma quiet_indexPropertyOf (scope : Scope) (node : Node) : (indexPropertyOf scope node).Quiet := by
  refine (Traced.quiet_present _).bind_quiet fun annotation _ => ?_
  refine (quiet_typeText annotation _).bind_quiet fun type _ => ?_
  exact (Traced.quiet_present _).bind_quiet fun optional _ => Traced.quiet_pure _

/-- A method whose name stands in brackets is not reported. -/
lemma quiet_keyMethodOf (scope : Scope) (node key : Node) (owner : String) :
    (keyMethodOf scope node key owner).Quiet := by
  refine key.quiet_declaredName.bind_quiet fun text _ => ?_
  exact (quiet_methodOf scope node _ false false owner).bind_quiet fun _ _ => Traced.quiet_pure _

/-- A member is reported when it has a name of its own that is missing. -/
lemma reports_contributionOf (scope : Scope) (owner : String) (node : Node) :
    (contributionOf scope owner node).Reports
      (if node.isNamedMember then node.reports else []) := by
  have skipped : ∀ className, (do
      Traced.note (.skippedMember className)
      return Contribution.nothing).Quiet := fun className =>
    (Traced.quiet_note rfl).bind_quiet fun _ _ => Traced.quiet_pure _
  -- A method is looked up by its own name unless this stands in brackets.
  have method : ∀ {kind line name type optional modifiers typeParameters parameters},
      (Node.signature kind line name type optional modifiers typeParameters
        parameters).isKeyedMethod = isComputed name →
      (if isComputed name then do
          return Contribution.method (← keyMethodOf scope (.signature kind line name type optional
            modifiers typeParameters parameters) name owner)
        else do
          return Contribution.method (← methodOf scope (.signature kind line name type optional
            modifiers typeParameters parameters) none false false owner)).Reports
        (Node.signature kind line name type optional modifiers typeParameters
          parameters).reports := by
    intro kind line name type optional modifiers typeParameters parameters hkeyed
    rw [Node.reports, Node.isReported, hkeyed]
    split
    · rename_i hcomputed
      rw [hcomputed, Bool.not_true, Bool.and_false, if_neg Bool.false_ne_true]
      exact (quiet_keyMethodOf _ _ _ _).bind_quiet fun _ _ => Traced.quiet_pure _
    · rename_i hcomputed
      rw [Bool.not_eq_true] at hcomputed
      rw [hcomputed, Bool.not_false, Bool.and_true]
      exact (reports_methodOf _ _ none _ _ _).then_quiet fun _ _ => Traced.quiet_pure _
  cases node with
  | field kind line name type optional modifiers =>
    have property : (propertyOf scope (.field kind line name type optional modifiers)).Reports
        (Node.field kind line name type optional modifiers).reports := by
      have hreported : (Node.field kind line name type optional modifiers).isReported =
          (Node.field kind line name type optional modifiers).isNameless := Bool.and_true _
      rw [Node.reports, hreported]
      exact reports_propertyOf scope _
    cases kind with
    | member => exact skipped _
    | propertySignature | propertyDeclaration =>
      exact property.then_quiet fun _ _ => Traced.quiet_pure _
  | signature kind line name type optional modifiers typeParameters parameters =>
    cases kind with
    | callSignature | constructSignature | constructor =>
      exact (quiet_methodOf _ _ _ _ _ _).bind_quiet fun _ _ => Traced.quiet_pure _
    | methodSignature | methodDeclaration => exact method rfl
    | indexSignature => exact (quiet_indexPropertyOf _ _).bind_quiet fun _ _ => Traced.quiet_pure _
    | signature | functionType | functionDeclaration => exact skipped _
  | _ => exact skipped _

/-- The members of an interface are reported one after another. -/
lemma reports_contributions (scope : Scope) (owner : String) (members : List Node) :
    (Traced.all (members.map (contributionOf scope owner))).Reports
      ((namedMembers members).flatMap Node.reports) := by
  rw [namedMembers, flatMap_filter]
  exact Traced.reports_all_map fun member _ => reports_contributionOf scope owner member

/-! ### Interfaces -/

/-- A class, an interface or an alias is reported when it has no name. -/
lemma reports_genericName {node : Node} (h : node.isKeyedMethod = false) :
    (genericName node).Reports node.reports := by
  have hname := node.reports_requiredName
  rw [Node.reports, Node.isReported, h, Bool.not_false, Bool.and_true]
  refine hname.then_quiet fun name _ => ?_
  refine (Traced.quiet_present _).bind_quiet fun parameters _ => ?_
  split
  · exact Traced.quiet_pure _
  · exact (Traced.quiet_all_map fun parameter _ => parameter.quiet_parameterName).bind_quiet
      fun _ _ => Traced.quiet_pure _

/-- The types of a heritage clause are no reason for warnings. -/
lemma quiet_clauseTexts (scope : Scope) (clause : Node) : (clauseTexts scope clause).Quiet := by
  refine (Traced.quiet_present _).bind_quiet fun types _ => ?_
  rw [typeTexts_eq_all]
  exact Traced.quiet_all_map fun type _ => quiet_typeText type scope

/-- A class, an interface or an object type is reported as its name is, and then its members are. -/
lemma reports_interfaceOf (scope : Scope) {node : Node} (kind : InterfaceKind)
    {name : Option String} {members : List Node} {warnings : List Notice}
    (hmembers : node.members? = some members) (hname : (chosenName node name).Reports warnings) :
    (interfaceOf scope node kind name).Reports
      (warnings ++ (namedMembers members).flatMap Node.reports) := by
  rw [interfaceOf, hmembers]
  refine (Traced.quiet_all_map fun clause _ => quiet_clauseTexts _ clause).bind_quiet ?_
  intro parents _
  refine hname.bind fun chosen _ => ?_
  rw [Traced.present_some, Traced.pure_bind]
  refine (reports_contributions _ chosen members).then_quiet fun contributions _ => ?_
  exact (Traced.quiet_note rfl).bind_quiet fun _ _ => Traced.quiet_pure _

/-- A class or an interface is reported when it has no name, and then its members are. -/
lemma reports_declaredInterface (scope : Scope) {node : Node} (kind : InterfaceKind)
    {members : List Node} (hmembers : node.members? = some members)
    (hmethod : node.isKeyedMethod = false) :
    (interfaceOf scope node kind none).Reports
      ((node :: namedMembers members).flatMap Node.reports) := by
  have hname : (chosenName node none).Reports node.reports := reports_genericName hmethod
  rw [List.flatMap_cons]
  exact reports_interfaceOf scope kind hmembers hname

/-! ### Visited declarations -/

/-- The declarations that are visited for a variable: itself, and the members of its object type. -/
def visitedVariable (declaration : Node) : List Node :=
  declaration :: ((inlineShape? declaration).toList.flatMap fun shape => namedMembers shape.members)

/-- The declarations that are visited for a statement that holds no other statements. -/
def visitedSimple : Node → List Node
  | .variableStatement _ declarations => declarations.flatMap visitedVariable
  | node@(.signature .functionDeclaration ..) => [node]
  | node => (shapes node).flatMap fun shape => node :: namedMembers shape.members

mutual

/-- The declarations that are visited for a list of statements, in their order. -/
def visited : List Node → List Node
  | [] => []
  | .namespaceDecl line name body :: nodes =>
    .namespaceDecl line name body :: visitedBody body ++ visited nodes
  | node :: nodes => visitedSimple node ++ visited nodes

/-- The declarations that are visited in the body of a namespace. -/
def visitedBody : Node → List Node
  | .block _ statements => visited statements
  | .namespaceDecl line name body => .namespaceDecl line name body :: visitedBody body
  | _ => []

end

/-- In a body its statements are visited. -/
lemma visitedBody_eq (body : Node) : visitedBody body = visited body.bodyStatements := by
  cases body with
  | namespaceDecl => exact (List.append_nil _).symm
  | _ => rfl

/-- A statement without a body is visited before the statements behind it. -/
lemma visited_simple {node : Node} (h : node.body? = none) (nodes : List Node) :
    visited (node :: nodes) = visitedSimple node ++ visited nodes := by
  cases node with
  | namespaceDecl => cases h
  | _ => rfl

/-! ### Statements -/

/-- A variable is reported when it has no name, and then the members of its object type are. -/
lemma reports_variableOf (scope : Scope) {node : Node} (h : node.isVariableDecl = true) :
    (variableOf scope node).Reports ((visitedVariable node).flatMap Node.reports) := by
  cases node with
  | variableDecl line name type =>
    have hreported : (Node.variableDecl line name type).isReported =
        (Node.variableDecl line name type).isNameless := Bool.and_true _
    rw [visitedVariable, List.flatMap_cons, Node.reports, hreported]
    refine (Node.reports_requiredName _).bind fun bound _ => ?_
    rw [Node.type?, Traced.present_some, Traced.pure_bind]
    cases type with
    | objectType typeLine members =>
      have hname : (chosenName (.objectType typeLine members)
          (some (inlineName bound))).Reports [] := by
        rw [chosenName, if_neg (inlineName_ne_empty bound)]
        exact Traced.quiet_pure _
      have hinterface := reports_interfaceOf scope .interfaceLike rfl hname
      have hmembers : (inlineShape? (.variableDecl line name (.objectType typeLine
          members))).toList.flatMap (fun shape => namedMembers shape.members) =
          namedMembers members := List.append_nil _
      rw [hmembers]
      exact hinterface.then_quiet fun _ _ => Traced.quiet_pure _
    | _ => exact (quiet_typeText _ scope).bind_quiet fun _ _ => Traced.quiet_pure _
  | _ => cases h

/-- An alias is reported when it has no name, and then the members of its object type are. -/
lemma reports_aliasOf (scope : Scope) (line : Line) (name type : Node)
    (typeParameters : List Node) :
    (aliasOf scope (.aliasDecl line name typeParameters type)).Reports
      ((visitedSimple (.aliasDecl line name typeParameters type)).flatMap Node.reports) := by
  have hname : (genericName (.aliasDecl line name typeParameters type)).Reports
      (Node.aliasDecl line name typeParameters type).reports := reports_genericName rfl
  have hcollected : ∀ bound (interface : Interface), (do
      Traced.note (.collectedAlias bound)
      return interface).Quiet := fun _ _ =>
    (Traced.quiet_note rfl).bind_quiet fun _ _ => Traced.quiet_pure _
  -- An alias of any other type has no members that could be visited.
  have hparent : ∀ {next : String → Traced Interface},
      visitedSimple (.aliasDecl line name typeParameters type) =
        [.aliasDecl line name typeParameters type] →
      (∀ bound, (next bound).Quiet) →
      (genericName (.aliasDecl line name typeParameters type) >>= next).Reports
        ((visitedSimple (.aliasDecl line name typeParameters type)).flatMap Node.reports) := by
    intro next hvisited hnext
    rw [hvisited, List.flatMap_singleton]
    exact hname.then_quiet fun bound _ => hnext bound
  cases type with
  | objectType typeLine members =>
    have hvisited : visitedSimple (.aliasDecl line name typeParameters
        (.objectType typeLine members)) =
        .aliasDecl line name typeParameters (.objectType typeLine members) ::
          namedMembers members := List.append_nil _
    rw [hvisited, List.flatMap_cons]
    refine hname.bind fun bound _ => ?_
    exact (reports_contributions _ bound members).then_quiet fun contributions _ =>
      hcollected bound (interfaceWith bound .interfaceLike [] contributions)
  | _ =>
    refine hparent rfl fun bound => ?_
    exact (quiet_typeText _ _).bind_quiet fun parent _ =>
      hcollected bound (interfaceWith bound .interfaceLike [parent] [])

/-- The declarations of a well-typed statement that holds no others are reported one after
another. -/
lemma reports_simpleStatementOf (scope : Scope) (owner : String) {node : Node}
    (hnode : node.WellTyped) :
    (simpleStatementOf scope owner node).Reports ((visitedSimple node).flatMap Node.reports) := by
  have skipped : ∀ className, (do
      Traced.note (.skippedStatement className)
      return Module.empty owner).Quiet := fun className =>
    (Traced.quiet_note rfl).bind_quiet fun _ _ => Traced.quiet_pure _
  cases node with
  | classDecl line name typeParameters heritage members modifiers =>
    have hvisited : visitedSimple (.classDecl line name typeParameters heritage members
        modifiers) = .classDecl line name typeParameters heritage members modifiers ::
          namedMembers members := List.append_nil _
    rw [hvisited]
    exact (reports_declaredInterface scope .classLike rfl rfl).then_quiet fun _ _ =>
      Traced.quiet_pure _
  | interfaceDecl line name typeParameters heritage members =>
    have hvisited : visitedSimple (.interfaceDecl line name typeParameters heritage members) =
        .interfaceDecl line name typeParameters heritage members :: namedMembers members :=
      List.append_nil _
    rw [hvisited]
    exact (reports_declaredInterface scope .interfaceLike rfl rfl).then_quiet fun _ _ =>
      Traced.quiet_pure _
  | aliasDecl =>
    exact (reports_aliasOf scope _ _ _ _).then_quiet fun _ _ => Traced.quiet_pure _
  | variableStatement line declarations =>
    have hrecords := Traced.reports_all_map fun declaration hmem =>
      reports_variableOf scope (hnode.declarations? rfl declaration hmem).family
    rw [visitedSimple, List.flatMap_assoc]
    exact (hrecords.then_quiet fun _ _ => Traced.quiet_pure _).then_quiet fun _ _ =>
      Traced.quiet_pure _
  | signature kind line name type optional modifiers typeParameters parameters =>
    cases kind with
    | functionDeclaration =>
      have hreported : (Node.signature .functionDeclaration line name type optional modifiers
          typeParameters parameters).isReported = (Node.signature .functionDeclaration line name
          type optional modifiers typeParameters parameters).isNameless := Bool.and_true _
      rw [visitedSimple, List.flatMap_singleton, Node.reports, hreported]
      exact (reports_methodOf scope _ none true false owner).then_quiet fun _ _ =>
        Traced.quiet_pure _
    | _ => exact skipped _
  | enumDecl =>
    refine (Node.quiet_declaredName _).bind_quiet fun name _ => ?_
    exact (Traced.quiet_note rfl).bind_quiet fun _ _ => Traced.quiet_pure _
  | _ => exact skipped _

/-- A namespace without a body is no reason for a warning. -/
lemma quiet_noteBodiless (owner : String) (body : Node) : (noteBodiless owner body).Quiet := by
  cases body with
  | absent => exact Traced.quiet_note rfl
  | _ => exact Traced.quiet_pure ()

/-- **Warnings of statements.**  The declarations of well-typed statements are reported in the
order in which they are visited. -/
theorem reports_statementsOf {statements : List Node} (h : ∀ node ∈ statements, node.WellTyped)
    (scope : Scope) (owner : String) :
    (statementsOf scope owner statements).Reports
      ((visited statements).flatMap Node.reports) := by
  induction statements using statements_induction generalizing scope owner with
  | nil => exact Traced.quiet_pure _
  | simple node nodes hbody ih =>
    obtain ⟨hnode, hnodes⟩ := List.forall_mem_cons.mp h
    rw [statementsOf_cons, statementOf_simple hbody, visited_simple hbody, List.flatMap_append]
    refine (reports_simpleStatementOf scope owner hnode).bind fun first _ => ?_
    exact (ih hnodes scope owner).map _
  | namespaceDecl line name body nodes ihbody ihnodes =>
    obtain ⟨hnode, hnodes⟩ := List.forall_mem_cons.mp h
    have hbody := wellTyped_bodyStatements (hnode.body? rfl)
    have hreported : (Node.namespaceDecl line name body).isReported =
        (Node.namespaceDecl line name body).isNameless := Bool.and_true _
    have hfirst : (statementOf scope owner (.namespaceDecl line name body)).Reports
        ((Node.namespaceDecl line name body).reports ++
          (visited body.bodyStatements).flatMap Node.reports) := by
      rw [statementOf_namespaceDecl, Node.reports, hreported]
      refine (Node.reports_requiredName _).bind fun inner _ => ?_
      refine (quiet_noteBodiless inner body).bind_quiet fun _ _ => ?_
      exact (ihbody hbody _ inner).then_quiet fun _ _ => Traced.quiet_pure _
    rw [statementsOf_cons, visited, visitedBody_eq, List.flatMap_append, List.flatMap_cons]
    exact hfirst.bind fun first _ => (ihnodes hnodes scope owner).map _

/-- What is reported of declarations is one warning for each of them that is reported. -/
lemma flatMap_reports (declarations : List Node) :
    declarations.flatMap Node.reports =
      (declarations.filter Node.isReported).map Node.unnamedNotice := by
  induction declarations with
  | nil => rfl
  | cons node nodes ih =>
    rw [List.flatMap_cons, ih, Node.reports]
    by_cases h : node.isReported = true
    · rw [if_pos h, List.filter_cons_of_pos h]
      rfl
    · rw [if_neg h, List.filter_cons_of_neg h]
      rfl

/-- The warnings of a file are those of its statements. -/
lemma reports_fileOf {line : Line} {path : String} {statements : List Node}
    (h : ∀ node ∈ statements, node.WellTyped) (name : Option String) :
    (fileOf (.sourceFile line path statements) name).Reports
      (((visited statements).filter Node.isReported).map Node.unnamedNotice) := by
  have hown : (rootName.fileModuleName (.sourceFile line path statements)).Quiet :=
    Traced.quiet_pure _
  have hroot : (rootName (.sourceFile line path statements) name).Quiet := by
    unfold rootName
    split
    · split
      · exact hown
      · exact Traced.quiet_pure _
    · exact hown
  rw [← flatMap_reports]
  refine hroot.bind_quiet fun root _ => ?_
  refine (reports_statementsOf h _ root).then_quiet fun built _ => ?_
  exact (Traced.quiet_note rfl).bind_quiet fun _ _ => Traced.quiet_pure _

end Model

end ReasonBindings
