import ReasonBindings.Bindings
import ReasonBindings.Proofs.Model.Statements
import ReasonBindings.Proofs.TypeText.Total

/-!
# Every well-typed tree has bindings

Building the records of a declaration file looks for names, annotations, flags and
lists of parts, each at nodes of certain classes.  A statement or a member of
another class is left out with a notice, and in a well-typed tree every other node
has what is looked for, so a record can be built for each statement and the bindings
of the whole file can be printed.
-/

namespace ReasonBindings

open Syntax

namespace Model

variable {scope : Scope}

/-! ### Members -/

/-- A well-typed parameter has a record. -/
lemma parameterOf_succeeds (hscope : scope.WellTyped) {node : Node}
    (h : node.TypedAs Node.isParameter) : (parameterOf scope node).Succeeds := by
  obtain ⟨hfamily, hnode⟩ := h
  cases node with
  | parameter line name type optional rest =>
    have hname : name.declaredName.Succeeds := (hnode.name? rfl).declaredName_succeeds
    have htype : (typeText scope type).Succeeds := typeText_succeeds (hnode.type? rfl) hscope
    exact hname.bind fun label _ => htype.bind fun text _ => Traced.yields_pure trivial
  | _ => cases hfamily

/-- A well-typed declaration with parameters has a record. -/
lemma methodOf_succeeds (hscope : scope.WellTyped) {kind : SignatureKind} {line : Line}
    {nameNode type : Node} {optional : Bool} {modifiers : List String}
    {typeParameters parameters : List Node}
    (hnode : (Node.signature kind line nameNode type optional modifiers typeParameters
      parameters).WellTyped) (name : Option String) (static ctor : Bool) (owner : String) :
    (methodOf scope (.signature kind line nameNode type optional modifiers typeParameters
      parameters) name static ctor owner).Succeeds := by
  have hinner := hscope.enter hnode
  have hparameters := Traced.yields_all_map fun parameter hmem =>
    parameterOf_succeeds hinner (hnode.parameters? rfl parameter hmem)
  have htype := typeText_succeeds (hnode.type? rfl) hinner
  refine hparameters.bind fun own _ => ?_
  cases name with
  | some given => exact htype.bind fun text _ => Traced.yields_pure trivial
  | none =>
    have hname := hnode.requiredName_succeeds rfl
    exact hname.bind fun bound _ => htype.bind fun text _ => Traced.yields_pure trivial

/-- A well-typed field has a record. -/
lemma propertyOf_succeeds (hscope : scope.WellTyped) {kind : FieldKind} {line : Line}
    {name type : Node} {optional : Bool} {modifiers : List String}
    (hnode : (Node.field kind line name type optional modifiers).WellTyped) :
    (propertyOf scope (.field kind line name type optional modifiers)).Succeeds := by
  have hname := hnode.requiredName_succeeds rfl
  have htype := typeText_succeeds (hnode.type? rfl) hscope
  refine hname.bind fun bound _ => htype.bind fun text _ => ?_
  cases hkey : isComputed name <;>
    simp only [Node.optional?, Node.name?, Traced.present_some, Traced.pure_bind, hkey]
  · exact Traced.yields_pure trivial
  · exact Traced.yields_pure trivial

/-- A well-typed index signature has a record. -/
lemma indexPropertyOf_succeeds (hscope : scope.WellTyped) {kind : SignatureKind} {line : Line}
    {name type : Node} {optional : Bool} {modifiers : List String}
    {typeParameters parameters : List Node}
    (hnode : (Node.signature kind line name type optional modifiers typeParameters
      parameters).WellTyped) :
    (indexPropertyOf scope (.signature kind line name type optional modifiers typeParameters
      parameters)).Succeeds := by
  have htype := typeText_succeeds (hnode.type? rfl) (hscope.enter hnode)
  exact htype.bind fun text _ => Traced.yields_pure trivial

/-- A well-typed method has a record, also when its name stands in brackets. -/
lemma namedMethod_succeeds (hscope : scope.WellTyped) (owner : String) {kind : SignatureKind}
    {line : Line} {name type : Node} {optional : Bool} {modifiers : List String}
    {typeParameters parameters : List Node}
    (hnode : (Node.signature kind line name type optional modifiers typeParameters
      parameters).WellTyped) :
    (if isComputed name then do
        return Contribution.method (← keyMethodOf scope (.signature kind line name type optional
          modifiers typeParameters parameters) name owner)
      else do
        return Contribution.method (← methodOf scope (.signature kind line name type optional
          modifiers typeParameters parameters) none false false owner)).Succeeds := by
  split
  · have hkey : name.declaredName.Succeeds := (hnode.name? rfl).declaredName_succeeds
    have hmethod : (keyMethodOf scope (.signature kind line name type optional modifiers
        typeParameters parameters) name owner).Succeeds := by
      refine hkey.bind fun key _ => ?_
      exact (methodOf_succeeds hscope hnode _ _ _ _).bind fun _ _ => Traced.yields_pure trivial
    exact hmethod.bind fun _ _ => Traced.yields_pure trivial
  · exact (methodOf_succeeds hscope hnode _ _ _ _).bind fun _ _ => Traced.yields_pure trivial

/-- What a well-typed member contributes can be built. -/
lemma contributionOf_succeeds (hscope : scope.WellTyped) (owner : String) {node : Node}
    (hnode : node.WellTyped) : (contributionOf scope owner node).Succeeds := by
  have skipped : ∀ className, (do
      Traced.note (.skippedMember className)
      return Contribution.nothing).Succeeds := fun className =>
    (Traced.succeeds_note _).bind fun _ _ => Traced.yields_pure trivial
  cases node with
  | field kind line name type optional modifiers =>
    cases kind with
    | member => exact skipped _
    | propertySignature | propertyDeclaration =>
      exact (propertyOf_succeeds hscope hnode).bind fun _ _ => Traced.yields_pure trivial
  | signature kind line name type optional modifiers typeParameters parameters =>
    cases kind with
    | callSignature | constructSignature | constructor =>
      exact (methodOf_succeeds hscope hnode _ _ _ _).bind fun _ _ => Traced.yields_pure trivial
    | methodSignature | methodDeclaration => exact namedMethod_succeeds hscope owner hnode
    | indexSignature =>
      exact (indexPropertyOf_succeeds hscope hnode).bind fun _ _ => Traced.yields_pure trivial
    | signature | functionType | functionDeclaration => exact skipped _
  | _ => exact skipped _

/-- What well-typed members contribute can be built. -/
lemma contributions_succeed (hscope : scope.WellTyped) (owner : String) {members : List Node}
    (hmembers : ∀ member ∈ members, member.WellTyped) :
    (Traced.all (members.map (contributionOf scope owner))).Succeeds :=
  (Traced.yields_all_map fun member hmem =>
    contributionOf_succeeds hscope owner (hmembers member hmem)).succeeds

/-! ### Interfaces -/

/-- The types of a well-typed heritage clause have texts. -/
lemma clauseTexts_succeeds (hscope : scope.WellTyped) {clause : Node}
    (h : clause.TypedAs Node.isHeritageClause) : (clauseTexts scope clause).Succeeds := by
  obtain ⟨hfamily, hclause⟩ := h
  cases clause with
  | heritageClause line token types =>
    have htexts : (Traced.all (types.map (typeText scope))).Succeeds :=
      (Traced.yields_all_map fun type hmem =>
        typeText_succeeds (hclause.child hmem) hscope).succeeds
    rw [clauseTexts, Node.types?, Traced.present_some, Traced.pure_bind, typeTexts_eq_all]
    exact htexts
  | _ => cases hfamily

/-- A well-typed declaration has a name with its type parameters. -/
lemma genericName_succeeds {node : Node} (hnode : node.WellTyped) {line : Line}
    (hline : node.line? = some line) {typeParameters : List Node}
    (hparameters : node.typeParameters? = some typeParameters) : (genericName node).Succeeds := by
  have hnames : (Traced.all (typeParameters.map Node.parameterName)).Succeeds := by
    have hparameter : ∀ parameter ∈ typeParameters, parameter.parameterName.Succeeds := by
      intro parameter hmem
      obtain ⟨name, hname⟩ :=
        Node.WellTyped.exists_parameterName? (hnode.typeParameters? hparameters parameter hmem)
      rw [Node.parameterName_eq]
      exact (Traced.yields_present hname).succeeds
    exact (Traced.yields_all_map hparameter).succeeds
  rw [genericName, hparameters]
  refine (hnode.requiredName_succeeds hline).bind fun name _ => ?_
  rw [Traced.present_some, Traced.pure_bind]
  split
  · exact Traced.yields_pure trivial
  · exact hnames.bind fun _ _ => Traced.yields_pure trivial

/-- A well-typed class, interface or object type has a record as soon as it has a name. -/
lemma interfaceOf_succeeds (hscope : scope.WellTyped) {node : Node} (hnode : node.WellTyped)
    {members : List Node} (hmembers : node.members? = some members) (kind : InterfaceKind)
    {name : Option String} (hname : (chosenName node name).Succeeds) :
    (interfaceOf scope node kind name).Succeeds := by
  have hinner := hscope.enter hnode
  have hparents := Traced.yields_all_map fun clause hmem =>
    clauseTexts_succeeds hinner (hnode.heritage clause hmem)
  rw [interfaceOf, hmembers]
  refine hparents.bind fun parents _ => hname.bind fun chosen _ => ?_
  rw [Traced.present_some, Traced.pure_bind]
  have hcontributions := contributions_succeed hinner chosen (hnode.members? hmembers)
  refine hcontributions.bind fun contributions _ => ?_
  exact (Traced.succeeds_note _).bind fun _ _ => Traced.yields_pure trivial

/-- A well-typed alias has a record. -/
lemma aliasOf_succeeds (hscope : scope.WellTyped) {line : Line} {name type : Node}
    {typeParameters : List Node}
    (hnode : (Node.aliasDecl line name typeParameters type).WellTyped) :
    (aliasOf scope (.aliasDecl line name typeParameters type)).Succeeds := by
  have hinner := hscope.enter hnode
  have htype : type.WellTyped := hnode.type? rfl
  refine (genericName_succeeds hnode rfl rfl).bind fun bound _ => ?_
  rw [Node.type?, Traced.present_some, Traced.pure_bind]
  have hcollected : ∀ interface : Interface, (do
      Traced.note (.collectedAlias bound)
      return interface).Succeeds := fun interface =>
    (Traced.succeeds_note _).bind fun _ _ => Traced.yields_pure trivial
  split
  · have hcontributions := contributions_succeed hinner bound (htype.members? rfl)
    exact hcontributions.bind fun contributions _ => hcollected _
  · exact (typeText_succeeds htype hinner).bind fun parent _ => hcollected _

/-- The name of the interface for the object type of a variable is not empty. -/
lemma inlineName_ne_empty (declared : String) : inlineName declared ≠ "" := by
  intro h
  have hlength := congrArg String.length h
  simp [inlineName] at hlength

/-- A well-typed variable has a record, and so has its type when it is an object type. -/
lemma variableOf_succeeds (hscope : scope.WellTyped) {node : Node}
    (h : node.TypedAs Node.isVariableDecl) : (variableOf scope node).Succeeds := by
  obtain ⟨hfamily, hnode⟩ := h
  cases node with
  | variableDecl line name type =>
    have htype : type.WellTyped := hnode.type? rfl
    refine (hnode.requiredName_succeeds rfl).bind fun bound _ => ?_
    rw [Node.type?, Traced.present_some, Traced.pure_bind]
    split
    · -- An object type has no name of its own, so it must be given one.
      have hname : ∀ node, (chosenName node (some (inlineName bound))).Succeeds := by
        intro node
        rw [chosenName, if_neg (inlineName_ne_empty bound)]
        exact Traced.yields_pure trivial
      refine (interfaceOf_succeeds hscope htype rfl _ (hname _)).bind fun interface _ => ?_
      exact Traced.yields_pure trivial
    · exact (typeText_succeeds htype hscope).bind fun _ _ => Traced.yields_pure trivial
  | _ => cases hfamily

/-! ### Statements -/

/-- What a well-typed statement that holds no others adds can be built. -/
lemma simpleStatementOf_succeeds (hscope : scope.WellTyped) (owner : String) {node : Node}
    (hnode : node.WellTyped) : (simpleStatementOf scope owner node).Succeeds := by
  have skipped : ∀ className, (do
      Traced.note (.skippedStatement className)
      return Module.empty owner).Succeeds := fun className =>
    (Traced.succeeds_note _).bind fun _ _ => Traced.yields_pure trivial
  cases node with
  | classDecl | interfaceDecl =>
    have hname : (chosenName _ none).Succeeds := genericName_succeeds hnode rfl rfl
    exact (interfaceOf_succeeds hscope hnode rfl _ hname).bind fun _ _ => Traced.yields_pure trivial
  | aliasDecl => exact (aliasOf_succeeds hscope hnode).bind fun _ _ => Traced.yields_pure trivial
  | variableStatement line declarations =>
    have hrecords := Traced.yields_all_map fun declaration hmem =>
      variableOf_succeeds hscope (hnode.declarations? rfl declaration hmem)
    have hvariables : (variablesOf scope (.variableStatement line declarations)).Succeeds :=
      hrecords.bind fun records _ => Traced.yields_pure trivial
    exact hvariables.bind fun _ _ => Traced.yields_pure trivial
  | signature kind =>
    cases kind with
    | functionDeclaration =>
      exact (methodOf_succeeds hscope hnode _ _ _ _).bind fun _ _ => Traced.yields_pure trivial
    | _ => exact skipped _
  | enumDecl =>
    refine hnode.declaredName_succeeds.bind fun name _ => ?_
    exact (Traced.succeeds_note _).bind fun _ _ => Traced.yields_pure trivial
  | _ => exact skipped _

/-- The statements of a well-typed body are well typed. -/
lemma wellTyped_bodyStatements {body : Node} (h : body.WellTyped) :
    ∀ node ∈ body.bodyStatements, node.WellTyped :=
  Node.forall_bodyStatements h fun _ => h.child

/-- **What well-typed statements add can be built.** -/
theorem statementsOf_succeeds {statements : List Node} (h : ∀ node ∈ statements, node.WellTyped)
    (hscope : scope.WellTyped) (owner : String) :
    (statementsOf scope owner statements).Succeeds := by
  induction statements using statements_induction generalizing scope owner with
  | nil => exact Traced.yields_pure trivial
  | simple node nodes hbody ih =>
    obtain ⟨hnode, hnodes⟩ := List.forall_mem_cons.mp h
    rw [statementsOf_cons, statementOf_simple hbody]
    refine (simpleStatementOf_succeeds hscope owner hnode).bind fun first _ => ?_
    exact (ih hnodes hscope owner).map fun _ _ => trivial
  | namespaceDecl line name body nodes ihbody ihnodes =>
    obtain ⟨hnode, hnodes⟩ := List.forall_mem_cons.mp h
    have hbody := wellTyped_bodyStatements (hnode.body? rfl)
    have hnote : ∀ inner, (noteBodiless inner body).Succeeds := by
      intro inner
      cases body with
      | absent => exact Traced.succeeds_note _
      | _ => exact Traced.yields_pure trivial
    have hfirst : (statementOf scope owner (.namespaceDecl line name body)).Succeeds := by
      rw [statementOf_namespaceDecl]
      refine (hnode.requiredName_succeeds rfl).bind fun inner _ => ?_
      refine (hnote inner).bind fun _ _ => ?_
      exact (ihbody hbody (hscope.enter hnode) inner).bind fun _ _ => Traced.yields_pure trivial
    rw [statementsOf_cons]
    exact hfirst.bind fun first _ => (ihnodes hnodes hscope owner).map fun _ _ => trivial

/-! ### Files -/

/-- A well-typed declaration file has a record under every name and under its own. -/
lemma fileOf_succeeds {line : Line} {path : String} {statements : List Node}
    (h : (Node.sourceFile line path statements).WellTyped) (name : Option String) :
    (fileOf (.sourceFile line path statements) name).Succeeds := by
  have hscope : (Scope.empty.enter (.sourceFile line path statements)).WellTyped := by
    refine Scope.WellTyped.enter ?_ h
    exact fun declaration hmem => nomatch hmem
  have hown : (rootName.fileModuleName (.sourceFile line path statements)).Succeeds :=
    Traced.yields_pure trivial
  have hroot : (rootName (.sourceFile line path statements) name).Succeeds := by
    unfold rootName
    split
    · split
      · exact hown
      · exact Traced.yields_pure trivial
    · exact hown
  have hstatements : ∀ node ∈ statements, node.WellTyped := fun node hmem => h.child hmem
  refine hroot.bind fun root _ => ?_
  refine (statementsOf_succeeds hstatements hscope root).bind fun built _ => ?_
  exact (Traced.succeeds_note _).bind fun _ _ => Traced.yields_pure trivial

/-- The record of a file is printed as its bindings. -/
lemma bindingsOf_of_fileOf {file : Node} {name : Option String} {module : Module}
    (h : (fileOf file name).outcome = .ok module) :
    (bindingsOf file name).outcome = .ok module.text :=
  Traced.bind_outcome_eq_ok.mpr ⟨module, h, rfl⟩

/-- A well-typed declaration file has a record, which is printed as the bindings of the file. -/
lemma exists_bindingsOf {line : Line} {path : String} {statements : List Node}
    (h : (Node.sourceFile line path statements).WellTyped) (name : Option String) :
    ∃ module, (fileOf (.sourceFile line path statements) name).outcome = .ok module ∧
      (bindingsOf (.sourceFile line path statements) name).outcome = .ok module.text := by
  obtain ⟨module, hmodule⟩ := Traced.succeeds_iff.mp (fileOf_succeeds h name)
  exact ⟨module, hmodule, bindingsOf_of_fileOf hmodule⟩

/-- **Well-typed trees always have bindings.**  The record of a well-typed declaration file can be
built and printed, whatever name the library is given, if any.  A well-typed annotation has a text
in every well-typed scope. -/
theorem wellTyped_bindings :
    (∀ (line : Line) (path : String) (statements : List Node) (name : Option String),
      (Node.sourceFile line path statements).WellTyped →
      ∃ module, (fileOf (.sourceFile line path statements) name).outcome = .ok module ∧
        module.print.outcome = .ok module.text ∧
        (bindingsOf (.sourceFile line path statements) name).outcome = .ok module.text) ∧
    ∀ (scope : Scope) (type : Node), scope.WellTyped → type.WellTyped →
      ∃ text, (typeText scope type).outcome = .ok text := by
  constructor
  · intro line path statements name h
    obtain ⟨module, hmodule, hbindings⟩ := exists_bindingsOf h name
    exact ⟨module, hmodule, rfl, hbindings⟩
  · intro scope type hscope htype
    exact Traced.succeeds_iff.mp (typeText_succeeds htype hscope)

/-- A function type without a result that declares a type parameter and takes an entry of a heritage
clause without a name. -/
def nakedCallback : Node :=
  .signature .functionType none .absent .absent true []
    [.typeParameter none (.identifier none "T")]
    [.parameter none .absent (.heritageType none .absent [.bare .typeNode none]) true false,
      .parameter none .absent .absent false true]

/-- Statements that are well typed although nobody writes them: declarations without names, members
that are functions or function types, a key without an expression, and bare statements. -/
def nakedSample : List Node :=
  [.classDecl none .absent [.typeParameter none (.identifier none "T")]
      [.heritageClause none "" [.heritageType none .absent []]]
      [.signature .functionDeclaration none .absent .absent false [] [] [], nakedCallback,
        .field .member none .absent .absent false [],
        .signature .methodSignature none (.computedName none .absent) nakedCallback false [] [] []]
      [],
    .variableStatement none [.variableDecl none .absent
      (.objectType none [.field .propertySignature none .absent nakedCallback true []])],
    .namespaceDecl none .absent (.namespaceDecl none .absent .absent),
    .aliasDecl none .absent [] .absent,
    .enumDecl none .absent [.word "A"],
    .bare .statement none]

/-- The sample has bindings without a given name, and its function type has a text inside of its
class. -/
theorem wellTyped_nakedSample :
    (Node.sourceFile none "" nakedSample).WellTyped ∧
    (∃ module, (fileOf (.sourceFile none "" nakedSample) none).outcome = .ok module ∧
      module.print.outcome = .ok module.text ∧
      (bindingsOf (.sourceFile none "" nakedSample) none).outcome = .ok module.text) ∧
    ∃ text, (typeText ⟨nakedSample⟩ nakedCallback).outcome = .ok text :=
  have hsample : (Node.sourceFile none "" nakedSample).WellTyped := by decide
  have hscope : (⟨nakedSample⟩ : Scope).WellTyped := by decide
  have hcallback : nakedCallback.WellTyped := by decide
  ⟨hsample, wellTyped_bindings.1 none "" nakedSample none hsample,
    wellTyped_bindings.2 ⟨nakedSample⟩ nakedCallback hscope hcallback⟩

end Model

end ReasonBindings
