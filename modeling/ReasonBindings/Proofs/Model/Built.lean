import ReasonBindings.Proofs.Model.Statements
import ReasonBindings.Proofs.Traced.Outcome

/-!
# Records and their declarations

What a record says about the declaration that it stems from: the name, the type in
the scope of the declaration, the flags and the parameters.  Each kind of record that
is built is related to its declaration by a relation `StemsFrom`, which does not
mention notices and faults; what a list of statements adds to a module is related to
the statements in the same way, so a property of all records is proved by induction on
that relation.
-/

namespace ReasonBindings

open Syntax

namespace Syntax.Node

/-- The member of an interface is called. -/
def declaresMethod : Node → Bool
  | .signature .callSignature .. | .signature .methodSignature .. |
    .signature .methodDeclaration .. | .signature .constructSignature .. |
    .signature .constructor .. => true
  | _ => false

/-- The member of an interface is read and written. -/
def declaresProperty : Node → Bool
  | .field .propertySignature .. | .field .propertyDeclaration .. |
    .signature .indexSignature .. => true
  | _ => false

/-- The member is the constructor of a class. -/
def isConstructor : Node → Bool
  | .signature .constructor .. => true
  | _ => false

/-- A constructor is called. -/
lemma isConstructor_of_not_declaresMethod {node : Node} (h : node.declaresMethod = false) :
    node.isConstructor = false := by
  cases node with
  | signature kind => cases kind <;> first | rfl | cases h
  | _ => rfl

/-- No member is both called and read. -/
lemma declaresMethod_of_declaresProperty {node : Node} (h : node.declaresProperty = true) :
    node.declaresMethod = false := by
  cases node with
  | signature kind => cases kind <;> first | rfl | cases h
  | _ => rfl

end Syntax.Node

namespace Model

/-! ### Relations between records and declarations -/

/-- The text of the annotation of a node. -/
def Annotated (scope : Scope) (node : Node) (text : String) : Prop :=
  ∃ written, node.type? = some written ∧ (typeText scope written).outcome = .ok text

/-- A parameter is the record of a declared one. -/
structure Parameter.StemsFrom (scope : Scope) (node : Node) (parameter : Parameter) : Prop where
  label : ∃ name label, node.name? = some name ∧ name.declaredName.outcome = .ok label ∧
    parameter.name = label.getD ""
  type : Annotated scope node parameter.type
  optional : node.optional? = some parameter.optional
  rest : node.rest? = some parameter.rest

/-- A method is the record of a declaration with parameters, bound under the given name or under the
declared one, and not a maker. -/
structure Method.StemsFrom (scope : Scope) (node : Node) (name : Option String) (ctor : Bool)
    (owner : String) (method : Method) : Prop where
  parameters : ∃ declared own, node.parameters? = some declared ∧
    List.Forall₂ (Parameter.StemsFrom (scope.enter node)) declared own ∧
    method.parameters = withSentinel own
  name : match name with
    | some given => method.name = given
    | none => node.requiredName.outcome = .ok method.name
  type : Annotated (scope.enter node) node method.type
  ctor : method.ctor = ctor
  maker : method.maker = false
  owner : method.owner = owner
  template : method.template = none

/-- A property is the record of a declared one, whose name may stand in brackets, or of an index
signature. -/
inductive Property.StemsFrom (scope : Scope) (node : Node) : Property → Prop
  | named {name type : String} {optional : Bool} : node.requiredName.outcome = .ok name →
    Annotated scope node type → node.optional? = some optional →
    StemsFrom scope node ⟨name, type, optional, node.isStatic, none⟩
  | keyed {name type : String} {optional : Bool} : node.requiredName.outcome = .ok name →
    Annotated scope node type → node.optional? = some optional →
    StemsFrom scope node
      ⟨bracketed name, type, optional, node.isStatic, some (keyTemplate (bracketed name))⟩
  | index {type : String} {optional : Bool} : Annotated (scope.enter node) node type →
    node.optional? = some optional →
    StemsFrom scope node ⟨indexName, type, optional, node.isStatic, some indexTemplate⟩

/-- The name that a method is bound under when it is not the declared one, and its call template.
Constructors, and only they, are bound as such. -/
inductive GivenName (node : Node) : Option String → Option String → Prop
  | invoke : node.isConstructor = false → GivenName node (some invokeName) (some callTemplate)
  | create : node.isConstructor = false → GivenName node (some createName) (some constructTemplate)
  | make : node.isConstructor = true → GivenName node (some makeName) none
  | declared : node.isConstructor = false → GivenName node none none
  | key {key : Option String} : node.isConstructor = false → node.declaredName.outcome = .ok key →
    GivenName node (some (bracketed (key.getD ""))) (some (keyCallTemplate (key.getD "")))

/-- What a member of the interface named `owner` contributes. -/
inductive Contribution.StemsFrom (scope : Scope) (owner : String) (node : Node) :
    Contribution → Prop
  | property {record : Property} : node.declaresProperty = true →
    Property.StemsFrom scope node record → StemsFrom scope owner node (.property record)
  | method {record : Method} {name template : Option String} :
    node.declaresMethod = true → GivenName node name template →
    Method.StemsFrom scope node name node.isConstructor owner record →
    StemsFrom scope owner node (.method { record with template := template })
  | nothing : node.declaresProperty = false → node.declaresMethod = false →
    StemsFrom scope owner node .nothing

/-- What statements add to the module named `owner`: nothing, what the first one adds and then what
the others do, or a namespace with what the statements of its body add. -/
inductive Module.StemsFrom : Scope → String → List Node → Module → Prop
  | nil {scope : Scope} {owner : String} : StemsFrom scope owner [] (.empty owner)
  | simple {scope : Scope} {owner : String} {node : Node} {nodes : List Node}
    {first rest : Module} : node.body? = none →
    (simpleStatementOf scope owner node).outcome = .ok first →
    StemsFrom scope owner nodes rest → StemsFrom scope owner (node :: nodes) (first.merge rest)
  | namespaceDecl {scope : Scope} {owner inner : String} {line : Line} {name body : Node}
    {nodes : List Node} {built rest : Module} :
    (Node.namespaceDecl line name body).requiredName.outcome = .ok inner →
    StemsFrom (scope.enter (.namespaceDecl line name body)) inner body.bodyStatements built →
    StemsFrom scope owner nodes rest →
    StemsFrom scope owner (.namespaceDecl line name body :: nodes)
      (Module.merge { name := owner, modules := [built] } rest)

/-! ### Built records -/

/-- A parameter that is built stems from its declaration. -/
lemma stemsFrom_of_parameterOf {scope : Scope} {node : Node} {parameter : Parameter}
    (h : (parameterOf scope node).outcome = .ok parameter) :
    Parameter.StemsFrom scope node parameter := by
  simp only [parameterOf, Traced.bind_outcome_eq_ok, Traced.present_outcome_eq_ok,
    Traced.pure_outcome_eq_ok] at h
  obtain ⟨name, hname, label, hlabel, written, hwritten, type, htype, optional, hoptional,
    rest, hrest, rfl⟩ := h
  exact ⟨⟨name, label, hname, hlabel, rfl⟩, ⟨written, hwritten, htype⟩, hoptional, hrest⟩

/-- A method that is built stems from its declaration. -/
lemma stemsFrom_of_methodOf {scope : Scope} {node : Node} {name : Option String}
    {static ctor : Bool} {owner : String} {method : Method}
    (h : (methodOf scope node name static ctor owner).outcome = .ok method) :
    Method.StemsFrom scope node name ctor owner method := by
  cases name with
  | some given =>
    simp only [methodOf, Traced.bind_outcome_eq_ok, Traced.present_outcome_eq_ok,
      Traced.pure_outcome_eq_ok, Traced.all_map_outcome_eq_ok] at h
    obtain ⟨declared, hdeclared, own, hown, bound, rfl, written, hwritten, type, htype,
      optional, -, rfl⟩ := h
    have hparameters := hown.imp fun _ _ => stemsFrom_of_parameterOf
    exact ⟨⟨declared, own, hdeclared, hparameters, rfl⟩, rfl, ⟨written, hwritten, htype⟩,
      rfl, rfl, rfl, rfl⟩
  | none =>
    simp only [methodOf, Traced.bind_outcome_eq_ok, Traced.present_outcome_eq_ok,
      Traced.pure_outcome_eq_ok, Traced.all_map_outcome_eq_ok] at h
    obtain ⟨declared, hdeclared, own, hown, bound, hbound, written, hwritten, type, htype,
      optional, -, rfl⟩ := h
    have hparameters := hown.imp fun _ _ => stemsFrom_of_parameterOf
    exact ⟨⟨declared, own, hdeclared, hparameters, rfl⟩, hbound, ⟨written, hwritten, htype⟩,
      rfl, rfl, rfl, rfl⟩

/-- A property has the flag of its declaration. -/
lemma Property.StemsFrom.optional? {scope : Scope} {node : Node} {property : Property}
    (h : Property.StemsFrom scope node property) : node.optional? = some property.optional := by
  cases h <;> assumption

/-- A property that is built stems from its declaration. -/
lemma stemsFrom_of_propertyOf {scope : Scope} {node : Node} {property : Property}
    (h : (propertyOf scope node).outcome = .ok property) :
    Property.StemsFrom scope node property := by
  simp only [propertyOf, Traced.bind_outcome_eq_ok, Traced.present_outcome_eq_ok] at h
  obtain ⟨name, hname, written, hwritten, type, htype, optional, hoptional, key, -, hrecord⟩ := h
  split at hrecord
  · obtain rfl := Traced.pure_outcome_eq_ok.mp hrecord
    exact .keyed hname ⟨written, hwritten, htype⟩ hoptional
  · obtain rfl := Traced.pure_outcome_eq_ok.mp hrecord
    exact .named hname ⟨written, hwritten, htype⟩ hoptional

/-- The property that is built for an index signature stems from the signature. -/
lemma stemsFrom_of_indexPropertyOf {scope : Scope} {node : Node} {property : Property}
    (h : (indexPropertyOf scope node).outcome = .ok property) :
    Property.StemsFrom scope node property := by
  simp only [indexPropertyOf, Traced.bind_outcome_eq_ok, Traced.present_outcome_eq_ok,
    Traced.pure_outcome_eq_ok] at h
  obtain ⟨written, hwritten, type, htype, optional, hoptional, rfl⟩ := h
  exact .index ⟨written, hwritten, htype⟩ hoptional

/-- A method that is bound as it is built is contributed by its member. -/
lemma Contribution.StemsFrom.plainMethod {scope : Scope} {owner : String} {node : Node}
    {record : Method} {name : Option String} (hnode : node.declaresMethod = true)
    (hgiven : GivenName node name none)
    (h : Method.StemsFrom scope node name node.isConstructor owner record) :
    Contribution.StemsFrom scope owner node (.method record) := by
  have hrecord : { record with template := none } = record := by
    rw [← h.template]
  rw [← hrecord]
  exact .method hnode hgiven h

/-- A method whose name may stand in brackets is contributed by its member. -/
lemma stemsFrom_of_named {scope : Scope} {owner : String} {node : Node} (name : Node)
    {contribution : Contribution} (hnode : node.declaresMethod = true)
    (hctor : node.isConstructor = false) (hname : node.declaredName = name.declaredName)
    (h : (if isComputed name then do
        return Contribution.method (← keyMethodOf scope node name owner)
      else do
        return Contribution.method (← methodOf scope node none false false owner)).outcome =
      .ok contribution) :
    contribution.StemsFrom scope owner node := by
  split at h
  · simp only [keyMethodOf, Traced.bind_outcome_eq_ok, Traced.pure_outcome_eq_ok] at h
    obtain ⟨record, ⟨key, hkey, method, hmethod, rfl⟩, rfl⟩ := h
    rw [← hname] at hkey
    have hstems := stemsFrom_of_methodOf hmethod
    rw [← hctor] at hstems
    exact .method hnode (.key hctor hkey) hstems
  · obtain ⟨record, hrecord, rfl⟩ := Traced.bind_pure_outcome_eq_ok.mp h
    have hstems := stemsFrom_of_methodOf hrecord
    rw [← hctor] at hstems
    exact .plainMethod hnode (.declared hctor) hstems

/-- What is built for a member is contributed by it. -/
lemma stemsFrom_of_contributionOf {scope : Scope} {owner : String} {node : Node}
    {contribution : Contribution}
    (h : (contributionOf scope owner node).outcome = .ok contribution) :
    contribution.StemsFrom scope owner node := by
  have other : ∀ {node : Node}, node.declaresProperty = false → node.declaresMethod = false →
      (do Traced.note (.skippedMember node.className); return Contribution.nothing).outcome =
        .ok contribution → contribution.StemsFrom scope owner node := by
    intro node hproperty hmethod hnothing
    obtain ⟨-, -, rfl⟩ := Traced.bind_pure_outcome_eq_ok.mp hnothing
    exact .nothing hproperty hmethod
  cases node with
  | field kind line name type optional modifiers =>
    cases kind with
    | member => exact other rfl rfl h
    | propertySignature | propertyDeclaration =>
      obtain ⟨record, hrecord, rfl⟩ := Traced.bind_pure_outcome_eq_ok.mp h
      exact .property rfl (stemsFrom_of_propertyOf hrecord)
  | signature kind line name type optional modifiers typeParameters parameters =>
    cases kind with
    | callSignature =>
      obtain ⟨record, hrecord, rfl⟩ := Traced.bind_pure_outcome_eq_ok.mp h
      exact .method rfl (.invoke rfl) (stemsFrom_of_methodOf hrecord)
    | constructSignature =>
      obtain ⟨record, hrecord, rfl⟩ := Traced.bind_pure_outcome_eq_ok.mp h
      exact .method rfl (.create rfl) (stemsFrom_of_methodOf hrecord)
    | constructor =>
      obtain ⟨record, hrecord, rfl⟩ := Traced.bind_pure_outcome_eq_ok.mp h
      exact .plainMethod rfl (.make rfl) (stemsFrom_of_methodOf hrecord)
    | methodSignature | methodDeclaration => exact stemsFrom_of_named name rfl rfl rfl h
    | indexSignature =>
      obtain ⟨record, hrecord, rfl⟩ := Traced.bind_pure_outcome_eq_ok.mp h
      exact .property rfl (stemsFrom_of_indexPropertyOf hrecord)
    | signature | functionType | functionDeclaration => exact other rfl rfl h
  | _ => exact other rfl rfl h

/-- What is built for members is contributed by them, one after another. -/
lemma stemsFrom_of_contributions {scope : Scope} {owner : String} {members : List Node}
    {contributions : List Contribution}
    (h : (Traced.all (members.map (contributionOf scope owner))).outcome = .ok contributions) :
    List.Forall₂ (Contribution.StemsFrom scope owner) members contributions :=
  (Traced.all_map_outcome_eq_ok.mp h).imp fun _ _ => stemsFrom_of_contributionOf

/-- **Built modules stem from their statements.** -/
theorem stemsFrom_of_statementsOf {statements : List Node} {scope : Scope} {owner : String}
    {module : Module} (h : (statementsOf scope owner statements).outcome = .ok module) :
    Module.StemsFrom scope owner statements module := by
  induction statements using statements_induction generalizing scope owner module with
  | nil =>
    obtain rfl := Traced.pure_outcome_eq_ok.mp h
    exact .nil
  | simple node nodes hbody ih =>
    rw [statementsOf_cons, statementOf_simple hbody] at h
    obtain ⟨first, hfirst, hmerged⟩ := Traced.bind_outcome_eq_ok.mp h
    obtain ⟨rest, hrest, rfl⟩ := Traced.map_outcome_eq_ok.mp hmerged
    exact .simple hbody hfirst (ih hrest)
  | namespaceDecl line name body nodes ihbody ihnodes =>
    rw [statementsOf_cons, statementOf_namespaceDecl] at h
    obtain ⟨first, hfirst, hmerged⟩ := Traced.bind_outcome_eq_ok.mp h
    obtain ⟨rest, hrest, rfl⟩ := Traced.map_outcome_eq_ok.mp hmerged
    simp only [Traced.bind_outcome_eq_ok, Traced.pure_outcome_eq_ok] at hfirst
    obtain ⟨inner, hinner, -, -, built, hbuilt, rfl⟩ := hfirst
    exact .namespaceDecl hinner (ihbody hbuilt) (ihnodes hrest)

/-- The record of a file stems from the statements of the file. -/
lemma stemsFrom_of_fileOf {line : Line} {path : String} {statements : List Node}
    {name : Option String} {module : Module}
    (h : (fileOf (.sourceFile line path statements) name).outcome = .ok module) :
    ∃ root, module.StemsFrom (Scope.empty.enter (.sourceFile line path statements)) root
      statements := by
  simp only [fileOf, Traced.bind_outcome_eq_ok, Traced.present_outcome_eq_ok,
    Traced.pure_outcome_eq_ok] at h
  obtain ⟨root, -, held, hheld, built, hbuilt, -, -, rfl⟩ := h
  obtain rfl : statements = held := Option.some.inj hheld
  exact ⟨root, stemsFrom_of_statementsOf hbuilt⟩

end Model

end ReasonBindings
