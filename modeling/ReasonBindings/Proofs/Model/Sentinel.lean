import ReasonBindings.Proofs.Model.Shapes

/-!
# The sentinel in whole builds

An optional labelled argument can be left out only if an unlabelled one follows it.
The *sentinel law* of a list of parameters says that the declared parameters come
first, with the flags they were declared with, and that exactly one sentinel comes
after them when some of them is optional, and nothing otherwise.

Parameter lists arise in functions, in methods, signatures and constructors, and in
makers, whose declared parameters are the properties of an interface.  `ObeysLaw`
puts each method of a module next to its declaration, through all nested modules and
all interfaces, and asks the law of each; `Module.StemsFrom.obeysLaw` says that this
holds of whatever is built.
-/

namespace ReasonBindings

open Syntax

/-! ### Declarations with parameters -/

namespace Syntax.Node

/-- The node is a parameter, a member or the like with a question mark. -/
def isOptional (node : Node) : Bool :=
  node.optional? == some true

/-- The statements that a namespace holds. -/
def heldStatements (node : Node) : List Node :=
  (node.body?.map bodyStatements).getD []

end Syntax.Node

namespace Model

/-! ### The law -/

/-- **The sentinel law.**  The parameters begin with one for each declared one, in their order and
with their flags.  These are all when none is optional; otherwise there is one more, without a
label, neither optional nor taking further arguments, and of the unit type. -/
structure SentinelLaw {α : Type} (Stems : α → Parameter → Prop) (optional : α → Bool)
    (declared : List α) (parameters : List Parameter) : Prop where
  own : List.Forall₂ (fun source parameter => Stems source parameter ∧
    parameter.optional = optional source) declared (parameters.take declared.length)
  required : declared.any optional = false → parameters.length = declared.length
  omittable : declared.any optional = true → parameters.length = declared.length + 1 ∧
    parameters.getLast? = some ⟨"", "unit", false, false⟩

/-- A method obeys the law with respect to its declaration. -/
def Method.ObeysLaw (scope : Scope) (node : Node) (method : Method) : Prop :=
  ∃ declared, node.parameters? = some declared ∧
    SentinelLaw (Parameter.StemsFrom (scope.enter node)) Node.isOptional declared method.parameters

/-- The methods of an interface obey the law with respect to the members, and the maker does so with
respect to the properties. -/
structure Interface.ObeysLaw (scope : Scope) (shape : Shape) (interface : Interface) : Prop where
  properties : List.Forall₂ (fun member property => member.optional? = some property.optional)
    (shape.members.filter Node.declaresProperty) interface.properties
  methods : ∃ declared makers, interface.methods = declared ++ makers ∧
    List.Forall₂ (Method.ObeysLaw (scope.enter shape.declaration))
      (shape.members.filter Node.declaresMethod) declared ∧
    match shape.kind with
    | .classLike => makers = []
    | .interfaceLike => ∃ maker, makers = [maker] ∧ maker.maker = true ∧
      SentinelLaw (fun property parameter => parameter = property.makerParameter)
        Property.optional interface.properties maker.parameters

mutual

/-- Every method in a module, at any depth, obeys the law with respect to its declaration. -/
def Module.ObeysLaw : Module → Scope → List Node → Prop
  | ⟨_, modules, _, interfaces, methods⟩, scope, statements =>
    List.Forall₂ (Method.ObeysLaw scope) (statements.filter Node.declaresFunction) methods ∧
    List.Forall₂ (Interface.ObeysLaw scope) (statements.flatMap shapes) interfaces ∧
    NestedObeyLaw modules scope (statements.filter (·.body?.isSome))

/-- Every method in each of the nested modules obeys the law. -/
def NestedObeyLaw : List Module → Scope → List Node → Prop
  | [], _, namespaces => namespaces = []
  | inner :: others, scope, namespaces => ∃ first rest, namespaces = first :: rest ∧
    inner.ObeysLaw (scope.enter first) first.heldStatements ∧ NestedObeyLaw others scope rest

end

mutual

/-- The methods of a module, of its interfaces and of its nested modules. -/
def Module.allMethods : Module → List Method
  | ⟨_, modules, _, interfaces, methods⟩ =>
    methods ++ interfaces.flatMap Interface.methods ++ nestedMethods modules

/-- The methods of nested modules. -/
def nestedMethods : List Module → List Method
  | [] => []
  | inner :: others => inner.allMethods ++ nestedMethods others

end

namespace SentinelLaw

variable {α : Type} {Stems : α → Parameter → Prop} {optional : α → Bool} {declared : List α}
  {own parameters : List Parameter}

/-- Some of the parameters is optional exactly when some of the declared ones is. -/
lemma any_optional_eq (h : List.Forall₂ (fun source parameter => Stems source parameter ∧
    parameter.optional = optional source) declared own) :
    own.any (·.optional) = declared.any optional := by
  induction h with
  | nil => rfl
  | cons hfirst _ ih => rw [List.any_cons, List.any_cons, hfirst.2, ih]

/-- Adding the sentinel once makes the law hold. -/
lemma withSentinel (h : List.Forall₂ (fun source parameter => Stems source parameter ∧
    parameter.optional = optional source) declared own) :
    SentinelLaw Stems optional declared (withSentinel own) := by
  have hlength : declared.length = own.length := h.length_eq
  have hany : own.any (·.optional) = declared.any optional := any_optional_eq h
  -- The sentinel is asked for by the records, and the law speaks of the declared parameters.
  cases hoptional : declared.any optional with
  | false =>
    rw [withSentinel_of_required (hany.trans hoptional)]
    refine ⟨?_, fun _ => hlength.symm, fun htrue => ?_⟩
    · rw [hlength, List.take_length]
      exact h
    · rw [hoptional] at htrue
      cases htrue
  | true =>
    rw [withSentinel_of_optional (hany.trans hoptional)]
    refine ⟨?_, fun hfalse => ?_, fun _ => ⟨?_, ?_⟩⟩
    · rw [hlength, List.take_left]
      exact h
    · rw [hoptional] at hfalse
      cases hfalse
    · rw [List.length_append, hlength, List.length_singleton]
    · rw [List.getLast?_append_of_ne_nil _ (by simp)]
      rfl

/-- Under the law the last parameter is not optional. -/
lemma optional_getLast? (h : SentinelLaw Stems optional declared parameters) :
    ∀ last ∈ parameters.getLast?, last.optional = false := by
  intro last hlast
  cases hoptional : declared.any optional with
  | true =>
    rw [(h.omittable hoptional).2] at hlast
    rw [← Option.some.inj hlast]
  | false =>
    have htake : parameters.take declared.length = parameters := by
      rw [← h.required hoptional, List.take_length]
    have hown := h.own
    rw [htake] at hown
    have hnone : parameters.any (·.optional) = false := (any_optional_eq hown).trans hoptional
    simpa using List.any_eq_false.mp hnone last (List.mem_of_getLast? hlast)

end SentinelLaw

/-! ### Members -/

/-- A method that stems from a declaration obeys the law. -/
lemma Method.StemsFrom.obeysLaw {scope : Scope} {node : Node} {name : Option String} {ctor : Bool}
    {owner : String} {method : Method} (h : Method.StemsFrom scope node name ctor owner method) :
    method.ObeysLaw scope node := by
  obtain ⟨declared, own, hdeclared, hown, hparameters⟩ := h.parameters
  refine ⟨declared, hdeclared, ?_⟩
  rw [hparameters]
  refine SentinelLaw.withSentinel (hown.imp fun source parameter hstems => ⟨hstems, ?_⟩)
  rw [Node.isOptional, hstems.optional]
  cases parameter.optional <;> rfl

/-- What a member contributes fits the member: a property with its flag, a method that obeys the
law, or nothing when the member is neither. -/
structure Contribution.Fits (scope : Scope) (member : Node) (contribution : Contribution) :
    Prop where
  property : Option.Rel (fun node record => node.optional? = some (Property.optional record))
    (Option.guard Node.declaresProperty member) contribution.property?
  method : Option.Rel (Method.ObeysLaw scope) (Option.guard Node.declaresMethod member)
    contribution.method?

/-- What stems from a member fits it. -/
lemma Contribution.StemsFrom.fits {scope : Scope} {owner : String} {member : Node}
    {contribution : Contribution} (h : contribution.StemsFrom scope owner member) :
    contribution.Fits scope member := by
  cases h with
  | property hproperty hrecord =>
    constructor
    · rw [Option.guard, if_pos hproperty]
      exact .some hrecord.optional?
    · rw [Option.guard, if_neg (by simp [Node.declaresMethod_of_declaresProperty hproperty])]
      exact .none
  | method hmethod _ hrecord =>
    constructor
    · rw [Option.guard, if_neg fun hproperty => by
        simp [Node.declaresMethod_of_declaresProperty hproperty] at hmethod]
      exact .none
    · rw [Option.guard, if_pos hmethod]
      exact .some hrecord.obeysLaw
  | nothing hproperty hmethod =>
    constructor
    · rw [Option.guard, if_neg (by simp [hproperty])]
      exact .none
    · rw [Option.guard, if_neg (by simp [hmethod])]
      exact .none

/-! ### Interfaces -/

/-- An interface with contributions that fit its members obeys the law. -/
lemma interfaceWith_obeysLaw {scope : Scope} (shape : Shape) {contributions : List Contribution}
    (h : List.Forall₂ (Contribution.Fits (scope.enter shape.declaration)) shape.members
      contributions) (name : String) (parents : List String) :
    (interfaceWith name shape.kind parents contributions).ObeysLaw scope shape := by
  have hproperties : List.Forall₂
      (fun node record => node.optional? = some (Property.optional record))
      (shape.members.filter Node.declaresProperty)
      (contributions.filterMap Contribution.property?) := by
    rw [← List.filterMap_eq_filter]
    exact List.rel_filterMap (fun _ _ hfits => hfits.property) h
  have hmethods : List.Forall₂ (Method.ObeysLaw (scope.enter shape.declaration))
      (shape.members.filter Node.declaresMethod)
      (contributions.filterMap Contribution.method?) := by
    rw [← List.filterMap_eq_filter]
    exact List.rel_filterMap (fun _ _ hfits => hfits.method) h
  have hmaker : SentinelLaw (fun property parameter => parameter = Property.makerParameter property)
      Property.optional (contributions.filterMap Contribution.property?)
      (makerOf name (contributions.filterMap Contribution.property?)).parameters := by
    refine SentinelLaw.withSentinel ?_
    rw [List.forall₂_map_right_iff, List.forall₂_same]
    exact fun property _ => ⟨rfl, rfl⟩
  refine ⟨hproperties, ?_⟩
  obtain ⟨kind, declaration, members⟩ := shape
  cases kind with
  | classLike => exact ⟨_, [], (List.append_nil _).symm, hmethods, rfl⟩
  | interfaceLike => exact ⟨_, _, rfl, hmethods, _, rfl, rfl, hmaker⟩

/-- An interface that stems from a shape obeys the law. -/
lemma Interface.StemsFrom.obeysLaw {scope : Scope} {shape : Shape} {interface : Interface}
    (h : interface.StemsFrom scope shape) : interface.ObeysLaw scope shape := by
  obtain ⟨name, parents, contributions, hcontributions, rfl⟩ := h
  have hfits := hcontributions.imp fun _ _ => Contribution.StemsFrom.fits
  exact interfaceWith_obeysLaw shape hfits name parents

/-! ### Statements -/

/-- What a statement that holds no others adds obeys the law. -/
lemma Module.StemsFromSimple.obeysLaw {scope : Scope} {owner : String} {node : Node}
    (hbody : node.body? = none) {module : Module} (h : module.StemsFromSimple scope owner node) :
    module.ObeysLaw scope [node] := by
  obtain ⟨name, modules, globals, interfaces, methods⟩ := module
  obtain ⟨rfl, hinterfaces, hmethods⟩ := h
  refine ⟨hmethods.imp fun _ _ => Method.StemsFrom.obeysLaw, ?_, ?_⟩
  · rw [List.flatMap_singleton]
    exact hinterfaces.imp fun _ _ => Interface.StemsFrom.obeysLaw
  · simp [NestedObeyLaw, hbody]

/-- Nested modules obey the law one after another. -/
lemma NestedObeyLaw.append {scope : Scope} {first second : List Module}
    {namespaces others : List Node} (hfirst : NestedObeyLaw first scope namespaces)
    (hsecond : NestedObeyLaw second scope others) :
    NestedObeyLaw (first ++ second) scope (namespaces ++ others) := by
  induction first generalizing namespaces with
  | nil =>
    obtain rfl : namespaces = [] := hfirst
    exact hsecond
  | cons inner rest ih =>
    obtain ⟨node, nodes, rfl, hinner, hrest⟩ := hfirst
    exact ⟨node, nodes ++ others, rfl, hinner, ih hrest⟩

/-- What two lists of statements add obeys the law when it does so for each list. -/
lemma Module.ObeysLaw.merge {scope : Scope} {first second : Module} {statements others : List Node}
    (hfirst : first.ObeysLaw scope statements) (hsecond : second.ObeysLaw scope others) :
    (first.merge second).ObeysLaw scope (statements ++ others) := by
  obtain ⟨name, modules, globals, interfaces, methods⟩ := first
  obtain ⟨name', modules', globals', interfaces', methods'⟩ := second
  obtain ⟨hmethods, hinterfaces, hnested⟩ := hfirst
  obtain ⟨hmethods', hinterfaces', hnested'⟩ := hsecond
  refine ⟨?_, ?_, ?_⟩
  · rw [List.filter_append]
    exact List.rel_append hmethods hmethods'
  · rw [List.flatMap_append]
    exact List.rel_append hinterfaces hinterfaces'
  · rw [List.filter_append]
    exact hnested.append hnested'

/-- **The law of what statements add.**  A namespace counts with the statements that it holds. -/
theorem Module.StemsFrom.obeysLaw {scope : Scope} {owner : String} {statements : List Node}
    {module : Module} (h : module.StemsFrom scope owner statements) :
    module.ObeysLaw scope statements := by
  induction h with
  | nil => exact ⟨.nil, .nil, rfl⟩
  | simple hbody hfirst _ ih =>
    have hsimple := stemsFrom_of_simpleStatementOf hfirst
    exact (hsimple.obeysLaw hbody).merge ih
  | @namespaceDecl scope owner inner line name body nodes built rest _ _ _ ihbuilt ihrest =>
    -- The namespace alone adds one nested module and no records of its own.
    have hnested : Module.ObeysLaw { name := owner, modules := [built] } scope
        [.namespaceDecl line name body] :=
      ⟨.nil, .nil, _, [], rfl, ihbuilt, rfl⟩
    exact hnested.merge ihrest

/-! ### Trailing parameters -/

/-- A parameter list that obeys the law does not end in an optional parameter. -/
lemma Method.ObeysLaw.optional_getLast? {scope : Scope} {node : Node} {method : Method}
    (h : method.ObeysLaw scope node) :
    ∀ last ∈ method.parameters.getLast?, last.optional = false := by
  obtain ⟨declared, -, hlaw⟩ := h
  exact hlaw.optional_getLast?

/-- No parameter list of an interface that obeys the law ends in an optional parameter. -/
lemma Interface.ObeysLaw.optional_getLast? {scope : Scope} {shape : Shape} {interface : Interface}
    (h : interface.ObeysLaw scope shape) :
    ∀ method ∈ interface.methods, ∀ last ∈ method.parameters.getLast?, last.optional = false := by
  obtain ⟨-, declared, makers, hmethods, hdeclared, hmakers⟩ := h
  intro method hmem
  rw [hmethods] at hmem
  rcases List.mem_append.mp hmem with hmem | hmem
  · obtain ⟨node, -, hlaw⟩ := exists_left_of_mem hdeclared hmem
    exact hlaw.optional_getLast?
  · obtain ⟨kind, declaration, members⟩ := shape
    cases kind with
    | classLike =>
      rw [hmakers] at hmem
      cases hmem
    | interfaceLike =>
      obtain ⟨maker, rfl, -, hlaw⟩ := hmakers
      obtain rfl := List.mem_singleton.mp hmem
      exact hlaw.optional_getLast?

mutual

/-- No parameter list in a module that obeys the law ends in an optional parameter. -/
theorem Module.ObeysLaw.optional_getLast? :
    ∀ {module : Module} {scope : Scope} {statements : List Node}, module.ObeysLaw scope statements →
      ∀ method ∈ module.allMethods, ∀ last ∈ method.parameters.getLast?, last.optional = false
  | ⟨_, modules, _, interfaces, methods⟩, scope, statements, ⟨hmethods, hinterfaces, hnested⟩ => by
    intro method hmem
    rw [Module.allMethods, List.mem_append, List.mem_append] at hmem
    rcases hmem with (hmem | hmem) | hmem
    · obtain ⟨node, -, hlaw⟩ := exists_left_of_mem hmethods hmem
      exact hlaw.optional_getLast?
    · obtain ⟨interface, hinterface, hmem⟩ := List.mem_flatMap.mp hmem
      obtain ⟨shape, -, hlaw⟩ := exists_left_of_mem hinterfaces hinterface
      exact hlaw.optional_getLast? method hmem
    · exact NestedObeyLaw.optional_getLast? modules hnested method hmem

/-- No parameter list in nested modules that obey the law ends in an optional parameter. -/
theorem NestedObeyLaw.optional_getLast? {scope : Scope} :
    ∀ (modules : List Module) {namespaces : List Node}, NestedObeyLaw modules scope namespaces →
      ∀ method ∈ nestedMethods modules, ∀ last ∈ method.parameters.getLast?, last.optional = false
  | [], _, _ => by
    intro method hmem
    cases hmem
  | inner :: others, _, ⟨_, _, _, hinner, hothers⟩ => by
    intro method hmem
    rw [nestedMethods, List.mem_append] at hmem
    rcases hmem with hmem | hmem
    · exact Module.ObeysLaw.optional_getLast? hinner method hmem
    · exact NestedObeyLaw.optional_getLast? others hothers method hmem

end

/-- **The sentinel law of whole builds.**  When the record of a declaration file can be built, every
method in it obeys the law with respect to its declaration, and every maker does so with respect to
the properties of its interface.  Hence no parameter list ends in an optional parameter. -/
theorem sentinelLaw_of_fileOf {line : Line} {path : String} {statements : List Node}
    {name : Option String} {module : Module}
    (h : (fileOf (.sourceFile line path statements) name).outcome = .ok module) :
    module.ObeysLaw (Scope.empty.enter (.sourceFile line path statements)) statements ∧
      ∀ method ∈ module.allMethods, ∀ last ∈ method.parameters.getLast?, last.optional = false := by
  simp only [fileOf, Traced.bind_outcome_eq_ok, Traced.present_outcome_eq_ok,
    Traced.pure_outcome_eq_ok] at h
  obtain ⟨root, -, held, hheld, built, hbuilt, -, -, rfl⟩ := h
  obtain rfl : statements = held := Option.some.inj hheld
  have hlaw := (stemsFrom_of_statementsOf hbuilt).obeysLaw
  exact ⟨hlaw, hlaw.optional_getLast?⟩

/-- A namespace with a function whose first parameter is optional, and an interface with an optional
property. -/
def optionalSample : List Node :=
  [.namespaceDecl none (.identifier none "A") (.block none
    [.signature .functionDeclaration none (.identifier none "f") (.keywordType none "void") false []
      [] [.parameter none (.identifier none "a") (.keywordType none "string") true false,
        .parameter none (.identifier none "b") (.keywordType none "number") false true]]),
    .interfaceDecl none (.identifier none "I") [] []
      [.field .propertySignature none (.identifier none "p") (.keywordType none "number") true []]]

/-- The record of the sample, with one sentinel in the function and one in the maker. -/
def optionalSampleModule : Module where
  name := "library"
  modules := [{
    name := "A"
    methods := [{
      name := "f"
      type := "unit"
      static := true
      parameters := [⟨"a", "string", true, false⟩, ⟨"b", "float", false, true⟩,
        ⟨"", "unit", false, false⟩]
      owner := "A" }] }]
  interfaces := [{
    name := "I"
    properties := [⟨"p", "float", true, false, none⟩]
    methods := [{
      name := "make"
      type := "t"
      static := true
      parameters := [⟨"p", "float", true, false⟩, ⟨"", "unit", false, false⟩]
      maker := true
      owner := "I" }] }]

/-- The sample can be built, and what is built obeys the law. -/
theorem sentinelLaw_optionalSample :
    (fileOf (.sourceFile none "library.d.ts" optionalSample) none).outcome =
      .ok optionalSampleModule ∧
    optionalSampleModule.ObeysLaw
      (Scope.empty.enter (.sourceFile none "library.d.ts" optionalSample)) optionalSample ∧
    ∀ method ∈ optionalSampleModule.allMethods, ∀ last ∈ method.parameters.getLast?,
      last.optional = false :=
  have hbuilt : (fileOf (.sourceFile none "library.d.ts" optionalSample) none).outcome =
      .ok optionalSampleModule := rfl
  ⟨hbuilt, sentinelLaw_of_fileOf hbuilt⟩

end Model

end ReasonBindings
