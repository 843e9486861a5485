import ReasonBindings.Proofs.Model.Alike
import ReasonBindings.Proofs.Model.Total
import ReasonBindings.Proofs.Traced.Related
import ReasonBindings.Proofs.TypeText.Essence

/-!
# Bindings show the essence

A declaration file has the same bindings as its essence.  The records of the two differ,
but they are printed alike.

The essence has fewer parts that could have no record, since heritage clauses are gone, so
the comparison goes from a file to its essence.  Two well-typed files with one essence both
have bindings, and these are those of the essence.
-/

namespace ReasonBindings

open Syntax TypeText

namespace Model

/-! ### Records of single members -/

variable {scope : Scope}

/-- Only a parameter has a record of a parameter. -/
lemma exists_parameter_of_parameterOf {node : Node} {parameter : Parameter}
    (h : (parameterOf scope node).outcome = .ok parameter) :
    ∃ line name type optional rest, node = .parameter line name type optional rest := by
  obtain ⟨name, -, h⟩ := Traced.bind_outcome_eq_ok.mp h
  obtain ⟨label, -, h⟩ := Traced.bind_outcome_eq_ok.mp h
  obtain ⟨type, -, h⟩ := Traced.bind_outcome_eq_ok.mp h
  obtain ⟨type, -, h⟩ := Traced.bind_outcome_eq_ok.mp h
  obtain ⟨optional, -, h⟩ := Traced.bind_outcome_eq_ok.mp h
  obtain ⟨rest, hrest, -⟩ := Traced.bind_outcome_eq_ok.mp h
  rw [Traced.present_outcome_eq_ok] at hrest
  cases node with
  | parameter line name type optional rest => exact ⟨line, name, type, optional, rest, rfl⟩
  | _ => cases hrest

/-- The text of a parameter that is passed by position is its type. -/
lemma Parameter.text_of_unlabelled {parameter : Parameter} {labelled : Bool}
    (h : (labelled || parameter.optional) = false) : parameter.text labelled = parameter.type := by
  rw [text, h]
  rfl

/-- What matters of a parameter has a record that prints alike, when names matter of the parameters
that are labelled. -/
lemma parameterOf_essence (scope : Scope) {kind : SignatureKind} {labelled : Bool}
    (hkind : ∀ optional, kind.labels optional = (labelled || optional)) (node : Node) :
    (parameterOf scope node).KeptUpTo (Parameter.PrintsAs labelled)
      (parameterOf scope (kind.essentialParameter node.essence)) := by
  intro parameter hparameter
  obtain ⟨line, name, type, optional, rest, rfl⟩ := exists_parameter_of_parameterOf hparameter
  simp only [parameterOf, Node.name?, Node.type?, Node.optional?, Node.rest?, Traced.present_some,
    Traced.pure_bind, Traced.bind_outcome_eq_ok, Traced.pure_outcome_eq_ok] at hparameter
  obtain ⟨label, hlabel, text, htext, rfl⟩ := hparameter
  rw [Node.essence, SignatureKind.essentialParameter, hkind]
  simp only [parameterOf, Node.name?, Node.type?, Node.optional?, Node.rest?, Traced.present_some,
    Traced.pure_bind, Traced.bind_outcome_eq_ok, Traced.pure_outcome_eq_ok,
    (sameText_essence type).type]
  cases hshown : labelled || optional with
  | true =>
    have hname : name.essence.declaredName.outcome = .ok label := by
      rw [Node.declaredName_essence, hlabel]
    exact ⟨_, ⟨label, hname, text, htext, rfl⟩, rfl, rfl⟩
  | false =>
    refine ⟨_, ⟨none, rfl, text, htext, rfl⟩, ?_, rfl⟩
    rw [Parameter.text_of_unlabelled hshown, Parameter.text_of_unlabelled hshown]

/-- Whether a member belongs to the class itself matters for all members with parameters but
constructors. -/
lemma isStatic_essence {kind : SignatureKind} (hkind : kind ≠ .constructor ∧ kind ≠ .indexSignature)
    {line : Line} {name type : Node} {optional : Bool} {modifiers : List String}
    {typeParameters parameters : List Node} :
    (Node.essence (.signature kind line name type optional modifiers typeParameters
        parameters)).isStatic =
      (Node.signature kind line name type optional modifiers typeParameters
        parameters).isStatic := by
  have hmodifiers : kind.essentialModifiers modifiers =
      if modifiers.contains "static" then ["static"] else [] := by
    cases kind with
    | constructor => exact absurd rfl hkind.1
    | indexSignature => exact absurd rfl hkind.2
    | _ => rfl
  rw [Node.essence, Node.isStatic, Node.isStatic, Node.modifiers, Node.modifiers, hmodifiers]
  cases hstatic : modifiers.contains "static" <;> rfl

/-- Declarations with the same name and the same type have records that print alike when their
parameters do, if both or none of them belong to the class itself, which is no question for
constructors. -/
lemma declared_printsAs (name type owner : String) (optional optional' : Bool)
    {static static' ctor : Bool} {taken taken' : List Parameter}
    (htaken : List.Forall₂ (Parameter.PrintsAs ctor) taken taken')
    (hstatic : ctor = true ∨ static = static') :
    Method.PrintsAs
      { name := name, type := type, optional := optional, static := static
        parameters := withSentinel taken, ctor := ctor, owner := owner }
      { name := name, type := type, optional := optional', static := static'
        parameters := withSentinel taken', ctor := ctor, owner := owner } := by
  have hparameters := Parameter.PrintsAs.withSentinel htaken
  cases ctor with
  | true => exact Method.printsAs_of_parameters rfl rfl rfl rfl hparameters
  | false =>
    obtain rfl := hstatic.resolve_left Bool.false_ne_true
    refine Method.printsAs_of_parameters rfl rfl rfl rfl ?_
    cases static with
    | true => exact hparameters
    | false => exact hparameters

/-- What matters of a declaration with parameters has a record that prints alike. -/
lemma methodOf_essence (scope : Scope) {kind : SignatureKind}
    (hkind : kind ≠ .functionType ∧ kind ≠ .indexSignature) (line : Line) (declared type : Node)
    (optional : Bool) (modifiers : List String) (typeParameters parameters : List Node)
    (name : Option String) (static : Bool) (owner : String) :
    (methodOf scope (.signature kind line declared type optional modifiers typeParameters
        parameters) name static (kind == .constructor) owner).KeptUpTo Method.PrintsAs
      (methodOf scope (Node.essence (.signature kind line declared type optional modifiers
        typeParameters parameters)) name static (kind == .constructor) owner) := by
  have hlabels : ∀ optional, kind.labels optional = (kind == .constructor || optional) := by
    intro optional
    cases kind with
    | functionType => exact absurd rfl hkind.1
    | indexSignature => exact absurd rfl hkind.2
    | _ => rfl
  generalize hnode : Node.signature kind line declared type optional modifiers typeParameters
    parameters = node
  have hparts : node.parameters? = some parameters ∧ node.type? = some type ∧
      node.optional? = some optional := by
    subst hnode
    exact ⟨rfl, rfl, rfl⟩
  have hessence : node.essence.parameters? =
        some ((essences parameters).map kind.essentialParameter) ∧
      node.essence.type? = some type.essence ∧
      node.essence.optional? = some (kind.essentialMark optional) := by
    subst hnode
    exact ⟨rfl, rfl, rfl⟩
  have hnames := node.sameNames_essence scope
  have hparameters : (Traced.all (parameters.map (parameterOf (scope.enter node)))).KeptUpTo
      (List.Forall₂ (Parameter.PrintsAs (kind == .constructor)))
      (Traced.all (((essences parameters).map kind.essentialParameter).map
        (parameterOf (scope.enter node.essence)))) := by
    rw [essences_eq_map, List.map_map, List.map_map]
    refine Traced.keptUpTo_all_map (fun parameter => ?_) parameters
    rw [Function.comp_apply, Function.comp_apply, parameterOf_congr hnames]
    exact parameterOf_essence _ hlabels parameter
  have htype : typeText (scope.enter node.essence) type.essence =
      typeText (scope.enter node) type := by
    rw [(sameText_essence type).type, hnames.typeText_eq]
  have hstatic : (kind == .constructor) = true ∨
      (static || node.isStatic) = (static || node.essence.isStatic) := by
    by_cases hctor : kind = .constructor
    · subst hctor
      exact Or.inl rfl
    · rw [← hnode, isStatic_essence ⟨hctor, hkind.2⟩]
      exact Or.inr rfl
  simp only [methodOf, hparts, hessence, Traced.present_some, Traced.pure_bind, htype]
  refine hparameters.bind fun taken taken' htaken => ?_
  have hlast := fun bound text => Traced.keptUpTo_pure
    (declared_printsAs bound text owner optional (kind.essentialMark optional) htaken hstatic)
  cases name with
  | some given =>
    refine (Traced.keptUpTo_of_outcome_eq rfl).bind ?_
    rintro text _ rfl
    exact hlast given text
  | none =>
    refine (Traced.keptUpTo_of_outcome_eq node.requiredName_essence.symm).bind ?_
    rintro bound _ rfl
    refine (Traced.keptUpTo_of_outcome_eq rfl).bind ?_
    rintro text _ rfl
    exact hlast bound text

/-- What is in brackets, if anything, matters of a name. -/
lemma isComputed_essence (name : Node) : isComputed name.essence = isComputed name := by
  cases name <;> rfl

/-- A property has a record that prints alike. -/
lemma propertyOf_essence (scope : Scope) (kind : FieldKind) (line : Line) (name type : Node)
    (optional : Bool) (modifiers : List String) :
    (propertyOf scope (.field kind line name type optional modifiers)).KeptUpTo Property.PrintsAs
      (propertyOf scope (Node.essence (.field kind line name type optional modifiers))) := by
  generalize hnode : Node.field kind line name type optional modifiers = node
  have hparts : node.type? = some type ∧ node.optional? = some optional ∧
      node.name? = some name := by
    subst hnode
    exact ⟨rfl, rfl, rfl⟩
  have hessence : node.essence.type? = some type.essence ∧ node.essence.optional? = some optional ∧
      node.essence.name? = some name.essence := by
    subst hnode
    exact ⟨rfl, rfl, rfl⟩
  simp only [propertyOf, hparts, hessence, Traced.present_some, Traced.pure_bind,
    (sameText_essence type).type, isComputed_essence]
  refine (Traced.keptUpTo_of_outcome_eq node.requiredName_essence.symm).bind ?_
  rintro declared _ rfl
  refine (Traced.keptUpTo_of_outcome_eq rfl).bind ?_
  rintro text _ rfl
  split
  · exact Traced.keptUpTo_pure ⟨rfl, rfl, rfl⟩
  · exact Traced.keptUpTo_pure ⟨rfl, rfl, rfl⟩

/-- An index signature has a record that prints alike. -/
lemma indexPropertyOf_essence (scope : Scope) (line : Line) (name type : Node) (optional : Bool)
    (modifiers : List String) (typeParameters parameters : List Node) :
    (indexPropertyOf scope (.signature .indexSignature line name type optional modifiers
        typeParameters parameters)).KeptUpTo Property.PrintsAs
      (indexPropertyOf scope (Node.essence (.signature .indexSignature line name type optional
        modifiers typeParameters parameters))) := by
  generalize hnode : Node.signature .indexSignature line name type optional modifiers
    typeParameters parameters = node
  have hparts : node.type? = some type ∧ node.optional? = some optional := by
    subst hnode
    exact ⟨rfl, rfl⟩
  have hessence : node.essence.type? = some type.essence ∧
      node.essence.optional? = some optional := by
    subst hnode
    exact ⟨rfl, rfl⟩
  have htype : typeText (scope.enter node.essence) type.essence =
      typeText (scope.enter node) type := by
    rw [(sameText_essence type).type, (node.sameNames_essence scope).typeText_eq]
  simp only [indexPropertyOf, hparts, hessence, Traced.present_some, Traced.pure_bind, htype]
  refine (Traced.keptUpTo_of_outcome_eq rfl).bind ?_
  rintro text _ rfl
  exact Traced.keptUpTo_pure ⟨rfl, rfl, rfl⟩

/-! ### Members -/

/-- Members contribute properties that print alike, methods that print alike, or nothing. -/
inductive Contribution.PrintsAs : Contribution → Contribution → Prop
  | property {property property' : Property} :
    property.PrintsAs property' → PrintsAs (.property property) (.property property')
  | method {method method' : Method} :
    method.PrintsAs method' → PrintsAs (.method method) (.method method')
  | nothing : PrintsAs .nothing .nothing

/-- A method contributes a method that prints alike, whether or not its name stands in brackets. -/
lemma namedMethod_essence {scope : Scope} {owner : String} {node node' : Node}
    (h : ∀ given, (methodOf scope node given false false owner).KeptUpTo Method.PrintsAs
      (methodOf scope node' given false false owner)) (name : Node) :
    (if isComputed name then do return .method (← keyMethodOf scope node name owner)
      else do return .method (← methodOf scope node none false false owner) :
        Traced Contribution).KeptUpTo Contribution.PrintsAs
      (if isComputed name.essence then do
          return .method (← keyMethodOf scope node' name.essence owner)
        else do return .method (← methodOf scope node' none false false owner)) := by
  have hkey : (keyMethodOf scope node name owner).KeptUpTo Method.PrintsAs
      (keyMethodOf scope node' name.essence owner) := by
    unfold keyMethodOf
    rw [Node.declaredName_essence]
    refine (Traced.keptUpTo_of_outcome_eq rfl).bind ?_
    rintro text _ rfl
    exact (h _).bind fun method method' halike => Traced.keptUpTo_pure halike
  rw [isComputed_essence]
  split
  · exact hkey.bind fun method method' halike => Traced.keptUpTo_pure (.method halike)
  · exact (h none).bind fun method method' halike => Traced.keptUpTo_pure (.method halike)

/-- What matters of a member contributes what prints alike. -/
lemma contributionOf_essence (scope : Scope) (owner : String) {node : Node}
    (hnode : node.isSupportedMember = true) :
    (contributionOf scope owner node).KeptUpTo Contribution.PrintsAs
      (contributionOf scope owner node.essence) := by
  cases node with
  | field kind line name type optional modifiers =>
    cases kind with
    | member => cases hnode
    | _ =>
      exact (propertyOf_essence scope _ line name type optional modifiers).bind
        fun property property' halike => Traced.keptUpTo_pure (.property halike)
  | signature kind line name type optional modifiers typeParameters parameters =>
    have hmethod : kind ≠ .functionType ∧ kind ≠ .indexSignature → ∀ given,
        (methodOf scope (.signature kind line name type optional modifiers typeParameters
          parameters) given false (kind == .constructor) owner).KeptUpTo Method.PrintsAs
        (methodOf scope (Node.essence (.signature kind line name type optional modifiers
          typeParameters parameters)) given false (kind == .constructor) owner) :=
      fun hkind given => methodOf_essence scope hkind line name type optional modifiers
        typeParameters parameters given false owner
    have hindex := indexPropertyOf_essence scope line name type optional modifiers typeParameters
      parameters
    rw [Node.essence] at hmethod hindex ⊢
    cases kind with
    | callSignature | constructSignature =>
      exact (hmethod (by decide) _).bind
        fun method method' halike => Traced.keptUpTo_pure (.method halike)
    | constructor =>
      exact (hmethod (by decide) _).bind
        fun method method' halike => Traced.keptUpTo_pure (.method halike)
    | methodSignature | methodDeclaration => exact namedMethod_essence (hmethod (by decide)) name
    | indexSignature =>
      exact hindex.bind fun property property' halike => Traced.keptUpTo_pure (.property halike)
    | _ => cases hnode
  | _ => cases hnode

/-- A member from which nothing is built contributes nothing. -/
lemma contributionOf_unsupported (scope : Scope) (owner : String) {node : Node}
    (hnode : node.isSupportedMember = false) :
    (contributionOf scope owner node).outcome = .ok .nothing := by
  cases node with
  | field kind =>
    cases kind with
    | member => rfl
    | _ => cases hnode
  | signature kind => cases kind <;> first | rfl | cases hnode
  | _ => rfl

/-- The properties that members contribute print alike, and so do their methods. -/
structure ContributionsPrintAs (contributions contributions' : List Contribution) : Prop where
  properties : List.Forall₂ Property.PrintsAs (contributions.filterMap Contribution.property?)
    (contributions'.filterMap Contribution.property?)
  methods : List.Forall₂ Method.PrintsAs (contributions.filterMap Contribution.method?)
    (contributions'.filterMap Contribution.method?)

/-- One more member contributes what prints alike. -/
lemma Contribution.PrintsAs.cons {first first' : Contribution} {rest rest' : List Contribution}
    (hfirst : first.PrintsAs first') (hrest : ContributionsPrintAs rest rest') :
    ContributionsPrintAs (first :: rest) (first' :: rest') := by
  cases hfirst with
  | property halike => exact ⟨.cons halike hrest.properties, hrest.methods⟩
  | method halike => exact ⟨hrest.properties, .cons halike hrest.methods⟩
  | nothing => exact ⟨hrest.properties, hrest.methods⟩

/-- **Members.**  What matters of members contributes what prints alike. -/
lemma contributions_essence (scope : Scope) (owner : String) (members : List Node) :
    (Traced.all (members.map (contributionOf scope owner))).KeptUpTo ContributionsPrintAs
      (Traced.all (((essences members).filter (·.isSupportedMember)).map
        (contributionOf scope owner))) := by
  induction members with
  | nil => exact Traced.keptUpTo_pure ⟨.nil, .nil⟩
  | cons node nodes ih =>
    rw [essences, List.map_cons, Traced.all]
    cases hnode : node.isSupportedMember with
    | true =>
      have hkept : node.essence.isSupportedMember = true := by
        rw [Node.isSupportedMember_essence, hnode]
      rw [List.filter_cons_of_pos hkept, List.map_cons, Traced.all]
      refine (contributionOf_essence scope owner hnode).bind fun first first' hfirst => ?_
      exact ih.map fun rest rest' hrest => hfirst.cons hrest
    | false =>
      have hdropped : ¬ node.essence.isSupportedMember = true := by
        rw [Node.isSupportedMember_essence, hnode]
        exact Bool.false_ne_true
      rw [List.filter_cons_of_neg hdropped]
      intro contributions hcontributions
      obtain ⟨first, hfirst, hrest⟩ := Traced.bind_outcome_eq_ok.mp hcontributions
      obtain ⟨rest, hvalues, rfl⟩ := Traced.map_outcome_eq_ok.mp hrest
      rw [contributionOf_unsupported scope owner hnode] at hfirst
      obtain rfl := Except.ok.inj hfirst
      obtain ⟨rest', hrest', halike⟩ := ih rest hvalues
      exact ⟨rest', hrest', halike.properties, halike.methods⟩

/-! ### Interfaces -/

/-- A declaration has the same name with its type parameters, whatever is reported. -/
lemma genericName_essence (node : Node) :
    (genericName node.essence).outcome = (genericName node).outcome := by
  rw [genericName, genericName, Traced.bind_outcome, Traced.bind_outcome,
    Node.requiredName_essence, Node.typeParameters?_essence]
  cases node.typeParameters? with
  | none => rfl
  | some parameters =>
    have hnames : (essences parameters).map Node.parameterName =
        parameters.map Node.parameterName := by
      rw [essences_eq_map, List.map_map]
      exact List.map_congr_left fun parameter _ => Node.parameterName_essence parameter
    have hempty : (essences parameters).isEmpty = parameters.isEmpty := by
      rw [essences_eq_map, List.isEmpty_map]
    simp only [Option.map_some, Traced.present_some, Traced.pure_bind, hnames, hempty]

/-- The same name is chosen, whatever is reported. -/
lemma chosenName_essence (node : Node) (name : Option String) :
    (chosenName node.essence name).outcome = (chosenName node name).outcome := by
  cases name with
  | none => exact genericName_essence node
  | some given =>
    rw [chosenName, chosenName]
    split
    · exact genericName_essence node
    · rfl

/-- Interfaces whose members print alike print alike, whatever they extend. -/
lemma interfaceWith_printsAs (name : String) (kind : InterfaceKind) (parents parents' : List String)
    {contributions contributions' : List Contribution}
    (h : ContributionsPrintAs contributions contributions') :
    (interfaceWith name kind parents contributions).PrintsAs
      (interfaceWith name kind parents' contributions') := by
  refine ⟨rfl, fun library => ?_⟩
  have hmethods := Method.PrintsAs.map_line h.methods library
  have hproperties := Property.PrintsAs.flatMap_lines h.properties
  have hmaker := Property.PrintsAs.map_makerParameter h.properties
  cases kind with
  | classLike =>
    simp only [Interface.lines, Interface.bodyLines, interfaceWith, hmethods, hproperties]
  | interfaceLike =>
    simp only [Interface.lines, Interface.bodyLines, interfaceWith, makerOf, List.map_append,
      hmethods, hproperties, hmaker]

/-- What matters of a class, an interface or an object type has a record that prints alike. -/
lemma interfaceOf_essence (scope : Scope) (node : Node) {members : List Node}
    (hmembers : node.members? = some members)
    (hessence : node.essence.members? =
      some ((essences members).filter (·.isSupportedMember)))
    (kind : InterfaceKind) (name : Option String) :
    (interfaceOf scope node kind name).KeptUpTo Interface.PrintsAs
      (interfaceOf scope node.essence kind name) := by
  have hmember : contributionOf (scope.enter node.essence) = contributionOf (scope.enter node) :=
    funext fun owner => funext (contributionOf_congr (node.sameNames_essence scope) owner)
  have hparents : ∀ scope' : Scope,
      (Traced.all (node.heritage.map (clauseTexts (scope.enter node)))).KeptUpTo (fun _ _ => True)
        (Traced.all (([] : List Node).map (clauseTexts scope'))) :=
    fun scope' => Traced.keptUpTo_any _ fun _ => trivial
  simp only [interfaceOf, Node.heritage_essence, hmembers, hessence, hmember, Traced.present_some,
    Traced.pure_bind]
  refine (hparents _).bind fun parents parents' _ => ?_
  refine (Traced.keptUpTo_of_outcome_eq (chosenName_essence node name).symm).bind ?_
  rintro chosen _ rfl
  refine (contributions_essence _ chosen members).bind fun taken taken' htaken => ?_
  exact (Traced.keptUpTo_pure (interfaceWith_printsAs chosen kind _ _ htaken)).note _ _

/-- What matters of a type alias has a record that prints alike. -/
lemma aliasOf_essence (scope : Scope) (line : Line) (name : Node) (typeParameters : List Node)
    (type : Node) :
    (aliasOf scope (.aliasDecl line name typeParameters type)).KeptUpTo Interface.PrintsAs
      (aliasOf scope (Node.essence (.aliasDecl line name typeParameters type))) := by
  generalize hnode : Node.aliasDecl line name typeParameters type = node
  have hparts : node.type? = some type ∧ node.essence.type? = some type.essence := by
    subst hnode
    exact ⟨rfl, rfl⟩
  have hnames := node.sameNames_essence scope
  have hmember : contributionOf (scope.enter node.essence) = contributionOf (scope.enter node) :=
    funext fun owner => funext (contributionOf_congr hnames owner)
  have htype : typeText (scope.enter node.essence) type.essence =
      typeText (scope.enter node) type := by
    rw [(sameText_essence type).type, hnames.typeText_eq]
  simp only [aliasOf, hparts, hmember, Traced.present_some, Traced.pure_bind]
  refine (Traced.keptUpTo_of_outcome_eq (genericName_essence node).symm).bind ?_
  rintro declared _ rfl
  cases type with
  | objectType line members =>
    refine (contributions_essence _ declared members).bind fun taken taken' htaken => ?_
    have halike := interfaceWith_printsAs declared .interfaceLike [] [] htaken
    exact (Traced.keptUpTo_pure halike).note _ _
  | _ =>
    have hnothing : ContributionsPrintAs [] [] := ⟨.nil, .nil⟩
    rw [htype]
    refine (Traced.keptUpTo_of_outcome_eq rfl).bind fun parent parent' _ => ?_
    have halike := interfaceWith_printsAs declared .interfaceLike [parent] [parent'] hnothing
    exact (Traced.keptUpTo_pure halike).note _ _

/-! ### Variables -/

/-- A variable and the interface of its type, if that is an object type written in place, print
alike. -/
structure VariablePrintsAs (record record' : Variable × Option Interface) : Prop where
  value : record.1 = record'.1
  interface : Option.Rel Interface.PrintsAs record.2 record'.2

/-- What matters of a variable has records that print alike. -/
lemma variableOf_essence (scope : Scope) (node : Node) :
    (variableOf scope node).KeptUpTo VariablePrintsAs (variableOf scope node.essence) := by
  unfold variableOf
  refine (Traced.keptUpTo_of_outcome_eq node.requiredName_essence.symm).bind ?_
  rintro declared _ rfl
  rw [Node.type?_essence]
  cases node.type? with
  | none => exact fun record hrecord => absurd hrecord Traced.fault_outcome_ne_ok
  | some type =>
    rw [Option.map_some, Traced.present_some, Traced.present_some, Traced.pure_bind,
      Traced.pure_bind]
    have htype : (typeText scope type).outcome = (typeText scope type.essence).outcome := by
      rw [(sameText_essence type).type]
    cases type with
    | objectType line members =>
      have hinterface := interfaceOf_essence scope (.objectType line members) rfl rfl
        .interfaceLike (some (inlineName declared))
      exact hinterface.bind fun interface interface' halike =>
        Traced.keptUpTo_pure ⟨by rw [halike.name], .some halike⟩
    | _ =>
      refine (Traced.keptUpTo_of_outcome_eq htype).bind ?_
      rintro text _ rfl
      exact Traced.keptUpTo_pure ⟨rfl, .none⟩

/-- Variables that print alike are the same, and their interfaces print alike. -/
lemma VariablePrintsAs.lists {records records' : List (Variable × Option Interface)}
    (h : List.Forall₂ VariablePrintsAs records records') :
    records.map (·.1) = records'.map (·.1) ∧
      List.Forall₂ Interface.PrintsAs (records.filterMap (·.2)) (records'.filterMap (·.2)) := by
  induction h with
  | nil => exact ⟨rfl, .nil⟩
  | @cons record record' records records' hfirst _ ih =>
    obtain ⟨value, interface⟩ := record
    obtain ⟨value', interface'⟩ := record'
    obtain ⟨hvalue, hinterface⟩ := hfirst
    obtain ⟨hvalues, hinterfaces⟩ := ih
    refine ⟨by rw [List.map_cons, List.map_cons, hvalue, hvalues], ?_⟩
    cases hinterface with
    | none => exact hinterfaces
    | some halike => exact .cons halike hinterfaces

/-- The variables of a statement are the same, and their interfaces print alike. -/
lemma variablesOf_essence (scope : Scope) (line : Line) (declarations : List Node) :
    (variablesOf scope (.variableStatement line declarations)).KeptUpTo
      (fun records records' => records.1 = records'.1 ∧
        List.Forall₂ Interface.PrintsAs records.2 records'.2)
      (variablesOf scope (Node.essence (.variableStatement line declarations))) := by
  have hrecords : (Traced.all (declarations.map (variableOf scope))).KeptUpTo
      (List.Forall₂ VariablePrintsAs)
      (Traced.all ((essences declarations).map (variableOf scope))) := by
    rw [essences_eq_map, List.map_map]
    exact Traced.keptUpTo_all_map (variableOf_essence scope) declarations
  exact hrecords.bind fun records records' halike =>
    Traced.keptUpTo_pure (VariablePrintsAs.lists halike)

/-! ### Statements -/

/-- What matters of a statement that holds no others adds what prints alike. -/
lemma simpleStatementOf_essence (scope : Scope) (owner : String) {node : Node}
    (hbody : node.body? = none) (hnode : node.isSupportedStatement = true) :
    (simpleStatementOf scope owner node).KeptUpTo Module.PrintsAs
      (simpleStatementOf scope owner node.essence) := by
  have hnested : ∀ library, nestedLines library [] = nestedLines library [] := fun _ => rfl
  cases node with
  | classDecl line name typeParameters heritage members modifiers =>
    have hinterface := interfaceOf_essence scope (.classDecl line name typeParameters heritage
      members modifiers) rfl rfl .classLike none
    exact hinterface.bind fun interface interface' halike =>
      Traced.keptUpTo_pure ⟨rfl, rfl, .nil, .cons halike .nil, hnested⟩
  | interfaceDecl line name typeParameters heritage members =>
    have hinterface := interfaceOf_essence scope (.interfaceDecl line name typeParameters heritage
      members) rfl rfl .interfaceLike none
    exact hinterface.bind fun interface interface' halike =>
      Traced.keptUpTo_pure ⟨rfl, rfl, .nil, .cons halike .nil, hnested⟩
  | aliasDecl line name typeParameters type =>
    exact (aliasOf_essence scope line name typeParameters type).bind
      fun interface interface' halike =>
        Traced.keptUpTo_pure ⟨rfl, rfl, .nil, .cons halike .nil, hnested⟩
  | variableStatement line declarations =>
    refine (variablesOf_essence scope line declarations).bind fun records records' halike => ?_
    exact Traced.keptUpTo_pure ⟨rfl, halike.1, .nil, halike.2, hnested⟩
  | signature kind line name type optional modifiers typeParameters parameters =>
    cases kind with
    | functionDeclaration =>
      have hkind : SignatureKind.functionDeclaration ≠ .functionType ∧
          SignatureKind.functionDeclaration ≠ .indexSignature := by decide
      have hmethod := methodOf_essence scope hkind line name type optional modifiers
        typeParameters parameters none true owner
      exact hmethod.bind fun method method' halike =>
        Traced.keptUpTo_pure ⟨rfl, rfl, .cons halike .nil, .nil, hnested⟩
    | _ => cases hnode
  | namespaceDecl => cases hbody
  | _ => cases hnode

/-- A statement from which nothing is built adds nothing. -/
lemma simpleStatementOf_unsupported {scope : Scope} {owner : String} {node : Node} {module : Module}
    (hnode : node.isSupportedStatement = false)
    (h : (simpleStatementOf scope owner node).outcome = .ok module) : module = .empty owner := by
  have hskipped : ∀ {notice : Notice},
      (do Traced.note notice; return Module.empty owner : Traced Module).outcome = .ok module →
      module = .empty owner :=
    fun hmodule => (Except.ok.inj hmodule).symm
  cases node with
  | enumDecl =>
    obtain ⟨name, -, hmodule⟩ := Traced.bind_outcome_eq_ok.mp h
    exact hskipped hmodule
  | signature kind =>
    cases kind with
    | functionDeclaration => cases hnode
    | _ => exact hskipped h
  | classDecl | interfaceDecl | aliasDecl | variableStatement | namespaceDecl => cases hnode
  | _ => exact hskipped h

/-- Statements of the essence have no body unless those of the tree do. -/
lemma body?_essence (node : Node) : node.essence.body? = node.body?.map Node.essence := by
  cases node <;> rfl

/-- The statements of a body are what matters of its statements. -/
lemma bodyStatements_essence (body : Node) :
    body.essence.bodyStatements =
      (essences body.bodyStatements).filter (·.isSupportedStatement) := by
  cases body <;> rfl

/-- What matters of a namespace has a body when the namespace has one. -/
lemma noteBodiless_essence (owner : String) (body : Node) :
    noteBodiless owner body.essence = noteBodiless owner body := by
  cases body <;> rfl

/-- Nested modules that print alike are blocks that are the same. -/
lemma Module.PrintsAs.nested_singleton {inner inner' : Module} (h : inner.PrintsAs inner')
    (owner : String) :
    Module.PrintsAs { name := owner, modules := [inner] }
      { name := owner, modules := [inner'] } := by
  refine ⟨rfl, rfl, .nil, .nil, fun library => ?_⟩
  rw [nestedLines_cons, nestedLines_cons, h.name, h.lines_eq]

/-- **Statements.**  What matters of statements adds what prints alike. -/
theorem statementsOf_essence (scope : Scope) (owner : String) (statements : List Node) :
    (statementsOf scope owner statements).KeptUpTo Module.PrintsAs
      (statementsOf scope owner ((essences statements).filter (·.isSupportedStatement))) := by
  induction statements using statements_induction generalizing scope owner with
  | nil => exact Traced.keptUpTo_pure ⟨rfl, rfl, .nil, .nil, fun _ => rfl⟩
  | simple node nodes hbody ih =>
    rw [essences, statementsOf_cons, statementOf_simple hbody]
    cases hnode : node.isSupportedStatement with
    | true =>
      have hkept : node.essence.isSupportedStatement = true := by
        rw [Node.isSupportedStatement_essence, hnode]
      have hbody' : node.essence.body? = none := by
        rw [body?_essence, hbody]
        rfl
      rw [List.filter_cons_of_pos hkept, statementsOf_cons, statementOf_simple hbody']
      refine (simpleStatementOf_essence scope owner hbody hnode).bind fun first first' hfirst => ?_
      exact (ih scope owner).map fun rest rest' hrest => hfirst.merge hrest
    | false =>
      have hdropped : ¬ node.essence.isSupportedStatement = true := by
        rw [Node.isSupportedStatement_essence, hnode]
        exact Bool.false_ne_true
      rw [List.filter_cons_of_neg hdropped]
      intro module hmodule
      obtain ⟨first, hfirst, hmodule⟩ := Traced.bind_outcome_eq_ok.mp hmodule
      obtain ⟨rest, hrest, rfl⟩ := Traced.map_outcome_eq_ok.mp hmodule
      obtain rfl := simpleStatementOf_unsupported hnode hfirst
      rw [← name_of_statementsOf hrest, Module.empty_merge, name_of_statementsOf hrest]
      exact ih scope owner rest hrest
  | namespaceDecl line name body nodes ihbody ihnodes =>
    generalize hnode : Node.namespaceDecl line name body = node
    have hessence : node.essence = .namespaceDecl none name.essence body.essence := by
      rw [← hnode, Node.essence]
    have hkept : node.essence.isSupportedStatement = true := by
      rw [hessence]
      rfl
    have hnames := node.sameNames_essence scope
    have hfirst : (statementOf scope owner node).KeptUpTo Module.PrintsAs
        (statementOf scope owner node.essence) := by
      rw [hessence, ← hnode, statementOf_namespaceDecl, statementOf_namespaceDecl, ← hessence,
        hnode]
      refine (Traced.keptUpTo_of_outcome_eq node.requiredName_essence.symm).bind ?_
      rintro inner _ rfl
      rw [noteBodiless_essence, bodyStatements_essence, statementsOf_congr hnames]
      refine (Traced.keptUpTo_of_outcome_eq rfl).bind fun _ _ _ => ?_
      refine (ihbody _ inner).bind fun built built' halike => ?_
      exact Traced.keptUpTo_pure (halike.nested_singleton owner)
    rw [essences, List.filter_cons_of_pos hkept, statementsOf_cons, statementsOf_cons]
    refine hfirst.bind fun first first' halike => ?_
    exact (ihnodes scope owner).map fun rest rest' hrest => halike.merge hrest

/-! ### Files -/

/-- The essence of a file has the bindings of the file, if the file has bindings. -/
lemma bindingsOf_essence (line : Line) (path : String) (statements : List Node)
    (name : Option String) :
    (bindingsOf (.sourceFile line path statements) name).KeptBy
      (bindingsOf (Node.essence (.sourceFile line path statements)) name) := by
  intro text htext
  obtain ⟨module, hmodule, htext⟩ := Traced.bind_outcome_eq_ok.mp htext
  obtain rfl := Except.ok.inj htext
  rw [fileOf_outcome_eq] at hmodule
  obtain ⟨module', hmodule', halike⟩ := statementsOf_essence _ _ statements module hmodule
  rw [Node.essence, halike.text_eq]
  rw [← fileOf_outcome_eq none] at hmodule'
  exact bindingsOf_of_fileOf hmodule'

/-- **Irrelevant syntax.**  Two well-typed declaration files of which the same matters have the same
bindings, whatever name the library is given, if any. -/
theorem bindingsOf_of_essence_eq {line line' : Line} {path path' : String}
    {statements statements' : List Node}
    (hfile : (Node.sourceFile line path statements).WellTyped)
    (hfile' : (Node.sourceFile line' path' statements').WellTyped)
    (h : Node.essence (.sourceFile line path statements) =
      Node.essence (.sourceFile line' path' statements')) (name : Option String) :
    ∃ text, (bindingsOf (.sourceFile line path statements) name).outcome = .ok text ∧
      (bindingsOf (.sourceFile line' path' statements') name).outcome = .ok text := by
  obtain ⟨module, -, hbindings⟩ := exists_bindingsOf hfile name
  obtain ⟨module', -, hbindings'⟩ := exists_bindingsOf hfile' name
  have htext := bindingsOf_essence line path statements name _ hbindings
  have htext' := bindingsOf_essence line' path' statements' name _ hbindings'
  rw [h, htext'] at htext
  rw [Except.ok.inj htext] at hbindings'
  exact ⟨module.text, hbindings, hbindings'⟩

/-- A declaration file with a class inside a namespace, a function and an enumeration.  The flag
tells whether it is written with everything that does not matter. -/
def adornedFile (adorned : Bool) : Node :=
  let line : Line := if adorned then some 7 else none
  let name (text : String) : Node := if adorned then .identifier line text else .absent
  let number : Node := .keywordType line "number"
  let parameter : Node := .parameter line (name "value") number false adorned
  let callback : Node :=
    .signature .functionType line .absent number adorned [] []
      [.parameter line (name "event") number true true]
  let index : Node :=
    .signature .indexSignature line .absent number true (if adorned then ["readonly"] else []) []
      [.parameter line (name "key") number true false]
  let method : Node :=
    .signature .methodDeclaration line (.identifier line "m") callback adorned
      (if adorned then ["public", "static"] else ["static"]) [] [parameter]
  let constructor : Node :=
    .signature .constructor line .absent .absent adorned (if adorned then ["private"] else []) []
      [.parameter line (.identifier line "size") number false adorned]
  let unsupported : List Node :=
    if adorned then [.field .member line (.identifier line "hidden") .absent true []] else []
  let heritage : List Node :=
    if adorned then
      [.heritageClause line "extends" [.heritageType line (.identifier line "Base") [callback]]]
    else []
  let enumeration : List Node :=
    if adorned then [.enumDecl line (.identifier line "E") [.word "A"], .bare .statement line]
    else []
  .sourceFile line "library.d.ts"
    (enumeration ++
      [.namespaceDecl line (.identifier line "N") (.block line (enumeration ++
        [.classDecl line (.identifier line "C") [] heritage
          (unsupported ++ [index, method, constructor]) (if adorned then ["abstract"] else [])])),
        .signature .functionDeclaration line (.identifier line "f") (.objectType line
          (unsupported ++ [index])) adorned (if adorned then ["declare"] else []) [] [parameter]])

/-- In the sample both ways to write the file have the same bindings. -/
theorem bindingsOf_adornedFile :
    (adornedFile true).WellTyped ∧ (adornedFile false).WellTyped ∧
    (adornedFile true).essence = (adornedFile false).essence ∧
    ∃ text, (bindingsOf (adornedFile true) none).outcome = .ok text ∧
      (bindingsOf (adornedFile false) none).outcome = .ok text :=
  have hadorned : (adornedFile true).WellTyped := by decide
  have hplain : (adornedFile false).WellTyped := by decide
  have hessence : (adornedFile true).essence = (adornedFile false).essence := rfl
  ⟨hadorned, hplain, hessence, bindingsOf_of_essence_eq hadorned hplain hessence none⟩

end Model

end ReasonBindings
