import ReasonBindings.Proofs.Model.Built
import ReasonBindings.Proofs.Model.Texts
import ReasonBindings.Proofs.TypeText.SingleLine

/-!
# The texts of built records

The records that are built for statements have no texts but names and types from the
statements, the name of the module, and fixed words.  So the records for unbroken
statements have no line feeds in them, and they are printed line by line.
-/

namespace ReasonBindings.Model

open Layout Syntax

/-! ### Members -/

/-- The type of an unbroken declaration is on one line. -/
lemma Annotated.singleLine {scope : Scope} {node : Node} {text : String}
    (h : Annotated scope node text) (hnode : node.Unbroken) : SingleLine text := by
  obtain ⟨written, hwritten, htext⟩ := h
  exact singleLine_typeText (hnode.type? hwritten) htext

/-- The record of an unbroken parameter has no line feeds. -/
lemma Parameter.StemsFrom.singleLine {scope : Scope} {node : Node} {parameter : Parameter}
    (h : Parameter.StemsFrom scope node parameter) (hnode : node.Unbroken) :
    ∀ text ∈ parameter.texts, SingleLine text := by
  obtain ⟨name, label, hname, hlabel, hparameter⟩ := h.label
  have hlabelled : SingleLine parameter.name := by
    rw [hparameter]
    cases label with
    | none => decide
    | some text => exact (hnode.name? hname).declaredName hlabel text rfl
  have htype : SingleLine parameter.type := h.type.singleLine hnode
  simpa [Parameter.texts] using And.intro hlabelled htype

/-- Adding the sentinel adds no line feed. -/
lemma singleLine_withSentinel {parameters : List Parameter}
    (h : ∀ parameter ∈ parameters, ∀ text ∈ parameter.texts, SingleLine text) :
    ∀ parameter ∈ withSentinel parameters, ∀ text ∈ parameter.texts, SingleLine text := by
  unfold withSentinel
  split
  · have hsentinel : ∀ text ∈ sentinel.texts, SingleLine text := by decide
    simpa [or_imp, forall_and] using And.intro h hsentinel
  · exact h

/-- The record of an unbroken declaration with parameters has no line feeds. -/
lemma Method.StemsFrom.singleLine {scope : Scope} {node : Node} {name : Option String} {ctor : Bool}
    {owner : String} {method : Method} (h : Method.StemsFrom scope node name ctor owner method)
    (hnode : node.Unbroken) (hgiven : ∀ given ∈ name, SingleLine given)
    (howner : SingleLine owner) : ∀ text ∈ method.texts, SingleLine text := by
  have hname : SingleLine method.name := by
    have hbound := h.name
    cases name with
    | none => exact hnode.requiredName hbound
    | some given =>
      rw [hbound]
      exact hgiven given rfl
  have hparameters : ∀ parameter ∈ method.parameters, ∀ text ∈ parameter.texts,
      SingleLine text := by
    obtain ⟨declared, own, hdeclared, hown, hmethod⟩ := h.parameters
    rw [hmethod]
    refine singleLine_withSentinel fun parameter hmem => ?_
    obtain ⟨source, hsource, hstems⟩ := exists_left_of_mem hown hmem
    exact hstems.singleLine (hnode.parameters? hdeclared source hsource)
  intro text hmem
  rw [Method.texts, h.template] at hmem
  simp only [Option.toList_none, List.nil_append, List.mem_cons, List.mem_flatMap] at hmem
  rcases hmem with rfl | rfl | rfl | ⟨parameter, hparameter, htext⟩
  · exact hname
  · exact h.type.singleLine hnode
  · rw [h.owner]
    exact howner
  · exact hparameters parameter hparameter text htext

/-- A call template on one line adds no line feed. -/
lemma Method.singleLine_withTemplate {method : Method} {template : Option String}
    (h : ∀ text ∈ method.texts, SingleLine text) (htemplate : ∀ text ∈ template, SingleLine text) :
    ∀ text ∈ Method.texts { method with template := template }, SingleLine text := by
  intro text hmem
  simp only [Method.texts, List.mem_cons, List.mem_append, Option.mem_toList] at hmem h
  rcases hmem with rfl | rfl | rfl | htext | hmem
  · exact h _ (Or.inl rfl)
  · exact h _ (Or.inr (Or.inl rfl))
  · exact h _ (Or.inr (Or.inr (Or.inl rfl)))
  · exact htemplate text htext
  · exact h _ (Or.inr (Or.inr (Or.inr (Or.inr hmem))))

/-- A key in brackets is on one line when the key is. -/
lemma singleLine_bracketed {key : String} (h : SingleLine key) : SingleLine (bracketed key) := by
  rw [bracketed, SingleLine.append_iff, SingleLine.append_iff]
  exact ⟨⟨by decide, h⟩, by decide⟩

/-- The record of an unbroken property has no line feeds. -/
lemma Property.StemsFrom.singleLine {scope : Scope} {node : Node} {property : Property}
    (h : Property.StemsFrom scope node property) (hnode : node.Unbroken) :
    ∀ text ∈ property.texts, SingleLine text := by
  cases h with
  | named hname htype =>
    have hnamed : SingleLine _ := hnode.requiredName hname
    simpa [Property.texts] using And.intro hnamed (htype.singleLine hnode)
  | @keyed name type optional hname htype =>
    have hkey : SingleLine (bracketed name) := singleLine_bracketed (hnode.requiredName hname)
    have htemplate : SingleLine (keyTemplate (bracketed name)) := by
      rw [keyTemplate, SingleLine.append_iff, SingleLine.append_iff]
      exact ⟨⟨by decide, hkey⟩, by decide⟩
    simpa [Property.texts] using And.intro hkey (And.intro (htype.singleLine hnode) htemplate)
  | index htype =>
    have hfixed : SingleLine indexName ∧ SingleLine indexTemplate := by decide
    simpa [Property.texts] using And.intro hfixed.1 (And.intro (htype.singleLine hnode) hfixed.2)

/-- The name that a method of an unbroken member is given and its template are on one line. -/
lemma GivenName.singleLine {node : Node} {name template : Option String}
    (h : GivenName node name template) (hnode : node.Unbroken) :
    (∀ text ∈ name, SingleLine text) ∧ ∀ text ∈ template, SingleLine text := by
  cases h with
  | invoke | create | make | declared => decide
  | @key key _ hkey =>
    have hkey' : SingleLine (key.getD "") := by
      cases key with
      | none => decide
      | some text => exact hnode.declaredName hkey text rfl
    have htemplate : SingleLine (keyCallTemplate (key.getD "")) := by
      rw [keyCallTemplate, SingleLine.append_iff, SingleLine.append_iff]
      exact ⟨⟨by decide, hkey'⟩, by decide⟩
    constructor
    · rintro _ ⟨⟩
      exact singleLine_bracketed hkey'
    · rintro _ ⟨⟩
      exact htemplate

/-- The texts of what a member contributes. -/
def Contribution.texts : Contribution → List String
  | .property record => record.texts
  | .method record => record.texts
  | .nothing => []

/-- What an unbroken member contributes has no line feeds. -/
lemma Contribution.StemsFrom.singleLine {scope : Scope} {owner : String} {member : Node}
    {contribution : Contribution} (h : contribution.StemsFrom scope owner member)
    (hmember : member.Unbroken) (howner : SingleLine owner) :
    ∀ text ∈ contribution.texts, SingleLine text := by
  cases h with
  | property _ hrecord => exact hrecord.singleLine hmember
  | method _ hgiven hrecord =>
    obtain ⟨hname, htemplate⟩ := hgiven.singleLine hmember
    exact Method.singleLine_withTemplate (hrecord.singleLine hmember hname howner) htemplate
  | nothing => rintro _ ⟨⟩

/-! ### Interfaces -/

/-- The maker of an interface without line feeds has none. -/
lemma singleLine_makerOf {owner : String} {properties : List Property} (howner : SingleLine owner)
    (h : ∀ property ∈ properties, ∀ text ∈ property.texts, SingleLine text) :
    ∀ text ∈ (makerOf owner properties).texts, SingleLine text := by
  have hparameters : ∀ parameter ∈ withSentinel (properties.map Property.makerParameter),
      ∀ text ∈ parameter.texts, SingleLine text := by
    refine singleLine_withSentinel fun parameter hmem => ?_
    obtain ⟨property, hproperty, rfl⟩ := List.mem_map.mp hmem
    have hname := h property hproperty property.name (by simp [Property.texts])
    have htype := h property hproperty property.type (by simp [Property.texts])
    simpa [Parameter.texts, Property.makerParameter] using And.intro hname htype
  intro text hmem
  simp only [Method.texts, makerOf, Option.toList_none, List.nil_append, List.mem_cons,
    List.mem_flatMap] at hmem
  rcases hmem with rfl | rfl | rfl | ⟨parameter, hparameter, htext⟩
  · decide
  · decide
  · exact howner
  · exact hparameters parameter hparameter text htext

/-- An interface has no line feeds when its name, its parents and what is contributed to it have
none. -/
lemma singleLine_interfaceWith {name : String} (kind : InterfaceKind) {parents : List String}
    {contributions : List Contribution} (hname : SingleLine name)
    (hparents : ∀ parent ∈ parents, SingleLine parent)
    (h : ∀ contribution ∈ contributions, ∀ text ∈ contribution.texts, SingleLine text) :
    ∀ text ∈ (interfaceWith name kind parents contributions).texts, SingleLine text := by
  have hproperties : ∀ property ∈ contributions.filterMap Contribution.property?,
      ∀ text ∈ property.texts, SingleLine text := by
    intro property hmem
    obtain ⟨contribution, hcontribution, hproperty⟩ := List.mem_filterMap.mp hmem
    cases contribution with
    | property record =>
      obtain rfl := Option.some.inj hproperty
      exact h _ hcontribution
    | _ => cases hproperty
  have hmethods : ∀ method ∈ contributions.filterMap Contribution.method?,
      ∀ text ∈ method.texts, SingleLine text := by
    intro method hmem
    obtain ⟨contribution, hcontribution, hmethod⟩ := List.mem_filterMap.mp hmem
    cases contribution with
    | method record =>
      obtain rfl := Option.some.inj hmethod
      exact h _ hcontribution
    | _ => cases hmethod
  have hmaker := singleLine_makerOf hname hproperties
  intro text hmem
  simp only [Interface.texts, interfaceWith, List.mem_cons, List.mem_append,
    List.mem_flatMap] at hmem
  rcases hmem with rfl | (hmem | ⟨property, hproperty, htext⟩) | ⟨method, hmethod, htext⟩
  · exact hname
  · exact hparents text hmem
  · exact hproperties property hproperty text htext
  · cases kind with
    | classLike => exact hmethods method hmethod text htext
    | interfaceLike =>
      rcases List.mem_append.mp hmethod with hmethod | hmethod
      · exact hmethods method hmethod text htext
      · obtain rfl := List.mem_singleton.mp hmethod
        exact hmaker text htext

/-- The name of an unbroken declaration with its type parameters is on one line. -/
lemma singleLine_of_genericName {node : Node} {name : String}
    (h : (genericName node).outcome = .ok name) (hnode : node.Unbroken) : SingleLine name := by
  simp only [genericName, Traced.bind_outcome_eq_ok, Traced.present_outcome_eq_ok] at h
  obtain ⟨declared, hdeclared, parameters, hparameters, h⟩ := h
  have hdeclared' : SingleLine declared := hnode.requiredName hdeclared
  split at h
  · obtain rfl := Traced.pure_outcome_eq_ok.mp h
    exact hdeclared'
  · obtain ⟨names, hnames, rfl⟩ := Traced.bind_pure_outcome_eq_ok.mp h
    have hvariables : ∀ text ∈ names.map (TypeText.variableMark ++ ·), SingleLine text := by
      intro text hmem
      obtain ⟨bound, hbound, rfl⟩ := List.mem_map.mp hmem
      obtain ⟨parameter, hparameter, hname⟩ := Traced.exists_argument_of_all_map hnames hbound
      simp only [Node.parameterName, Traced.bind_outcome_eq_ok,
        Traced.present_outcome_eq_ok] at hname
      obtain ⟨nameNode, hnameNode, htext⟩ := hname
      have hunbroken := hnode.typeParameters? hparameters parameter hparameter
      exact SingleLine.append_iff.mpr ⟨by decide, (hunbroken.name? hnameNode).text? htext⟩
    simp only [SingleLine.append_iff]
    exact ⟨⟨⟨hdeclared', by decide⟩, SingleLine.intercalate (by decide) hvariables⟩, by decide⟩

/-- The name that is chosen for an unbroken declaration is on one line. -/
lemma singleLine_of_chosenName {node : Node} {given : Option String} {name : String}
    (h : (chosenName node given).outcome = .ok name) (hnode : node.Unbroken)
    (hgiven : ∀ text ∈ given, SingleLine text) : SingleLine name := by
  cases given with
  | none => exact singleLine_of_genericName h hnode
  | some text =>
    rw [chosenName] at h
    split at h
    · exact singleLine_of_genericName h hnode
    · obtain rfl := Traced.pure_outcome_eq_ok.mp h
      exact hgiven text rfl

/-- The types of an unbroken heritage clause are on one line. -/
lemma singleLine_of_clauseTexts {scope : Scope} {clause : Node} {texts : List String}
    (h : (clauseTexts scope clause).outcome = .ok texts) (hclause : clause.Unbroken) :
    ∀ text ∈ texts, SingleLine text := by
  simp only [clauseTexts, Traced.bind_outcome_eq_ok, Traced.present_outcome_eq_ok,
    typeTexts_eq_all] at h
  obtain ⟨types, htypes, htexts⟩ := h
  intro text hmem
  obtain ⟨type, htype, htext⟩ := Traced.exists_argument_of_all_map htexts hmem
  exact singleLine_typeText (hclause.types? htypes type htype) htext

/-- What unbroken members contribute has no line feeds. -/
lemma singleLine_of_contributions {scope : Scope} {owner : String} {members : List Node}
    {contributions : List Contribution}
    (h : (Traced.all (members.map (contributionOf scope owner))).outcome = .ok contributions)
    (hmembers : ∀ member ∈ members, member.Unbroken) (howner : SingleLine owner) :
    ∀ contribution ∈ contributions, ∀ text ∈ contribution.texts, SingleLine text := by
  intro contribution hmem
  obtain ⟨member, hmember, hstems⟩ :=
    exists_left_of_mem (stemsFrom_of_contributions h) hmem
  exact hstems.singleLine (hmembers member hmember) howner

/-- The record of an unbroken class, interface or object type has no line feeds. -/
lemma singleLine_of_interfaceOf {scope : Scope} {node : Node} {kind : InterfaceKind}
    {given : Option String} {interface : Interface}
    (h : (interfaceOf scope node kind given).outcome = .ok interface) (hnode : node.Unbroken)
    (hgiven : ∀ text ∈ given, SingleLine text) : ∀ text ∈ interface.texts, SingleLine text := by
  simp only [interfaceOf, Traced.bind_outcome_eq_ok, Traced.present_outcome_eq_ok,
    Traced.pure_outcome_eq_ok] at h
  obtain ⟨parents, hparents, chosen, hchosen, members, hmembers, contributions, hcontributions, -,
    -, rfl⟩ := h
  have hname : SingleLine chosen := singleLine_of_chosenName hchosen hnode hgiven
  refine singleLine_interfaceWith kind hname (fun parent hmem => ?_)
    (singleLine_of_contributions hcontributions (hnode.members? hmembers) hname)
  obtain ⟨texts, htexts, hparent⟩ := List.mem_flatten.mp hmem
  obtain ⟨clause, hclause, hclauseTexts⟩ := Traced.exists_argument_of_all_map hparents htexts
  exact singleLine_of_clauseTexts hclauseTexts (hnode.heritage clause hclause) parent hparent

/-- The record of an unbroken type alias has no line feeds. -/
lemma singleLine_of_aliasOf {scope : Scope} {node : Node} {interface : Interface}
    (h : (aliasOf scope node).outcome = .ok interface) (hnode : node.Unbroken) :
    ∀ text ∈ interface.texts, SingleLine text := by
  unfold aliasOf at h
  obtain ⟨name, hname, h⟩ := Traced.bind_outcome_eq_ok.mp h
  obtain ⟨aliased, haliased, h⟩ := Traced.bind_outcome_eq_ok.mp h
  have haliased' := hnode.type? (Traced.present_outcome_eq_ok.mp haliased)
  have hname' : SingleLine name := singleLine_of_genericName hname hnode
  split at h
  · simp only [Traced.bind_outcome_eq_ok, Traced.pure_outcome_eq_ok] at h
    obtain ⟨contributions, hcontributions, _, rfl, -, -, rfl⟩ := h
    exact singleLine_interfaceWith _ hname' (by simp)
      (singleLine_of_contributions hcontributions (haliased'.members? rfl) hname')
  · simp only [Traced.bind_outcome_eq_ok, Traced.pure_outcome_eq_ok] at h
    obtain ⟨parent, hparent, _, rfl, -, -, rfl⟩ := h
    have hparent' : SingleLine parent := singleLine_typeText haliased' hparent
    exact singleLine_interfaceWith _ hname' (by simpa using hparent') (by simp)

/-- The records of an unbroken variable and of its type have no line feeds. -/
lemma singleLine_of_variableOf {scope : Scope} {node : Node} {record : Variable × Option Interface}
    (h : (variableOf scope node).outcome = .ok record) (hnode : node.Unbroken) :
    (∀ text ∈ record.1.texts, SingleLine text) ∧
      ∀ interface ∈ record.2, ∀ text ∈ interface.texts, SingleLine text := by
  unfold variableOf at h
  obtain ⟨name, hname, h⟩ := Traced.bind_outcome_eq_ok.mp h
  obtain ⟨written, hwritten, h⟩ := Traced.bind_outcome_eq_ok.mp h
  have hname' : SingleLine name := hnode.requiredName hname
  have hwritten' : written.Unbroken := hnode.type? (Traced.present_outcome_eq_ok.mp hwritten)
  split at h
  · obtain ⟨interface, hinterface, rfl⟩ := Traced.bind_pure_outcome_eq_ok.mp h
    have hgiven : ∀ text ∈ some (inlineName name), SingleLine text := by
      rintro _ ⟨⟩
      exact SingleLine.append_iff.mpr ⟨hname', by decide⟩
    have htexts := singleLine_of_interfaceOf hinterface hwritten' hgiven
    have htype : SingleLine interface.name := htexts _ (by simp [Interface.texts])
    refine ⟨by simpa [Variable.texts] using And.intro hname' htype, ?_⟩
    rintro _ ⟨⟩
    exact htexts
  · obtain ⟨type, htype, rfl⟩ := Traced.bind_pure_outcome_eq_ok.mp h
    have htype' : SingleLine type := singleLine_typeText hwritten' htype
    refine ⟨by simpa [Variable.texts] using And.intro hname' htype', ?_⟩
    rintro _ ⟨⟩

/-! ### Modules -/

/-- The texts of nested modules are those of each of them. -/
lemma mem_nestedTexts {text : String} {modules : List Module} :
    text ∈ nestedTexts modules ↔ ∃ inner ∈ modules, text ∈ inner.texts := by
  induction modules with
  | nil => simp [nestedTexts]
  | cons inner others ih => simp [nestedTexts, ih]

/-- A module has no line feeds exactly when its name and its records have none. -/
lemma Module.singleLine_texts_iff {module : Module} :
    (∀ text ∈ module.texts, SingleLine text) ↔
      SingleLine module.name ∧
      (∀ inner ∈ module.modules, ∀ text ∈ inner.texts, SingleLine text) ∧
      (∀ value ∈ module.globals, ∀ text ∈ value.texts, SingleLine text) ∧
      (∀ interface ∈ module.interfaces, ∀ text ∈ interface.texts, SingleLine text) ∧
      ∀ method ∈ module.methods, ∀ text ∈ method.texts, SingleLine text := by
  obtain ⟨name, modules, globals, interfaces, methods⟩ := module
  simp only [Module.texts, List.mem_cons, List.mem_append, List.mem_flatMap, mem_nestedTexts]
  constructor
  · intro h
    exact ⟨h name (Or.inl rfl),
      fun inner hinner text htext =>
        h text (Or.inr (Or.inl (Or.inl (Or.inl ⟨inner, hinner, htext⟩)))),
      fun value hvalue text htext =>
        h text (Or.inr (Or.inl (Or.inl (Or.inr ⟨value, hvalue, htext⟩)))),
      fun interface hinterface text htext =>
        h text (Or.inr (Or.inl (Or.inr ⟨interface, hinterface, htext⟩))),
      fun method hmethod text htext => h text (Or.inr (Or.inr ⟨method, hmethod, htext⟩))⟩
  · rintro ⟨hname, hmodules, hglobals, hinterfaces, hmethods⟩ text htext
    rcases htext with rfl | ((⟨inner, hinner, htext⟩ | ⟨value, hvalue, htext⟩) |
      ⟨interface, hinterface, htext⟩) | ⟨method, hmethod, htext⟩
    · exact hname
    · exact hmodules inner hinner text htext
    · exact hglobals value hvalue text htext
    · exact hinterfaces interface hinterface text htext
    · exact hmethods method hmethod text htext

/-- Merging modules without line feeds adds none. -/
lemma Module.singleLine_merge {first second : Module}
    (hfirst : ∀ text ∈ first.texts, SingleLine text)
    (hsecond : ∀ text ∈ second.texts, SingleLine text) :
    ∀ text ∈ (first.merge second).texts, SingleLine text := by
  rw [Module.singleLine_texts_iff] at hfirst hsecond ⊢
  obtain ⟨hname, hmodules, hglobals, hinterfaces, hmethods⟩ := hfirst
  obtain ⟨-, hmodules', hglobals', hinterfaces', hmethods'⟩ := hsecond
  simp only [Module.merge, List.forall_mem_append]
  exact ⟨hname, ⟨hmodules, hmodules'⟩, ⟨hglobals, hglobals'⟩, ⟨hinterfaces, hinterfaces'⟩,
    hmethods, hmethods'⟩

/-- What an unbroken statement without a body adds has no line feeds. -/
lemma singleLine_of_simpleStatementOf {scope : Scope} {owner : String} {node : Node}
    {module : Module} (h : (simpleStatementOf scope owner node).outcome = .ok module)
    (hnode : node.Unbroken) (howner : SingleLine owner) :
    ∀ text ∈ module.texts, SingleLine text := by
  rw [Module.singleLine_texts_iff]
  unfold simpleStatementOf at h
  split at h
  · obtain ⟨interface, hinterface, rfl⟩ := Traced.bind_pure_outcome_eq_ok.mp h
    have htexts := singleLine_of_interfaceOf hinterface hnode (by rintro _ ⟨⟩)
    exact ⟨howner, by simp, by simp, by simpa using htexts, by simp⟩
  · obtain ⟨interface, hinterface, rfl⟩ := Traced.bind_pure_outcome_eq_ok.mp h
    have htexts := singleLine_of_interfaceOf hinterface hnode (by rintro _ ⟨⟩)
    exact ⟨howner, by simp, by simp, by simpa using htexts, by simp⟩
  · obtain ⟨interface, hinterface, rfl⟩ := Traced.bind_pure_outcome_eq_ok.mp h
    have htexts := singleLine_of_aliasOf hinterface hnode
    exact ⟨howner, by simp, by simp, by simpa using htexts, by simp⟩
  · simp only [variablesOf, Traced.bind_outcome_eq_ok, Traced.present_outcome_eq_ok,
      Traced.pure_outcome_eq_ok] at h
    obtain ⟨_, ⟨declarations, hdeclarations, records, hrecords, rfl⟩, rfl⟩ := h
    have hall : ∀ record ∈ records, (∀ text ∈ record.1.texts, SingleLine text) ∧
        ∀ interface ∈ record.2, ∀ text ∈ interface.texts, SingleLine text := by
      intro record hmem
      obtain ⟨declaration, hdeclaration, hrecord⟩ := Traced.exists_argument_of_all_map hrecords hmem
      exact singleLine_of_variableOf hrecord (hnode.declarations? hdeclarations _ hdeclaration)
    refine ⟨howner, by simp, fun value hvalue => ?_, fun interface hinterface => ?_, by simp⟩
    · obtain ⟨record, hrecord, rfl⟩ := List.mem_map.mp hvalue
      exact (hall record hrecord).1
    · obtain ⟨record, hrecord, hinline⟩ := List.mem_filterMap.mp hinterface
      exact (hall record hrecord).2 interface hinline
  · obtain ⟨method, hmethod, rfl⟩ := Traced.bind_pure_outcome_eq_ok.mp h
    have htexts := (stemsFrom_of_methodOf hmethod).singleLine hnode (by rintro _ ⟨⟩) howner
    exact ⟨howner, by simp, by simp, by simp, by simpa using htexts⟩
  · simp only [Traced.bind_outcome_eq_ok, Traced.pure_outcome_eq_ok] at h
    obtain ⟨-, -, -, -, rfl⟩ := h
    exact ⟨howner, by simp [Module.empty]⟩
  · obtain ⟨-, -, rfl⟩ := Traced.bind_pure_outcome_eq_ok.mp h
    exact ⟨howner, by simp [Module.empty]⟩

/-- The statements of an unbroken body are unbroken. -/
lemma unbroken_bodyStatements {body : Node} (h : body.Unbroken) :
    ∀ node ∈ body.bodyStatements, node.Unbroken :=
  Node.forall_bodyStatements h fun _ => h.child

/-- **What unbroken statements add has no line feeds.** -/
theorem Module.StemsFrom.singleLine {scope : Scope} {owner : String} {statements : List Node}
    {module : Module} (h : module.StemsFrom scope owner statements)
    (hstatements : ∀ node ∈ statements, node.Unbroken) (howner : SingleLine owner) :
    ∀ text ∈ module.texts, SingleLine text := by
  induction h with
  | nil => simpa [Module.empty, Module.texts, nestedTexts] using howner
  | simple _ hfirst _ ih =>
    obtain ⟨hnode, hnodes⟩ := List.forall_mem_cons.mp hstatements
    exact Module.singleLine_merge (singleLine_of_simpleStatementOf hfirst hnode howner)
      (ih hnodes howner)
  | namespaceDecl hinner _ _ ihbuilt ihrest =>
    obtain ⟨hnode, hnodes⟩ := List.forall_mem_cons.mp hstatements
    have hbuilt := ihbuilt (unbroken_bodyStatements (hnode.body? rfl)) (hnode.requiredName hinner)
    refine Module.singleLine_merge ?_ (ihrest hnodes howner)
    rw [Module.singleLine_texts_iff]
    exact ⟨howner, by simpa using hbuilt, by simp⟩

end ReasonBindings.Model
