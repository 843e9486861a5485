import ReasonBindings.Proofs.Model.ExportedNames
import ReasonBindings.Proofs.Model.Warnings

/-!
# Missing names

A declaration whose name cannot be derived is reported and called by the empty text.  Where a
record is called by more than the name of its declaration, only the derived part is
empty: the type parameters of an interface, the ending of the name for the type of a
variable and the brackets around the name of a member stay.

Every visited declaration without a name is reported exactly once, except for the methods
whose names stand in brackets, which are not reported at all.
-/

namespace ReasonBindings

open Syntax

/-! ### Names of declarations -/

/-- The name of a declaration, or the empty text when no name can be derived. -/
def Syntax.Node.writtenName (node : Node) : String :=
  node.declaredName.value?.join.getD ""

/-- A declaration without a name is called by the empty text. -/
lemma Syntax.Node.writtenName_of_isNameless {node : Node} (h : node.isNameless = true) :
    node.writtenName = "" := by
  rw [isNameless] at h
  split at h
  · rename_i hname
    rw [writtenName, Traced.value?, hname]
    rfl
  · cases h

/-- A name that is derived is written. -/
lemma Syntax.Node.writtenName_of_outcome {node : Node} {name : Option String}
    (h : node.declaredName.outcome = .ok name) : node.writtenName = name.getD "" := by
  rw [writtenName, Traced.value?, h]
  rfl

/-- A name that is required is the written one. -/
lemma Syntax.Node.eq_writtenName {node : Node} {name : String}
    (h : node.requiredName.outcome = .ok name) : name = node.writtenName := by
  obtain ⟨declared, hdeclared, hname⟩ := Traced.bind_outcome_eq_ok.mp h
  rw [writtenName_of_outcome hdeclared]
  cases declared with
  | some text => exact (Traced.pure_outcome_eq_ok.mp hname).symm
  | none =>
    obtain ⟨line, -, hempty⟩ := Traced.bind_outcome_eq_ok.mp hname
    obtain ⟨-, -, hempty⟩ := Traced.bind_outcome_eq_ok.mp hempty
    exact (Traced.pure_outcome_eq_ok.mp hempty).symm

namespace Model

/-! ### Names of records -/

/-- The name of a member, in brackets when it is written in brackets. -/
def memberName (member : Node) : String :=
  if (member.name?.map isComputed).getD false then bracketed member.writtenName
  else member.writtenName

/-- The name of the property that a member declares. -/
def propertyName : Node → String
  | .signature .indexSignature .. => indexName
  | member => memberName member

/-- The name of the method that a member declares. -/
def methodName : Node → String
  | .signature .callSignature .. => invokeName
  | .signature .constructSignature .. => createName
  | .signature .constructor .. => makeName
  | member => memberName member

/-- The name of the interface that a node declares: a class, an interface or an alias, or a variable
with an object type. -/
def interfaceName (declaration : Node) : String :=
  if declaration.isVariableDecl then inlineName declaration.writtenName
  else recordName declaration.writtenName declaration

/-- The properties and the methods of an interface, but for its maker, have the names of the members
that declare them. -/
structure Interface.NamesMembers (members : List Node) (interface : Interface) : Prop where
  properties : List.Forall₂ (fun member property => property.name = propertyName member)
    (members.filter Node.declaresProperty) interface.properties
  methods : List.Forall₂ (fun member method => method.name = methodName member)
    (members.filter Node.declaresMethod) (interface.methods.filter (!·.maker))

/-- The interface has the name of the node that declares it and the names of its members. -/
structure Interface.NamedAfter (declared : Node × Shape) (interface : Interface) : Prop where
  name : interface.name = interfaceName declared.1
  members : interface.NamesMembers declared.2.members

/-- The records have the names of what a statement that holds no others declares. -/
structure Module.NamedAfterSimple (node : Node) (module : Module) : Prop where
  modules : module.modules = []
  globals : List.Forall₂ (fun declaration value => value.name = declaration.writtenName)
    node.declaredVariables module.globals
  interfaces : List.Forall₂ Interface.NamedAfter (interfaceDeclarations node) module.interfaces
  methods : List.Forall₂ (fun declaration method => method.name = declaration.writtenName)
    ([node].filter Node.declaresFunction) module.methods

/-- The records of a module, at any depth, have the names of what the statements declare. -/
inductive Module.NamedAfter : List Node → Module → Prop
  | nil {owner : String} : NamedAfter [] (.empty owner)
  | simple {node : Node} {nodes : List Node} {first rest : Module} : node.body? = none →
    first.NamedAfterSimple node → NamedAfter nodes rest →
    NamedAfter (node :: nodes) (first.merge rest)
  | namespaceDecl {owner : String} {line : Line} {name body : Node} {nodes : List Node}
    {built rest : Module} : built.name = (Node.namespaceDecl line name body).writtenName →
    NamedAfter body.bodyStatements built → NamedAfter nodes rest →
    NamedAfter (.namespaceDecl line name body :: nodes)
      (Module.merge { name := owner, modules := [built] } rest)

variable {scope : Scope}

/-! ### Members -/

/-- A method that is bound under a given name has it. -/
lemma name_of_methodOf {node : Node} {given : String} {static ctor : Bool} {owner : String}
    {method : Method}
    (h : (methodOf scope node (some given) static ctor owner).outcome = .ok method) :
    method.name = given :=
  (stemsFrom_of_methodOf h).name

/-- A property has the name of its member. -/
lemma name_of_propertyOf {node : Node} {property : Property}
    (h : (propertyOf scope node).outcome = .ok property) : property.name = memberName node := by
  simp only [propertyOf, Traced.bind_outcome_eq_ok, Traced.present_outcome_eq_ok] at h
  obtain ⟨name, hname, _, -, _, -, _, -, key, hkey, hrecord⟩ := h
  rw [memberName, hkey, Option.map_some, Option.getD_some, ← Node.eq_writtenName hname]
  split at hrecord
  · rename_i hcomputed
    obtain rfl := Traced.pure_outcome_eq_ok.mp hrecord
    rw [if_pos hcomputed]
  · rename_i hcomputed
    obtain rfl := Traced.pure_outcome_eq_ok.mp hrecord
    rw [if_neg hcomputed]

/-- The property and the method that are contributed have the name of the member that declares
them. -/
structure Contribution.NamedAfter (member : Node) (contribution : Contribution) : Prop where
  property : Option.Rel (fun member property => property.name = propertyName member)
    (Option.guard Node.declaresProperty member) contribution.property?
  method : Option.Rel (fun member method => method.name = methodName member)
    (Option.guard Node.declaresMethod member) contribution.method?

namespace Contribution.NamedAfter

/-- A member that declares nothing contributes nothing. -/
lemma nothing {member : Node} (hproperty : member.declaresProperty = false)
    (hmethod : member.declaresMethod = false) : NamedAfter member .nothing := by
  refine ⟨?_, ?_⟩
  · rw [Option.guard, if_neg (by simp [hproperty])]
    exact .none
  · rw [Option.guard, if_neg (by simp [hmethod])]
    exact .none

/-- A property that has the name of its member. -/
lemma ofProperty {member : Node} {record : Property} (h : member.declaresProperty = true)
    (hname : record.name = propertyName member) : NamedAfter member (.property record) := by
  refine ⟨?_, ?_⟩
  · rw [Option.guard, if_pos h]
    exact .some hname
  · rw [Option.guard, if_neg (by simp [Node.declaresMethod_of_declaresProperty h])]
    exact .none

/-- A method that has the name of its member. -/
lemma ofMethod {member : Node} {record : Method} (h : member.declaresMethod = true)
    (hname : record.name = methodName member) : NamedAfter member (.method record) := by
  have hproperty : member.declaresProperty = false := by
    rw [Bool.eq_false_iff]
    intro hproperty
    rw [Node.declaresMethod_of_declaresProperty hproperty] at h
    cases h
  refine ⟨?_, ?_⟩
  · rw [Option.guard, if_neg (by simp [hproperty])]
    exact .none
  · rw [Option.guard, if_pos h]
    exact .some hname

end Contribution.NamedAfter

/-- A method with a name of its own has it, in brackets if it stands in brackets. -/
lemma namedAfter_of_named {owner : String} {node name : Node} {contribution : Contribution}
    (hnode : node.declaresMethod = true) (hname : node.name? = some name)
    (hdeclared : node.declaredName = name.declaredName)
    (hmethod : methodName node = memberName node)
    (h : (if isComputed name then do
        return Contribution.method (← keyMethodOf scope node name owner)
      else do
        return Contribution.method (← methodOf scope node none false false owner)).outcome =
      .ok contribution) :
    contribution.NamedAfter node := by
  rw [memberName, hname, Option.map_some, Option.getD_some] at hmethod
  split at h
  · rename_i hcomputed
    rw [if_pos hcomputed] at hmethod
    simp only [keyMethodOf, Traced.bind_outcome_eq_ok, Traced.pure_outcome_eq_ok] at h
    obtain ⟨_, ⟨key, hkey, method, hrecord, rfl⟩, rfl⟩ := h
    rw [← hdeclared] at hkey
    refine .ofMethod hnode ?_
    rw [hmethod, Node.writtenName_of_outcome hkey]
    have hgiven := name_of_methodOf hrecord
    exact hgiven
  · rename_i hcomputed
    rw [if_neg hcomputed] at hmethod
    obtain ⟨record, hrecord, rfl⟩ := Traced.bind_pure_outcome_eq_ok.mp h
    refine .ofMethod hnode ?_
    rw [hmethod]
    exact Node.eq_writtenName (stemsFrom_of_methodOf hrecord).name

/-- What a member contributes has the name of the member. -/
lemma namedAfter_of_contributionOf {owner : String} {node : Node} {contribution : Contribution}
    (h : (contributionOf scope owner node).outcome = .ok contribution) :
    contribution.NamedAfter node := by
  have skipped : ∀ {node : Node}, node.declaresProperty = false → node.declaresMethod = false →
      (do Traced.note (.skippedMember node.className); return Contribution.nothing).outcome =
        .ok contribution → contribution.NamedAfter node := by
    intro node hproperty hmethod hnothing
    obtain ⟨-, -, rfl⟩ := Traced.bind_pure_outcome_eq_ok.mp hnothing
    exact .nothing hproperty hmethod
  cases node with
  | field kind line name type optional modifiers =>
    cases kind with
    | member => exact skipped rfl rfl h
    | propertySignature | propertyDeclaration =>
      obtain ⟨record, hrecord, rfl⟩ := Traced.bind_pure_outcome_eq_ok.mp h
      exact .ofProperty rfl (name_of_propertyOf hrecord)
  | signature kind line name type optional modifiers typeParameters parameters =>
    cases kind with
    | callSignature | constructSignature | constructor =>
      obtain ⟨record, hrecord, rfl⟩ := Traced.bind_pure_outcome_eq_ok.mp h
      have hname := name_of_methodOf hrecord
      exact .ofMethod rfl hname
    | methodSignature | methodDeclaration => exact namedAfter_of_named rfl rfl rfl rfl h
    | indexSignature =>
      obtain ⟨record, hrecord, rfl⟩ := Traced.bind_pure_outcome_eq_ok.mp h
      simp only [indexPropertyOf, Traced.bind_outcome_eq_ok, Traced.pure_outcome_eq_ok] at hrecord
      obtain ⟨_, -, _, -, _, -, rfl⟩ := hrecord
      exact .ofProperty rfl rfl
    | signature | functionType | functionDeclaration => exact skipped rfl rfl h
  | _ => exact skipped rfl rfl h

/-! ### Interfaces -/

/-- An interface has the names of the members that contribute to it. -/
lemma namesMembers_of_contributions {owner : String} {members : List Node}
    {contributions : List Contribution}
    (h : (Traced.all (members.map (contributionOf scope owner))).outcome = .ok contributions)
    (name : String) (kind : InterfaceKind) (parents : List String) :
    (interfaceWith name kind parents contributions).NamesMembers members := by
  have hnamed : List.Forall₂ Contribution.NamedAfter members contributions :=
    (Traced.all_map_outcome_eq_ok.mp h).imp fun _ _ => namedAfter_of_contributionOf
  have hmethods : List.Forall₂ (fun member method => method.name = methodName member)
      (members.filter Node.declaresMethod) (contributions.filterMap Contribution.method?) := by
    rw [← List.filterMap_eq_filter]
    exact List.rel_filterMap (fun _ _ hmember => hmember.method) hnamed
  refine ⟨?_, ?_⟩
  · rw [← List.filterMap_eq_filter]
    exact List.rel_filterMap (fun _ _ hmember => hmember.property) hnamed
  · rw [filter_maker_interfaceWith (stemsFrom_of_contributions h)]
    exact hmethods

/-- An interface that is built has the names of its members. -/
lemma namesMembers_of_interfaceOf {node : Node} {kind : InterfaceKind} {name : Option String}
    {interface : Interface} {members : List Node} (hmembers : node.members? = some members)
    (h : (interfaceOf scope node kind name).outcome = .ok interface) :
    interface.NamesMembers members := by
  simp only [interfaceOf, Traced.bind_outcome_eq_ok, Traced.present_outcome_eq_ok,
    Traced.pure_outcome_eq_ok] at h
  obtain ⟨parents, -, chosen, -, held, hheld, contributions, hcontributions, -, -, rfl⟩ := h
  obtain rfl : members = held := Option.some.inj (hmembers.symm.trans hheld)
  exact namesMembers_of_contributions hcontributions _ _ _

/-- The name of a record with type parameters is that of its declaration. -/
lemma eq_recordName {node : Node} {name : String}
    (h : (genericName node).outcome = .ok name) : name = recordName node.writtenName node := by
  obtain ⟨declared, parameters, hdeclared, -, -, rfl⟩ := exists_declared_of_genericName h
  rw [Node.eq_writtenName hdeclared]

/-- The record of an alias has its name and the names of the members of the aliased type. -/
lemma namedAfter_of_aliasOf {line : Line} {name type : Node} {typeParameters : List Node}
    {interface : Interface}
    (h : (aliasOf scope (.aliasDecl line name typeParameters type)).outcome = .ok interface) :
    List.Forall₂ Interface.NamedAfter
      (interfaceDeclarations (.aliasDecl line name typeParameters type)) [interface] := by
  unfold aliasOf at h
  obtain ⟨bound, hbound, h⟩ := Traced.bind_outcome_eq_ok.mp h
  obtain ⟨aliased, haliased, h⟩ := Traced.bind_outcome_eq_ok.mp h
  obtain rfl : type = aliased := Option.some.inj (Traced.present_outcome_eq_ok.mp haliased)
  have hname := eq_recordName hbound
  cases type with
  | objectType typeLine members =>
    simp only [Traced.bind_outcome_eq_ok, Traced.pure_outcome_eq_ok] at h
    obtain ⟨contributions, hcontributions, _, rfl, -, -, rfl⟩ := h
    exact .cons ⟨hname, namesMembers_of_contributions hcontributions _ _ _⟩ .nil
  | _ =>
    simp only [Traced.bind_outcome_eq_ok, Traced.pure_outcome_eq_ok] at h
    obtain ⟨parent, -, _, rfl, -, -, rfl⟩ := h
    exact .cons ⟨hname, ⟨.nil, .nil⟩⟩ .nil

/-- The record of a variable has its name, and the record of its object type has that name with an
ending. -/
lemma namedAfter_of_variableOf {node : Node} {record : Variable × Option Interface}
    (hnode : node.isVariableDecl = true) (h : (variableOf scope node).outcome = .ok record) :
    record.1.name = node.writtenName ∧
      Option.Rel Interface.NamedAfter ((inlineShape? node).map (node, ·)) record.2 := by
  unfold variableOf at h
  obtain ⟨name, hname, h⟩ := Traced.bind_outcome_eq_ok.mp h
  obtain ⟨written, hwritten, h⟩ := Traced.bind_outcome_eq_ok.mp h
  rw [inlineShape?, Traced.present_outcome_eq_ok.mp hwritten]
  have hdeclared := Node.eq_writtenName hname
  cases written with
  | objectType line members =>
    obtain ⟨interface, hinterface, rfl⟩ := Traced.bind_pure_outcome_eq_ok.mp h
    refine ⟨hdeclared, .some ⟨?_, namesMembers_of_interfaceOf rfl hinterface⟩⟩
    rw [interfaceName, if_pos hnode, ← hdeclared]
    simp only [interfaceOf, chosenName, if_neg (inlineName_ne_empty name),
      Traced.bind_outcome_eq_ok, Traced.pure_outcome_eq_ok] at hinterface
    obtain ⟨_, -, _, rfl, _, -, _, -, -, -, rfl⟩ := hinterface
    rfl
  | _ =>
    obtain ⟨type, -, rfl⟩ := Traced.bind_pure_outcome_eq_ok.mp h
    exact ⟨hdeclared, .none⟩

/-! ### Statements -/

/-- What is built for a well-typed statement that holds no others has the names of what it
declares. -/
lemma namedAfter_of_simpleStatementOf {owner : String} {node : Node} {module : Module}
    (hnode : node.WellTyped) (h : (simpleStatementOf scope owner node).outcome = .ok module) :
    module.NamedAfterSimple node := by
  cases node with
  | classDecl =>
    obtain ⟨interface, hinterface, rfl⟩ := Traced.bind_pure_outcome_eq_ok.mp h
    have hname := eq_recordName (genericName_of_interfaceOf hinterface)
    exact ⟨rfl, .nil, .cons ⟨hname, namesMembers_of_interfaceOf rfl hinterface⟩ .nil, .nil⟩
  | interfaceDecl =>
    obtain ⟨interface, hinterface, rfl⟩ := Traced.bind_pure_outcome_eq_ok.mp h
    have hname := eq_recordName (genericName_of_interfaceOf hinterface)
    exact ⟨rfl, .nil, .cons ⟨hname, namesMembers_of_interfaceOf rfl hinterface⟩ .nil, .nil⟩
  | aliasDecl =>
    obtain ⟨interface, hinterface, rfl⟩ := Traced.bind_pure_outcome_eq_ok.mp h
    exact ⟨rfl, .nil, namedAfter_of_aliasOf hinterface, .nil⟩
  | variableStatement line declarations =>
    simp only [simpleStatementOf, variablesOf, Traced.bind_outcome_eq_ok,
      Traced.present_outcome_eq_ok, Traced.pure_outcome_eq_ok] at h
    obtain ⟨_, ⟨held, hheld, records, hrecords, rfl⟩, rfl⟩ := h
    obtain rfl : declarations = held := Option.some.inj hheld
    have hfamily : ∀ declaration ∈ declarations, declaration.isVariableDecl = true :=
      fun declaration hmem => (hnode.declarations? rfl declaration hmem).family
    have hnamed := ((List.forall₂_and_left _ _).mpr
      ⟨hfamily, Traced.all_map_outcome_eq_ok.mp hrecords⟩).imp
        fun declaration record hpair => namedAfter_of_variableOf hpair.1 hpair.2
    refine ⟨rfl, ?_, ?_, .nil⟩
    · rw [List.forall₂_map_right_iff]
      exact hnamed.imp fun _ _ hrecord => hrecord.1
    · exact List.rel_filterMap (fun _ _ hrecord => hrecord.2) hnamed
  | signature kind =>
    cases kind with
    | functionDeclaration =>
      obtain ⟨method, hmethod, rfl⟩ := Traced.bind_pure_outcome_eq_ok.mp h
      have hname := Node.eq_writtenName (stemsFrom_of_methodOf hmethod).name
      exact ⟨rfl, .nil, .nil, .cons hname .nil⟩
    | _ =>
      obtain ⟨-, -, rfl⟩ := Traced.bind_pure_outcome_eq_ok.mp h
      exact ⟨rfl, .nil, .nil, .nil⟩
  | enumDecl =>
    simp only [simpleStatementOf, Traced.bind_outcome_eq_ok, Traced.pure_outcome_eq_ok] at h
    obtain ⟨-, -, -, -, rfl⟩ := h
    exact ⟨rfl, .nil, .nil, .nil⟩
  | _ =>
    obtain ⟨-, -, rfl⟩ := Traced.bind_pure_outcome_eq_ok.mp h
    exact ⟨rfl, .nil, .nil, .nil⟩

/-- The records of a module that stems from well-typed statements have the names of what these
declare. -/
lemma Module.StemsFrom.namedAfter {owner : String} {statements : List Node} {module : Module}
    (h : module.StemsFrom scope owner statements)
    (hstatements : ∀ node ∈ statements, node.WellTyped) : module.NamedAfter statements := by
  induction h with
  | nil => exact .nil
  | simple hbody hfirst _ ih =>
    obtain ⟨hnode, hnodes⟩ := List.forall_mem_cons.mp hstatements
    exact .simple hbody (namedAfter_of_simpleStatementOf hnode hfirst) (ih hnodes)
  | namespaceDecl hrequired hbuilt _ ihbuilt ihrest =>
    obtain ⟨hnode, hnodes⟩ := List.forall_mem_cons.mp hstatements
    have hbody := wellTyped_bodyStatements (hnode.body? rfl)
    refine .namespaceDecl ?_ (ihbuilt hbody) (ihrest hnodes)
    rw [hbuilt.name_eq]
    exact Node.eq_writtenName hrequired

/-! ### Files -/

/-- The declarations without a name are those that are reported and the methods whose names stand in
brackets. -/
lemma length_reported (declarations : List Node) :
    (declarations.filter Node.isReported).length +
        (declarations.filter fun node => node.isNameless && node.isKeyedMethod).length =
      (declarations.filter Node.isNameless).length := by
  induction declarations with
  | nil => rfl
  | cons node nodes ih =>
    by_cases hnameless : node.isNameless = true <;> by_cases hkeyed : node.isKeyedMethod = true <;>
      simp only [List.filter_cons, Node.isReported, hnameless, hkeyed] <;> simp <;> omega

/-- **Missing names.**  Building the record of a well-typed file gives one warning for each visited
declaration without a name, in the order of the declarations, but for the methods whose names
stand in brackets.  Every record of the file is called by the written name of its declaration,
which is empty exactly where the name is missing, together with the parts of the name that are
always there. -/
theorem missingNames_reported {line : Line} {path : String} {statements : List Node}
    (h : (Node.sourceFile line path statements).WellTyped) (name : Option String) :
    ∃ module, (fileOf (.sourceFile line path statements) name).outcome = .ok module ∧
      (fileOf (.sourceFile line path statements) name).shown .warning =
        ((visited statements).filter Node.isReported).map Node.unnamedNotice ∧
      ((fileOf (.sourceFile line path statements) name).shown .warning).length +
          ((visited statements).filter fun node => node.isNameless && node.isKeyedMethod).length =
        ((visited statements).filter Node.isNameless).length ∧
      module.NamedAfter statements ∧
      ∀ node : Node, node.isNameless = true → node.writtenName = "" := by
  have hstatements : ∀ node ∈ statements, node.WellTyped := fun node hmem => h.child hmem
  obtain ⟨module, hmodule⟩ := Traced.succeeds_iff.mp (fileOf_succeeds h name)
  have hshown := reports_fileOf hstatements name module hmodule
  obtain ⟨root, hstems⟩ := stemsFrom_of_fileOf hmodule
  refine ⟨module, hmodule, hshown, ?_, hstems.namedAfter hstatements, ?_⟩
  · rw [hshown, List.length_map]
    exact length_reported _
  · intro node hnameless
    exact node.writtenName_of_isNameless hnameless

/-- The sample of statements that nobody writes has seven visited declarations, none of them with a
name; all but the method with a key are reported. -/
theorem missingNames_nakedSample :
    (Node.sourceFile none "" nakedSample).WellTyped ∧
    (visited nakedSample).filter Node.isNameless = visited nakedSample ∧
    ∃ module, (fileOf (.sourceFile none "" nakedSample) none).outcome = .ok module ∧
      (fileOf (.sourceFile none "" nakedSample) none).shown .warning =
        ["ClassDeclaration", "VariableDeclaration", "PropertySignature", "ModuleDeclaration",
          "ModuleDeclaration", "TypeAliasDeclaration"].map (.unnamed · none) ∧
      module.NamedAfter nakedSample := by
  have hsample : (Node.sourceFile none "" nakedSample).WellTyped := by decide
  obtain ⟨module, hmodule, hshown, -, hnamed, -⟩ := missingNames_reported hsample none
  exact ⟨hsample, rfl, module, hmodule, hshown, hnamed⟩

/-- The statements of a file with an interface of one member. -/
def singleMember (member : Node) : List Node :=
  [.interfaceDecl (some 1) (.identifier (some 1) "I") [] [] [member]]

/-- The method of `interface I { [1 + 2](): void; }`, whose key has no name. -/
def sumKeyMethod : Node :=
  .signature .methodSignature (some 1) (.computedName (some 1) .absent)
    (.keywordType (some 1) "void") false [] [] []

/-- The property of `interface I { [1 + 2]: void; }`, whose key has no name. -/
def sumKeyProperty : Node :=
  .field .propertySignature (some 1) (.computedName (some 1) .absent)
    (.keywordType (some 1) "void") false []

/-- A property with a key that has no name is reported, and a method with the same key, which has as
little of a name, is not. -/
theorem missingNames_sumKey :
    (Node.sourceFile (some 1) "lib.d.ts" (singleMember sumKeyProperty)).WellTyped ∧
    (visited (singleMember sumKeyProperty)).filter Node.isNameless = [sumKeyProperty] ∧
    (fileOf (.sourceFile (some 1) "lib.d.ts" (singleMember sumKeyProperty)) none).shown .warning =
      [.unnamed "PropertySignature" (some 1)] ∧
    (Node.sourceFile (some 1) "lib.d.ts" (singleMember sumKeyMethod)).WellTyped ∧
    (visited (singleMember sumKeyMethod)).filter Node.isNameless = [sumKeyMethod] ∧
    (fileOf (.sourceFile (some 1) "lib.d.ts" (singleMember sumKeyMethod)) none).shown .warning =
      [] := by
  have hproperty : (Node.sourceFile (some 1) "lib.d.ts"
      (singleMember sumKeyProperty)).WellTyped := by decide
  have hmethod : (Node.sourceFile (some 1) "lib.d.ts"
      (singleMember sumKeyMethod)).WellTyped := by decide
  exact ⟨hproperty, rfl, rfl, hmethod, rfl, rfl⟩

end Model

end ReasonBindings
