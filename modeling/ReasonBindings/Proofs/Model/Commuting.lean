import ReasonBindings.Proofs.Model.Merging
import ReasonBindings.Proofs.Model.Swaps
import ReasonBindings.Proofs.Model.Total

/-!
# Independent declarations commute

When two independent neighbours are swapped, at any depth of a declaration file, the
file has the same bindings as before.  A swap of two members leaves the properties and
the methods of an interface in their orders, and with them its maker, which comes after
all members have been read.  A swap of two statements leaves each list of records of
their module in its order.  From there the records are carried through everything that
stands around the swap.

Notices come in the order of the declarations, so it is the values of computations that
are compared, and `Traced.KeptBy` says that the value before the swap is the value after
it.
-/

namespace ReasonBindings

open Syntax

namespace Model

/-! ### Members -/

/-- Whatever the members contribute, the others contribute the same properties and the same
methods. -/
def SameContributions (members members' : List Node) : Prop :=
  ∀ scope owner contributions,
    (Traced.all (members.map (contributionOf scope owner))).outcome = .ok contributions →
    ∃ contributions',
      (Traced.all (members'.map (contributionOf scope owner))).outcome = .ok contributions' ∧
      contributions'.filterMap Contribution.property? =
        contributions.filterMap Contribution.property? ∧
      contributions'.filterMap Contribution.method? = contributions.filterMap Contribution.method?

/-- Members contribute what they contribute. -/
lemma SameContributions.refl (members : List Node) : SameContributions members members :=
  fun _ _ contributions h => ⟨contributions, h, rfl, rfl⟩

/-- A member that makes no property contributes none. -/
lemma Contribution.StemsFrom.property?_eq_none {scope : Scope} {owner : String} {member : Node}
    {contribution : Contribution} (h : contribution.StemsFrom scope owner member)
    (hmember : member.declaresProperty = false) : contribution.property? = none := by
  cases h with
  | property hproperty =>
    rw [hmember] at hproperty
    cases hproperty
  | method | nothing => rfl

/-- A member that makes no method contributes none. -/
lemma Contribution.StemsFrom.method?_eq_none {scope : Scope} {owner : String} {member : Node}
    {contribution : Contribution} (h : contribution.StemsFrom scope owner member)
    (hmember : member.declaresMethod = false) : contribution.method? = none := by
  cases h with
  | method hmethod =>
    rw [hmember] at hmethod
    cases hmethod
  | property | nothing => rfl

/-- Independent members can be swapped at the beginning of a list of members. -/
lemma IndependentMembers.sameContributions {first second : Node}
    (h : IndependentMembers first second) (after : List Node) :
    SameContributions (first :: second :: after) (second :: first :: after) := by
  intro scope owner contributions hcontributions
  rw [Traced.all_map_outcome_eq_ok] at hcontributions
  obtain ⟨own, others, hown, hothers, rfl⟩ := List.forall₂_cons_left_iff.mp hcontributions
  obtain ⟨next, rest, hnext, hrest, rfl⟩ := List.forall₂_cons_left_iff.mp hothers
  have hfirst := stemsFrom_of_contributionOf hown
  have hsecond := stemsFrom_of_contributionOf hnext
  have hproperty : next.property? = none ∨ own.property? = none :=
    h.property.symm.imp hsecond.property?_eq_none hfirst.property?_eq_none
  have hmethod : next.method? = none ∨ own.method? = none :=
    h.method.symm.imp hsecond.method?_eq_none hfirst.method?_eq_none
  refine ⟨next :: own :: rest, ?_, filterMap_swap hproperty rest, filterMap_swap hmethod rest⟩
  exact Traced.all_map_outcome_eq_ok.mpr (.cons hnext (.cons hown hrest))

/-- Members that are put before both lists contribute the same to both. -/
lemma SameContributions.cons {members members' : List Node} (h : SameContributions members members')
    (member : Node) : SameContributions (member :: members) (member :: members') := by
  intro scope owner contributions hcontributions
  rw [Traced.all_map_outcome_eq_ok] at hcontributions
  obtain ⟨own, others, hown, hothers, rfl⟩ := List.forall₂_cons_left_iff.mp hcontributions
  obtain ⟨others', hothers', hproperty, hmethod⟩ :=
    h scope owner others (Traced.all_map_outcome_eq_ok.mpr hothers)
  refine ⟨own :: others', ?_, ?_, ?_⟩
  · exact Traced.all_map_outcome_eq_ok.mpr (.cons hown (Traced.all_map_outcome_eq_ok.mp hothers'))
  · rw [List.filterMap_cons, List.filterMap_cons, hproperty]
  · rw [List.filterMap_cons, List.filterMap_cons, hmethod]

/-- Independent members can be swapped anywhere in a list of members. -/
lemma IndependentMembers.sameContributions_between {first second : Node}
    (h : IndependentMembers first second) (before after : List Node) :
    SameContributions (before ++ first :: second :: after)
      (before ++ second :: first :: after) := by
  induction before with
  | nil => exact h.sameContributions after
  | cons member members ih => exact ih.cons member

/-- A swap inside a declaration keeps what its members contribute. -/
lemma Swapped.members? {node node' : Node} (h : Swapped node node') :
    Option.Rel SameContributions node.members? node'.members? := by
  have same : ∀ members? : Option (List Node), Option.Rel SameContributions members? members? :=
    optionRel_refl .refl
  cases h with
  | statements hslot | inPlace hslot => cases hslot <;> exact same _
  | members hslot hindependent =>
    cases hslot <;> exact .some (hindependent.sameContributions_between _ _)
  | @inList content slot before after member member' hslot hswapped =>
    have hmembers : SameContributions (before ++ member :: after) (before ++ member' :: after) := by
      intro scope owner contributions hcontributions
      rw [List.map_append, List.map_cons, hswapped.contributionOf_eq scope owner,
        ← List.map_cons, ← List.map_append] at hcontributions
      exact ⟨contributions, hcontributions, rfl, rfl⟩
    cases hslot with
    | objectType | interfaceMembers | classMembers => exact .some hmembers
    | _ => exact same _

/-! ### Interfaces -/

/-- A swap inside a heritage clause does not change the texts of its types. -/
lemma Swapped.clauseTexts_eq {node node' : Node} (h : Swapped node node') (scope : Scope) :
    clauseTexts scope node = clauseTexts scope node' := by
  cases h with
  | statements hslot | members hslot | inPlace hslot => cases hslot <;> rfl
  | inList hslot hswapped =>
    cases hslot with
    | heritageClause | unionType =>
      simp only [clauseTexts, Node.types?, Traced.present_some, Traced.pure_bind, typeTexts_eq_all,
        List.map_append, List.map_cons, hswapped.sameText.type scope]
    | _ => rfl

/-- A swap inside a declaration does not change the texts of its heritage clauses. -/
lemma Swapped.heritage {node node' : Node} (h : Swapped node node') (scope : Scope) :
    node.heritage.map (clauseTexts scope) = node'.heritage.map (clauseTexts scope) := by
  cases h with
  | statements hslot | members hslot | inPlace hslot => cases hslot <;> rfl
  | inList hslot hswapped =>
    cases hslot with
    | interfaceHeritage | classHeritage =>
      simp only [Node.heritage, List.map_append, List.map_cons, hswapped.clauseTexts_eq scope]
    | _ => rfl

/-- Interfaces with the same properties and the same methods of members are the same, maker
included. -/
lemma interfaceWith_congr (name : String) (kind : InterfaceKind) (parents : List String)
    {contributions contributions' : List Contribution}
    (hproperty : contributions'.filterMap Contribution.property? =
      contributions.filterMap Contribution.property?)
    (hmethod : contributions'.filterMap Contribution.method? =
      contributions.filterMap Contribution.method?) :
    interfaceWith name kind parents contributions' =
      interfaceWith name kind parents contributions := by
  simp only [interfaceWith, hproperty, hmethod]

/-- A swap inside a class, an interface or an object type keeps its record. -/
lemma Swapped.interfaceOf_keptBy {node node' : Node} (h : Swapped node node') (scope : Scope)
    (kind : InterfaceKind) (name : Option String) :
    (interfaceOf scope node kind name).KeptBy (interfaceOf scope node' kind name) := by
  have hnames := h.sameHead.sameNames scope
  have hclauses : clauseTexts (scope.enter node) = clauseTexts (scope.enter node') :=
    funext (clauseTexts_congr hnames)
  have hcontributionOf : contributionOf (scope.enter node) = contributionOf (scope.enter node') :=
    funext fun owner => funext (contributionOf_congr hnames owner)
  simp only [interfaceOf, hclauses, hcontributionOf, h.heritage, h.sameHead.chosenName_eq name]
  refine .bind (.of_eq rfl) fun parents => .bind (.of_eq rfl) fun chosen => ?_
  refine .present h.members? fun members members' hsame interface hinterface => ?_
  simp only [Traced.bind_outcome_eq_ok, Traced.pure_outcome_eq_ok] at hinterface ⊢
  obtain ⟨contributions, hcontributions, _, -, rfl⟩ := hinterface
  obtain ⟨contributions', hcontributions', hproperty, hmethod⟩ :=
    hsame _ _ contributions hcontributions
  exact ⟨contributions', hcontributions', (), rfl, interfaceWith_congr _ _ _ hproperty hmethod⟩

/-- Two types are object types whose members contribute the same, or neither of them is an object
type. -/
inductive SameObjectType : Node → Node → Prop
  | objectType {line : Line} {members members' : List Node} : SameContributions members members' →
    SameObjectType (.objectType line members) (.objectType line members')
  | other {type type' : Node} : (∀ line members, type ≠ .objectType line members) →
    (∀ line members, type' ≠ .objectType line members) → SameObjectType type type'

/-- A swap inside an object type is one of its members or inside one of them. -/
lemma Swapped.sameObjectType {type type' : Node} (h : Swapped type type') :
    SameObjectType type type' := by
  have hmembers := h.members?
  cases h with
  | statements hslot | inPlace hslot => cases hslot <;> exact .other nofun nofun
  | members hslot | inList hslot =>
    cases hslot with
    | objectType =>
      cases hmembers with
      | some hsame => exact .objectType hsame
    | _ => exact .other nofun nofun

/-- A swap inside an alias keeps its record. -/
lemma Swapped.aliasOf_keptBy {node node' : Node} (h : Swapped node node') (scope : Scope) :
    (aliasOf scope node).KeptBy (aliasOf scope node') := by
  have hnames := h.sameHead.sameNames scope
  have hcontributionOf : contributionOf (scope.enter node) = contributionOf (scope.enter node') :=
    funext fun owner => funext (contributionOf_congr hnames owner)
  simp only [aliasOf, hcontributionOf, hnames.typeText_eq, h.sameHead.genericName_eq]
  refine .bind (.of_eq rfl) fun name => .present h.type? fun type type' htype => ?_
  cases htype with
  | refl => exact .of_eq rfl
  | single hswapped =>
    cases hswapped.sameObjectType with
    | objectType hsame =>
      intro interface hinterface
      simp only [Traced.bind_outcome_eq_ok, Traced.pure_outcome_eq_ok] at hinterface ⊢
      obtain ⟨contributions, hcontributions, _, rfl, _, -, rfl⟩ := hinterface
      obtain ⟨contributions', hcontributions', hproperty, hmethod⟩ :=
        hsame _ _ contributions hcontributions
      exact ⟨contributions', hcontributions', _, rfl, (), rfl,
        interfaceWith_congr _ _ _ hproperty hmethod⟩
    | other htype htype' =>
      split
      · exact absurd rfl (htype _ _)
      · rw [hswapped.sameText.type]
        exact .of_eq rfl

/-- A swap inside a variable keeps its record and that of its type. -/
lemma Swapped.variableOf_keptBy {node node' : Node} (h : Swapped node node') (scope : Scope) :
    (variableOf scope node).KeptBy (variableOf scope node') := by
  simp only [variableOf, h.sameHead.requiredName_eq]
  refine .bind (.of_eq rfl) fun name => .present h.type? fun type type' htype => ?_
  cases htype with
  | refl => exact .of_eq rfl
  | single hswapped =>
    have hinterface := hswapped.interfaceOf_keptBy scope .interfaceLike (some (inlineName name))
    cases hswapped.sameObjectType with
    | objectType => exact hinterface.bind fun interface => .of_eq rfl
    | other htype htype' =>
      split
      · exact absurd rfl (htype _ _)
      · rw [hswapped.sameText.type]
        exact .of_eq rfl

/-! ### Statements that hold no others -/

/-- A swap inside a statement with variables keeps their records. -/
lemma Swapped.variablesOf_keptBy {node node' : Node} (h : Swapped node node') (scope : Scope) :
    (variablesOf scope node).KeptBy (variablesOf scope node') := by
  cases h with
  | statements hslot | members hslot | inPlace hslot => cases hslot <;> exact .of_eq rfl
  | inList hslot hswapped =>
    cases hslot with
    | variableStatement =>
      simp only [variablesOf, Node.declarations?, Traced.present_some, Traced.pure_bind,
        List.map_append, List.map_cons]
      exact .bind (.all_hole (hswapped.variableOf_keptBy scope) _ _) fun records => .of_eq rfl
    | _ => exact .of_eq rfl

/-- A swap inside a statement that holds no others keeps what it adds to its module. -/
lemma Swapped.simpleStatementOf_keptBy {node node' : Node} (h : Swapped node node') (scope : Scope)
    (owner : String) :
    (simpleStatementOf scope owner node).KeptBy (simpleStatementOf scope owner node') := by
  have hinterface := h.interfaceOf_keptBy scope
  have halias := h.aliasOf_keptBy scope
  have hvariables := h.variablesOf_keptBy scope
  have hmethod := h.methodOf_eq scope none true false owner
  cases h with
  | statements hslot => cases hslot <;> exact .of_eq rfl
  | members hslot =>
    cases hslot with
    | objectType => exact .of_eq rfl
    | _ => exact (hinterface _ none).bind fun interface => .of_eq rfl
  | inList hslot =>
    cases hslot with
    | interfaceMembers | classMembers | interfaceHeritage | classHeritage =>
      exact (hinterface _ none).bind fun interface => .of_eq rfl
    | variableStatement => exact hvariables.bind fun records => .of_eq rfl
    | parameters kind =>
      cases kind with
      | functionDeclaration => exact .bind (.of_eq hmethod) fun method => .of_eq rfl
      | _ => exact .of_eq rfl
    | _ => exact .of_eq rfl
  | inPlace hslot =>
    cases hslot with
    | aliasDecl => exact halias.bind fun interface => .of_eq rfl
    | signature kind =>
      cases kind with
      | functionDeclaration => exact .bind (.of_eq hmethod) fun method => .of_eq rfl
      | _ => exact .of_eq rfl
    | _ => exact .of_eq rfl

/-! ### Statements -/

/-- The module has no records in the given list. -/
def Module.Lacks (module : Module) : RecordList → Prop
  | .modules => module.modules = []
  | .globals => module.globals = []
  | .interfaces => module.interfaces = []
  | .methods => module.methods = []

/-- Modules with one name of which for each list of records at most one has some can be merged in
either order. -/
lemma Module.merge_left_comm {first second : Module} (hname : first.name = second.name)
    (h : ∀ list, first.Lacks list ∨ second.Lacks list) (rest : Module) :
    first.merge (second.merge rest) = second.merge (first.merge rest) := by
  have swap : ∀ {α : Type} {own others : List α}, own = [] ∨ others = [] → ∀ last : List α,
      own ++ (others ++ last) = others ++ (own ++ last) := by
    intro α own others hempty last
    rcases hempty with rfl | rfl
    · rfl
    · rfl
  simp only [merge, hname, swap (h .modules), swap (h .globals), swap (h .interfaces),
    swap (h .methods)]

/-- A statement that does not feed the interfaces has no shapes: it is none of them itself, and none
of its variables has an object type written in place. -/
lemma shapes_eq_nil {node : Node} (h : .interfaces ∉ feeds node) : shapes node = [] := by
  cases node with
  | classDecl | interfaceDecl | aliasDecl => exact absurd List.mem_cons_self h
  | variableStatement line declarations =>
    rw [shapes, List.filterMap_eq_nil_iff]
    intro declaration hmem
    rw [← Option.not_isSome_iff_eq_none]
    intro hinline
    have hany : declarations.any fun declaration => (inlineShape? declaration).isSome :=
      List.any_eq_true.mpr ⟨declaration, hmem, hinline⟩
    rw [feeds, if_pos hany] at h
    exact h (by decide)
  | _ => rfl

/-- A statement that does not feed the globals declares no variables. -/
lemma declaredVariables_eq_nil {node : Node} (h : .globals ∉ feeds node) :
    node.declaredVariables = [] := by
  cases node with
  | variableStatement line declarations =>
    rw [feeds] at h
    split at h <;> exact absurd List.mem_cons_self h
  | _ => rfl

/-- A statement that does not feed the methods declares no function. -/
lemma declaresFunction_eq_false {node : Node} (h : .methods ∉ feeds node) :
    node.declaresFunction = false := by
  cases node with
  | signature kind =>
    cases kind with
    | functionDeclaration => exact absurd List.mem_cons_self h
    | _ => rfl
  | _ => rfl

/-- A statement adds records only to the lists that it feeds. -/
lemma lacks_of_statementOf {scope : Scope} {owner : String} {node : Node} {module : Module}
    (h : (statementOf scope owner node).outcome = .ok module) {list : RecordList}
    (hlist : list ∉ feeds node) : module.Lacks list := by
  cases hbody : node.body? with
  | none =>
    rw [statementOf_simple hbody] at h
    have hsimple := stemsFrom_of_simpleStatementOf h
    have hglobals := (recordsOf_of_simpleStatementOf h).globals
    cases list with
    | modules => exact hsimple.modules
    | globals =>
      rw [declaredVariables_eq_nil hlist] at hglobals
      exact List.forall₂_nil_left_iff.mp hglobals
    | interfaces =>
      have hinterfaces := hsimple.interfaces
      rw [shapes_eq_nil hlist] at hinterfaces
      exact List.forall₂_nil_left_iff.mp hinterfaces
    | methods =>
      have hmethods := hsimple.methods
      rw [List.filter_singleton, declaresFunction_eq_false hlist] at hmethods
      exact List.forall₂_nil_left_iff.mp hmethods
  | some body =>
    cases node with
    | namespaceDecl line name body =>
      rw [statementOf_namespaceDecl] at h
      simp only [Traced.bind_outcome_eq_ok, Traced.pure_outcome_eq_ok] at h
      obtain ⟨inner, -, -, -, built, -, rfl⟩ := h
      cases list with
      | modules => exact absurd List.mem_cons_self hlist
      | _ => rfl
    | _ => cases hbody

/-- What statements add is kept when this holds without the statements before them. -/
lemma statementsOf_keptBy_append {scope : Scope} {owner : String}
    {statements statements' : List Node}
    (h : (statementsOf scope owner statements).KeptBy (statementsOf scope owner statements'))
    (before : List Node) :
    (statementsOf scope owner (before ++ statements)).KeptBy
      (statementsOf scope owner (before ++ statements')) := by
  rw [statementsOf_append, statementsOf_append]
  exact .bind (.of_eq rfl) fun built => .map built.merge h

/-- **Independent statements commute.**  Swapping them keeps what a list of statements adds to its
module. -/
theorem IndependentStatements.statementsOf_keptBy {first second : Node}
    (h : IndependentStatements first second) (before after : List Node) (scope : Scope)
    (owner : String) :
    (statementsOf scope owner (before ++ first :: second :: after)).KeptBy
      (statementsOf scope owner (before ++ second :: first :: after)) := by
  refine statementsOf_keptBy_append (fun module hmodule => ?_) before
  simp only [statementsOf_cons, Traced.bind_outcome_eq_ok, Traced.map_outcome_eq_ok] at hmodule ⊢
  obtain ⟨own, hown, _, ⟨next, hnext, rest, hrest, rfl⟩, rfl⟩ := hmodule
  have hname : next.name = own.name := by
    rw [name_of_statementOf hnext, name_of_statementOf hown]
  have hlacks : ∀ list, next.Lacks list ∨ own.Lacks list := by
    intro list
    by_cases hsecond : list ∈ feeds second
    · have hfirst : list ∉ feeds first := fun hfirst => h list hfirst hsecond
      exact Or.inr (lacks_of_statementOf hown hfirst)
    · exact Or.inl (lacks_of_statementOf hnext hsecond)
  refine ⟨next, hnext, _, ⟨own, hown, rest, hrest, rfl⟩, ?_⟩
  exact Module.merge_left_comm hname hlacks rest

/-- What a node adds to its module, as a statement and as the body of a namespace, is what the other
one adds. -/
structure KeepsRecords (node node' : Node) : Prop where
  statement : ∀ scope owner,
    (statementOf scope owner node).KeptBy (statementOf scope owner node')
  body : ∀ scope owner,
    (namespaceBodyOf scope owner node).KeptBy (namespaceBodyOf scope owner node')

/-- A list of statements keeps what it adds when this holds of one of them. -/
lemma KeepsRecords.statementsOf_keptBy {node node' : Node} (h : KeepsRecords node node')
    (before after : List Node) (scope : Scope) (owner : String) :
    (statementsOf scope owner (before ++ node :: after)).KeptBy
      (statementsOf scope owner (before ++ node' :: after)) := by
  refine statementsOf_keptBy_append ?_ before
  rw [statementsOf_cons, statementsOf_cons]
  exact (h.statement scope owner).bind fun first => .of_eq rfl

/-- Statements in the place of others keep what a node adds when they keep what is added to every
module. -/
lemma keepsRecords_of_statements {slot : List Node → Node} (hslot : ListSlot .statements slot)
    {statements statements' : List Node}
    (h : ∀ scope owner,
      (statementsOf scope owner statements).KeptBy (statementsOf scope owner statements')) :
    KeepsRecords (slot statements) (slot statements') := by
  cases hslot with
  | block line => exact ⟨fun _ _ => .of_eq rfl, h⟩
  | sourceFile line path => exact ⟨fun _ _ => .of_eq rfl, fun _ _ => .of_eq rfl⟩

/-- A namespace keeps its record when its body keeps what it adds. -/
lemma KeepsRecords.namespaceDecl {body body' : Node} (h : KeepsRecords body body') (line : Line)
    (name : Node) :
    KeepsRecords (.namespaceDecl line name body) (.namespaceDecl line name body') := by
  have hhead : SameHead (.namespaceDecl line name body) (.namespaceDecl line name body') :=
    (NodeSlot.namespaceDecl line name).sameHead body body'
  have hstatement : ∀ scope owner, (statementOf scope owner (.namespaceDecl line name body)).KeptBy
      (statementOf scope owner (.namespaceDecl line name body')) := by
    intro scope owner
    rw [statementOf, statementOf, hhead.requiredName_eq]
    refine .bind (.of_eq rfl) fun inner => ?_
    rw [namespaceBodyOf_congr (hhead.sameNames scope)]
    exact (h.body _ inner).bind fun built => .of_eq rfl
  exact ⟨hstatement, hstatement⟩

/-- **Swaps inside statements.**  A swap inside a statement keeps what it adds to its module. -/
theorem Swapped.keepsRecords {node node' : Node} (h : Swapped node node') :
    KeepsRecords node node' := by
  have hsimple := h.simpleStatementOf_keptBy
  induction h with
  | statements hslot hindependent =>
    exact keepsRecords_of_statements hslot (hindependent.statementsOf_keptBy _ _)
  | members hslot =>
    cases hslot <;> exact ⟨hsimple, fun _ _ => .of_eq rfl⟩
  | inList hslot hswapped ih =>
    have hnode := ih hswapped.simpleStatementOf_keptBy
    cases hslot with
    | block line =>
      exact keepsRecords_of_statements (.block line) (hnode.statementsOf_keptBy _ _)
    | _ => exact ⟨hsimple, fun _ _ => .of_eq rfl⟩
  | inPlace hslot hswapped ih =>
    have hnode := ih hswapped.simpleStatementOf_keptBy
    cases hslot with
    | namespaceDecl line name => exact hnode.namespaceDecl line name
    | _ => exact ⟨hsimple, fun _ _ => .of_eq rfl⟩

/-! ### Files -/

/-- A swap inside a declaration file is a swap of its statements or inside one of them, and it keeps
the bindings. -/
lemma Swapped.bindingsOf_keptBy {file file' : Node} (h : Swapped file file') {line : Line}
    {path : String} {statements : List Node} (hfile : file = .sourceFile line path statements) :
    ∃ statements', file' = .sourceFile line path statements' ∧
      ∀ name, (bindingsOf file name).KeptBy (bindingsOf file' name) := by
  have file : ∀ {statements statements' : List Node}, (∀ scope owner,
      (statementsOf scope owner statements).KeptBy (statementsOf scope owner statements')) →
      ∃ others, Node.sourceFile line path statements' = .sourceFile line path others ∧
        ∀ name, (bindingsOf (.sourceFile line path statements) name).KeptBy
          (bindingsOf (.sourceFile line path statements') name) := by
    intro statements statements' hstatements
    refine ⟨statements', rfl, fun name => .bind (fun module hmodule => ?_) fun _ => .of_eq rfl⟩
    rw [fileOf_outcome_eq] at hmodule ⊢
    exact hstatements _ _ module hmodule
  cases h with
  | statements hslot hindependent =>
    cases hslot with
    | block => cases hfile
    | sourceFile =>
      cases hfile
      exact file (hindependent.statementsOf_keptBy _ _)
  | members hslot => cases hslot <;> cases hfile
  | inList hslot hswapped =>
    cases hslot with
    | sourceFile =>
      cases hfile
      exact file (hswapped.keepsRecords.statementsOf_keptBy _ _)
    | _ => cases hfile
  | inPlace hslot => cases hslot <;> cases hfile

/-- **Independent declarations commute.**  A well-typed declaration file has bindings, and every
tree that comes about from it by swaps of independent neighbours, at any depth, has the same
ones. -/
theorem bindingsOf_of_swaps {line : Line} {path : String} {statements : List Node} {file' : Node}
    (hfile : (Node.sourceFile line path statements).WellTyped)
    (hswaps : Relation.ReflTransGen Swapped (.sourceFile line path statements) file')
    (name : Option String) :
    ∃ text, (bindingsOf (.sourceFile line path statements) name).outcome = .ok text ∧
      (bindingsOf file' name).outcome = .ok text := by
  obtain ⟨module, -, hbindings⟩ := exists_bindingsOf hfile name
  suffices hkept : ∃ others, file' = .sourceFile line path others ∧
      (bindingsOf file' name).outcome = .ok module.text from
    ⟨module.text, hbindings, hkept.choose_spec.2⟩
  induction hswaps with
  | refl => exact ⟨statements, rfl, hbindings⟩
  | tail _ hswapped ih =>
    obtain ⟨others, hothers, htext⟩ := ih
    obtain ⟨swapped, hswapped', hkept⟩ := hswapped.bindingsOf_keptBy hothers
    exact ⟨swapped, hswapped', hkept name module.text htext⟩

/-- A namespace in braces with the given statements, and a function after it. -/
def orderedFile (statements : List Node) : Node :=
  .sourceFile none "library.d.ts"
    [.namespaceDecl none (.identifier none "A") (.block none statements),
      .signature .functionDeclaration none (.identifier none "f") .absent false [] [] []]

/-- The same function, and the namespace after it. -/
def reorderedFile (statements : List Node) : Node :=
  .sourceFile none "library.d.ts"
    [.signature .functionDeclaration none (.identifier none "f") .absent false [] [] [],
      .namespaceDecl none (.identifier none "A") (.block none statements)]

/-- A variable whose object type, written in place, has the given members. -/
def inlineVariable (members : List Node) : Node :=
  .variableStatement none [.variableDecl none (.identifier none "v") (.objectType none members)]

/-- A property. -/
def sampleProperty : Node :=
  .field .propertySignature none (.identifier none "p") (.keywordType none "number") true []

/-- A method. -/
def sampleMethod : Node :=
  .signature .methodSignature none (.identifier none "m") .absent false [] [] []

/-- In the sample the namespace and the function are swapped, and so are two members inside the type
of a variable inside the namespace. -/
theorem bindingsOf_reorderedFile :
    (orderedFile [inlineVariable [sampleProperty, sampleMethod]]).WellTyped ∧
    Relation.ReflTransGen Swapped (orderedFile [inlineVariable [sampleProperty, sampleMethod]])
      (reorderedFile [inlineVariable [sampleMethod, sampleProperty]]) ∧
    ∃ text,
      (bindingsOf (orderedFile [inlineVariable [sampleProperty, sampleMethod]]) none).outcome =
        .ok text ∧
      (bindingsOf (reorderedFile [inlineVariable [sampleMethod, sampleProperty]]) none).outcome =
        .ok text :=
  have hfile : (orderedFile [inlineVariable [sampleProperty, sampleMethod]]).WellTyped := by decide
  have htypes : Swapped (.objectType none [sampleProperty, sampleMethod])
      (.objectType none [sampleMethod, sampleProperty]) :=
    @Swapped.members _ [] [] sampleProperty sampleMethod (.objectType none)
      ⟨Or.inr rfl, Or.inl rfl⟩
  have hvariables : Swapped (inlineVariable [sampleProperty, sampleMethod])
      (inlineVariable [sampleMethod, sampleProperty]) :=
    @Swapped.inList _ _ [] [] _ _ (.variableStatement none)
      (.inPlace (.variableDecl none (.identifier none "v")) htypes)
  have hnamespaces := Swapped.inPlace (.namespaceDecl none (.identifier none "A"))
    (@Swapped.inList _ _ [] [] _ _ (.block none) hvariables)
  have hinside : Swapped (orderedFile [inlineVariable [sampleProperty, sampleMethod]])
      (orderedFile [inlineVariable [sampleMethod, sampleProperty]]) :=
    @Swapped.inList _ _ [] [_] _ _ (.sourceFile none "library.d.ts") hnamespaces
  have houtside : Swapped (orderedFile [inlineVariable [sampleMethod, sampleProperty]])
      (reorderedFile [inlineVariable [sampleMethod, sampleProperty]]) :=
    @Swapped.statements _ [] [] _ _ (.sourceFile none "library.d.ts") (by decide)
  have hswaps := (Relation.ReflTransGen.single hinside).tail houtside
  ⟨hfile, hswaps, bindingsOf_of_swaps hfile hswaps none⟩

end Model

end ReasonBindings
