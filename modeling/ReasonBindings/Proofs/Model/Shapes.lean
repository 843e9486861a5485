import Mathlib.Data.List.Forall2
import ReasonBindings.Proofs.Model.Built

/-!
# Interfaces and their shapes

Four kinds of declarations have a record of the kind of an interface: a class, an
interface, a type alias, and a variable whose type is an object type written in
place.  What they have in common is the *shape* of the record, that is the
declaration that is entered, its members, and whether it is a class.  Every interface
that is built stems from the shape of its declaration, so what is said of all of them
is proved once, for shapes.
-/

namespace ReasonBindings

open Syntax

/-- The statement declares a function. -/
def Syntax.Node.declaresFunction : Node → Bool
  | .signature .functionDeclaration .. => true
  | _ => false

/-- The variables that a statement declares. -/
def Syntax.Node.declaredVariables (node : Node) : List Node :=
  node.declarations?.getD []

namespace Model

/-- Members that make up an interface, and the declaration that they stand in. -/
structure Shape where
  kind : InterfaceKind
  declaration : Node
  members : List Node

/-- The object type of a variable that has one written in place. -/
def inlineShape? (declaration : Node) : Option Shape :=
  match declaration.type? with
  | some type@(.objectType _ members) => some ⟨.interfaceLike, type, members⟩
  | _ => none

/-- The interfaces that a statement declares. -/
def shapes : Node → List Shape
  | node@(.classDecl _ _ _ _ members _) => [⟨.classLike, node, members⟩]
  | node@(.interfaceDecl _ _ _ _ members) => [⟨.interfaceLike, node, members⟩]
  | node@(.aliasDecl _ _ _ (.objectType _ members)) => [⟨.interfaceLike, node, members⟩]
  | node@(.aliasDecl ..) => [⟨.interfaceLike, node, []⟩]
  | .variableStatement _ declarations => declarations.filterMap inlineShape?
  | _ => []

/-! ### Built interfaces -/

/-- An interface is the record of a shape: it has what the members contribute, and its maker unless
it is a class. -/
def Interface.StemsFrom (scope : Scope) (shape : Shape) (interface : Interface) : Prop :=
  ∃ name parents contributions,
    List.Forall₂ (Contribution.StemsFrom (scope.enter shape.declaration) name) shape.members
      contributions ∧
    interface = interfaceWith name shape.kind parents contributions

variable {scope : Scope}

/-- The record of a class, an interface or an object type stems from its members. -/
lemma stemsFrom_of_interfaceOf {node : Node} {kind : InterfaceKind} {name : Option String}
    {interface : Interface} {members : List Node} (hmembers : node.members? = some members)
    (h : (interfaceOf scope node kind name).outcome = .ok interface) :
    interface.StemsFrom scope ⟨kind, node, members⟩ := by
  simp only [interfaceOf, Traced.bind_outcome_eq_ok, Traced.present_outcome_eq_ok,
    Traced.pure_outcome_eq_ok] at h
  obtain ⟨parents, -, chosen, -, held, hheld, contributions, hcontributions, -, -, rfl⟩ := h
  obtain rfl : members = held := Option.some.inj (hmembers.symm.trans hheld)
  exact ⟨chosen, _, contributions, stemsFrom_of_contributions hcontributions, rfl⟩

/-- The record of an alias stems from the members of the aliased type. -/
lemma stemsFrom_of_aliasOf {line : Line} {name type : Node} {typeParameters : List Node}
    {interface : Interface}
    (h : (aliasOf scope (.aliasDecl line name typeParameters type)).outcome = .ok interface) :
    List.Forall₂ (Interface.StemsFrom scope) (shapes (.aliasDecl line name typeParameters type))
      [interface] := by
  unfold aliasOf at h
  obtain ⟨bound, -, h⟩ := Traced.bind_outcome_eq_ok.mp h
  obtain ⟨aliased, haliased, h⟩ := Traced.bind_outcome_eq_ok.mp h
  obtain rfl : type = aliased := Option.some.inj (Traced.present_outcome_eq_ok.mp haliased)
  cases type with
  | objectType typeLine members =>
    simp only [Traced.bind_outcome_eq_ok, Traced.pure_outcome_eq_ok] at h
    obtain ⟨contributions, hcontributions, _, rfl, -, -, rfl⟩ := h
    have hstems := stemsFrom_of_contributions hcontributions
    exact .cons ⟨bound, [], contributions, hstems, rfl⟩ .nil
  | _ =>
    simp only [Traced.bind_outcome_eq_ok, Traced.pure_outcome_eq_ok] at h
    obtain ⟨parent, -, _, rfl, -, -, rfl⟩ := h
    exact .cons ⟨bound, [parent], [], .nil, rfl⟩ .nil

/-- The record of the object type of a variable stems from its members. -/
lemma stemsFrom_of_variableOf {node : Node} {record : Variable × Option Interface}
    (h : (variableOf scope node).outcome = .ok record) :
    Option.Rel (Interface.StemsFrom scope) (inlineShape? node) record.2 := by
  unfold variableOf at h
  obtain ⟨name, -, h⟩ := Traced.bind_outcome_eq_ok.mp h
  obtain ⟨written, hwritten, h⟩ := Traced.bind_outcome_eq_ok.mp h
  rw [inlineShape?, Traced.present_outcome_eq_ok.mp hwritten]
  cases written with
  | objectType line members =>
    obtain ⟨interface, hinterface, rfl⟩ := Traced.bind_pure_outcome_eq_ok.mp h
    exact .some (stemsFrom_of_interfaceOf rfl hinterface)
  | _ =>
    obtain ⟨type, -, rfl⟩ := Traced.bind_pure_outcome_eq_ok.mp h
    exact .none

/-! ### Statements without a body -/

/-- The interfaces that a statement declares, each with the node that its record is built for: the
statement itself, or one of its variables. -/
def interfaceDeclarations : Node → List (Node × Shape)
  | .variableStatement _ declarations =>
    declarations.filterMap fun declaration => (inlineShape? declaration).map (declaration, ·)
  | node => (shapes node).map (node, ·)

/-- The record is the one that is built for a class, for an interface, for a type alias, or for the
object type of a variable. -/
inductive Interface.BuiltFor (scope : Scope) : Node → Interface → Prop
  | classDecl {line : Line} {name : Node} {typeParameters heritage members : List Node}
    {modifiers : List String} {interface : Interface} :
    (interfaceOf scope (.classDecl line name typeParameters heritage members modifiers) .classLike
      none).outcome = .ok interface →
    BuiltFor scope (.classDecl line name typeParameters heritage members modifiers) interface
  | interfaceDecl {line : Line} {name : Node} {typeParameters heritage members : List Node}
    {interface : Interface} :
    (interfaceOf scope (.interfaceDecl line name typeParameters heritage members) .interfaceLike
      none).outcome = .ok interface →
    BuiltFor scope (.interfaceDecl line name typeParameters heritage members) interface
  | aliasDecl {line : Line} {name type : Node} {typeParameters : List Node}
    {interface : Interface} :
    (aliasOf scope (.aliasDecl line name typeParameters type)).outcome = .ok interface →
    BuiltFor scope (.aliasDecl line name typeParameters type) interface
  | objectType {declaration : Node} {value : Variable} {interface : Interface} :
    (variableOf scope declaration).outcome = .ok (value, some interface) →
    BuiltFor scope declaration interface

/-- The record is the one that is built for the declaration, and it has what the members of the
shape contribute, in their order. -/
def Interface.RecordOf (scope : Scope) (declared : Node × Shape) (interface : Interface) : Prop :=
  interface.BuiltFor scope declared.1 ∧ interface.StemsFrom scope declared.2

/-- The value is the record of a declared variable. -/
def Variable.RecordOf (scope : Scope) (declaration : Node) (value : Variable) : Prop :=
  ∃ inline?, (variableOf scope declaration).outcome = .ok (value, inline?)

/-- The method is the record of a function in the module named `owner`. -/
def Method.RecordOf (scope : Scope) (owner : String) (declaration : Node) (method : Method) :
    Prop :=
  (methodOf scope declaration none true false owner).outcome = .ok method

/-- The records of what a statement that holds no others declares: its variables, its function if it
is one, and its interfaces. -/
structure Module.RecordsOf (scope : Scope) (owner : String) (node : Node) (module : Module) :
    Prop where
  modules : module.modules = []
  globals : List.Forall₂ (Variable.RecordOf scope) node.declaredVariables module.globals
  interfaces : List.Forall₂ (Interface.RecordOf scope) (interfaceDeclarations node)
    module.interfaces
  methods : List.Forall₂ (Method.RecordOf scope owner) ([node].filter Node.declaresFunction)
    module.methods

/-- The shapes of a statement are those of the interfaces that it declares. -/
lemma map_snd_interfaceDeclarations (node : Node) :
    (interfaceDeclarations node).map (·.2) = shapes node := by
  cases node with
  | variableStatement line declarations =>
    rw [interfaceDeclarations, List.map_filterMap, shapes]
    refine List.filterMap_congr fun declaration _ => ?_
    cases inlineShape? declaration <;> rfl
  | _ =>
    rw [interfaceDeclarations, List.map_map]
    · exact List.map_id _
    · exact fun _ _ hnode => nomatch hnode

/-- The record of the object type of a variable is that of its declaration. -/
lemma recordOf_of_variableOf {declaration : Node} {record : Variable × Option Interface}
    (h : (variableOf scope declaration).outcome = .ok record) :
    Option.Rel (Interface.RecordOf scope) ((inlineShape? declaration).map (declaration, ·))
      record.2 := by
  obtain ⟨value, inline?⟩ := record
  have hstems : Option.Rel (Interface.StemsFrom scope) (inlineShape? declaration) inline? :=
    stemsFrom_of_variableOf h
  generalize inlineShape? declaration = shape? at hstems ⊢
  cases hstems with
  | none => exact .none
  | some hinterface => exact .some ⟨.objectType h, hinterface⟩

/-- What is built for a statement that holds no others are the records of what it declares. -/
lemma recordsOf_of_simpleStatementOf {owner : String} {node : Node} {module : Module}
    (h : (simpleStatementOf scope owner node).outcome = .ok module) :
    module.RecordsOf scope owner node := by
  cases node with
  | classDecl =>
    obtain ⟨interface, hinterface, rfl⟩ := Traced.bind_pure_outcome_eq_ok.mp h
    have hrecord := And.intro (Interface.BuiltFor.classDecl hinterface)
      (stemsFrom_of_interfaceOf rfl hinterface)
    exact ⟨rfl, .nil, .cons hrecord .nil, .nil⟩
  | interfaceDecl =>
    obtain ⟨interface, hinterface, rfl⟩ := Traced.bind_pure_outcome_eq_ok.mp h
    have hrecord := And.intro (Interface.BuiltFor.interfaceDecl hinterface)
      (stemsFrom_of_interfaceOf rfl hinterface)
    exact ⟨rfl, .nil, .cons hrecord .nil, .nil⟩
  | aliasDecl line name typeParameters type =>
    obtain ⟨interface, hinterface, rfl⟩ := Traced.bind_pure_outcome_eq_ok.mp h
    have hstems := stemsFrom_of_aliasOf hinterface
    refine ⟨rfl, .nil, List.forall₂_map_left_iff.mpr ?_, .nil⟩
    generalize shapes (.aliasDecl line name typeParameters type) = declared at hstems ⊢
    cases hstems with
    | cons hshape hnone =>
      cases hnone
      exact .cons ⟨.aliasDecl hinterface, hshape⟩ .nil
  | variableStatement line declarations =>
    simp only [simpleStatementOf, variablesOf, Traced.bind_outcome_eq_ok,
      Traced.present_outcome_eq_ok, Traced.pure_outcome_eq_ok] at h
    obtain ⟨_, ⟨held, hheld, records, hrecords, rfl⟩, rfl⟩ := h
    obtain rfl : declarations = held := Option.some.inj hheld
    have hbuilt := Traced.all_map_outcome_eq_ok.mp hrecords
    have hinline : List.Forall₂ (Interface.RecordOf scope)
        (interfaceDeclarations (.variableStatement line declarations))
        (records.filterMap (·.2)) := by
      refine List.rel_filterMap ?_ hbuilt
      intro declaration record hrecord
      exact recordOf_of_variableOf hrecord
    refine ⟨rfl, ?_, hinline, .nil⟩
    rw [List.forall₂_map_right_iff]
    exact hbuilt.imp fun _ record hrecord => ⟨record.2, hrecord⟩
  | signature kind =>
    cases kind with
    | functionDeclaration =>
      obtain ⟨method, hmethod, rfl⟩ := Traced.bind_pure_outcome_eq_ok.mp h
      exact ⟨rfl, .nil, .nil, .cons hmethod .nil⟩
    | _ =>
      obtain ⟨-, -, rfl⟩ := Traced.bind_pure_outcome_eq_ok.mp h
      exact ⟨rfl, .nil, .nil, .nil⟩
  | enumDecl =>
    simp only [simpleStatementOf, Traced.bind_outcome_eq_ok, Traced.pure_outcome_eq_ok] at h
    obtain ⟨-, -, -, -, rfl⟩ := h
    exact ⟨rfl, .nil, .nil, .nil⟩
  | _ =>
    obtain ⟨-, -, rfl⟩ := Traced.bind_pure_outcome_eq_ok.mp h
    exact ⟨rfl, .nil, .nil, .nil⟩

/-- What a statement that holds no others adds to the module named `owner`: its interfaces, its
function if it declares one, and no nested modules. -/
structure Module.StemsFromSimple (scope : Scope) (owner : String) (node : Node) (module : Module) :
    Prop where
  modules : module.modules = []
  interfaces : List.Forall₂ (Interface.StemsFrom scope) (shapes node) module.interfaces
  methods : List.Forall₂ (fun declaration method =>
    Method.StemsFrom scope declaration none false owner method)
    ([node].filter Node.declaresFunction) module.methods

/-- What is built for a statement that holds no others stems from it. -/
lemma stemsFrom_of_simpleStatementOf {owner : String} {node : Node}
    {module : Module} (h : (simpleStatementOf scope owner node).outcome = .ok module) :
    module.StemsFromSimple scope owner node := by
  have hrecords := recordsOf_of_simpleStatementOf h
  refine ⟨hrecords.modules, ?_, hrecords.methods.imp fun _ _ => stemsFrom_of_methodOf⟩
  rw [← map_snd_interfaceDeclarations, List.forall₂_map_left_iff]
  exact hrecords.interfaces.imp fun _ _ hrecord => hrecord.2

end Model

end ReasonBindings
