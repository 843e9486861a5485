import ReasonBindings.Proofs.Model.Sentinel

/-!
# Constructors and makers of whole builds

The interfaces of a module and of its nested modules stand in the order of their
declarations, so each of them is paired with the shape that it stems from.  The
constructors of an interface are the records of the constructors among the members of
the shape, and nothing else in a module is a constructor.  An interface that is no
class ends in its only maker, which has one parameter for each property.
-/

namespace ReasonBindings

open Syntax

namespace Model

/-! ### Interfaces at any depth -/

mutual

/-- The interfaces of a module and of its nested modules. -/
def Module.allInterfaces : Module → List Interface
  | ⟨_, modules, _, interfaces, _⟩ => interfaces ++ nestedInterfaces modules

/-- The interfaces of nested modules. -/
def nestedInterfaces : List Module → List Interface
  | [] => []
  | inner :: others => inner.allInterfaces ++ nestedInterfaces others

end

mutual

/-- The shapes of the interfaces that the body of a namespace declares, at any depth. -/
def bodyShapes : Node → List Shape
  | .block _ statements => statements.flatMap shapes ++ innerShapes statements
  | .namespaceDecl _ _ body => bodyShapes body
  | _ => []

/-- The shapes of the interfaces that are declared inside the namespaces of a list of statements. -/
def innerShapes : List Node → List Shape
  | [] => []
  | .namespaceDecl _ _ body :: nodes => bodyShapes body ++ innerShapes nodes
  | _ :: nodes => innerShapes nodes

end

/-- The shapes of the interfaces that statements declare, at any depth. -/
def allShapes (statements : List Node) : List Shape :=
  statements.flatMap shapes ++ innerShapes statements

/-- The body of a namespace declares what its statements declare. -/
lemma bodyShapes_eq (body : Node) : bodyShapes body = allShapes body.bodyStatements := by
  cases body with
  | block => rfl
  | namespaceDecl => simp [bodyShapes, Node.bodyStatements, allShapes, innerShapes, shapes]
  | _ => rfl

/-- A statement that holds no others declares nothing inside. -/
lemma innerShapes_cons {node : Node} (h : node.body? = none) (nodes : List Node) :
    innerShapes (node :: nodes) = innerShapes nodes := by
  cases node with
  | namespaceDecl => cases h
  | _ => rfl

/-- A statement that holds no others declares what it declares by itself. -/
lemma allShapes_simple {node : Node} (h : node.body? = none) : allShapes [node] = shapes node := by
  rw [allShapes, innerShapes_cons h, List.flatMap_singleton]
  exact List.append_nil _

/-- A namespace declares what its body declares. -/
lemma allShapes_namespaceDecl (line : Line) (name body : Node) :
    allShapes [.namespaceDecl line name body] = bodyShapes body :=
  List.append_nil _

/-- The namespaces of two lists of statements declare what those of each list declare. -/
lemma innerShapes_append (first second : List Node) :
    innerShapes (first ++ second) = innerShapes first ++ innerShapes second := by
  induction first with
  | nil => rfl
  | cons node nodes ih =>
    cases node with
    | namespaceDecl => rw [List.cons_append, innerShapes, innerShapes, ih, List.append_assoc]
    | _ => exact ih

/-- What two lists of statements declare is declared in one of them. -/
lemma mem_allShapes_append {shape : Shape} {first second : List Node} :
    shape ∈ allShapes (first ++ second) ↔ shape ∈ allShapes first ∨ shape ∈ allShapes second := by
  simp only [allShapes, List.flatMap_append, innerShapes_append, List.mem_append]
  exact or_or_or_comm

/-- What is declared by statements that are put together is declared in one of the lists. -/
lemma mem_allShapes_flatten {shape : Shape} {lists : List (List Node)} :
    shape ∈ allShapes lists.flatten ↔ ∃ list ∈ lists, shape ∈ allShapes list := by
  induction lists with
  | nil => simp [allShapes, innerShapes]
  | cons first others ih => simp [mem_allShapes_append, ih]

/-- The interfaces of two lists of nested modules. -/
lemma nestedInterfaces_append (first second : List Module) :
    nestedInterfaces (first ++ second) = nestedInterfaces first ++ nestedInterfaces second := by
  induction first with
  | nil => rfl
  | cons inner others ih => simp [nestedInterfaces, ih]

/-- The interfaces of a module are its own and those of its nested modules. -/
lemma Module.allInterfaces_eq (module : Module) :
    module.allInterfaces = module.interfaces ++ nestedInterfaces module.modules := by
  cases module
  rfl

/-- The interface is the record of the shape, wherever this is declared. -/
def Interface.Records (shape : Shape) (interface : Interface) : Prop :=
  ∃ scope, interface.StemsFrom scope shape

/-- A relation of shapes and interfaces that holds for every statement without a body holds for
statements at any depth. -/
theorem Module.StemsFrom.forall₂_interfaces {R : Shape → Interface → Prop}
    (hstatement : ∀ {scope : Scope} {owner : String} {node : Node} {module : Module},
      (simpleStatementOf scope owner node).outcome = .ok module →
      List.Forall₂ R (shapes node) module.interfaces)
    {scope : Scope} {owner : String} {statements : List Node} {module : Module}
    (h : module.StemsFrom scope owner statements) :
    List.Forall₂ R (allShapes statements) module.allInterfaces := by
  -- A module has its own interfaces first, so they are kept apart from those of nested modules.
  suffices hparts : List.Forall₂ R (statements.flatMap shapes) module.interfaces ∧
      List.Forall₂ R (innerShapes statements) (nestedInterfaces module.modules) by
    rw [module.allInterfaces_eq]
    exact List.rel_append hparts.1 hparts.2
  induction h with
  | nil => exact ⟨.nil, .nil⟩
  | @simple scope owner node nodes first rest hbody hfirst _ ih =>
    constructor
    · rw [List.flatMap_cons]
      exact List.rel_append (hstatement hfirst) ih.1
    · rw [innerShapes_cons hbody, Module.merge, (stemsFrom_of_simpleStatementOf hfirst).modules]
      exact ih.2
  | @namespaceDecl scope owner inner line name body nodes built rest _ _ _ ihbuilt ihrest =>
    have hbuilt : List.Forall₂ R (bodyShapes body) built.allInterfaces := by
      rw [bodyShapes_eq, built.allInterfaces_eq]
      exact List.rel_append ihbuilt.1 ihbuilt.2
    constructor
    · exact ihrest.1
    · exact List.rel_append hbuilt ihrest.2

/-- **Interfaces in the order of their declarations.**  Each interface that statements add to a
module is the record of a shape that they declare, and each shape has its record. -/
theorem Module.StemsFrom.records {scope : Scope} {owner : String} {statements : List Node}
    {module : Module} (h : module.StemsFrom scope owner statements) :
    List.Forall₂ Interface.Records (allShapes statements) module.allInterfaces := by
  refine h.forall₂_interfaces fun {scope} _ _ _ hstatement => ?_
  have hinterfaces := (stemsFrom_of_simpleStatementOf hstatement).interfaces
  exact hinterfaces.imp fun _ _ hstems => ⟨scope, hstems⟩

/-! ### Constructors -/

/-- The method is the record of the given constructor of a class. -/
def Method.Constructs (member : Node) (method : Method) : Prop :=
  ∃ scope owner, Method.StemsFrom scope member (some makeName) true owner method

/-- A constructor contributes its record, and no other member contributes a constructor. -/
lemma Contribution.StemsFrom.constructs {scope : Scope} {owner : String} {member : Node}
    {contribution : Contribution} (h : contribution.StemsFrom scope owner member) :
    Option.Rel Method.Constructs (Option.guard Node.isConstructor member)
      (contribution.method?.filter (·.ctor)) := by
  have other : member.isConstructor = false → contribution.method?.filter (·.ctor) = none →
      Option.Rel Method.Constructs (Option.guard Node.isConstructor member)
        (contribution.method?.filter (·.ctor)) := by
    intro hmember hmethod
    rw [hmethod, Option.guard, if_neg (by simp [hmember])]
    exact .none
  cases h with
  | property hproperty =>
    have hmethod := Node.declaresMethod_of_declaresProperty hproperty
    exact other (Node.isConstructor_of_not_declaresMethod hmethod) rfl
  | nothing _ hmethod => exact other (Node.isConstructor_of_not_declaresMethod hmethod) rfl
  | @method record name template hmethod hgiven hrecord =>
    cases hgiven with
    | invoke hmember | create hmember | declared hmember | key hmember =>
      refine other hmember ?_
      rw [Contribution.method?, Option.filter_some, if_neg]
      rw [hrecord.ctor, hmember]
      exact Bool.false_ne_true
    | make hmember =>
      rw [hmember] at hrecord
      rw [Option.guard, if_pos hmember, Contribution.method?, Option.filter_some,
        if_pos hrecord.ctor, ← hrecord.template]
      exact .some ⟨scope, owner, hrecord⟩

/-- The constructors of an interface are the records of those of its shape, in their order. -/
lemma Interface.Records.constructors {shape : Shape} {interface : Interface}
    (h : interface.Records shape) :
    List.Forall₂ Method.Constructs (shape.members.filter Node.isConstructor)
      (interface.methods.filter (·.ctor)) := by
  obtain ⟨scope, name, parents, contributions, hcontributions, rfl⟩ := h
  have hmembers : List.Forall₂ Method.Constructs (shape.members.filter Node.isConstructor)
      ((contributions.filterMap Contribution.method?).filter (·.ctor)) := by
    rw [List.filter_filterMap, ← List.filterMap_eq_filter]
    exact List.rel_filterMap (fun _ _ hstems => hstems.constructs) hcontributions
  obtain ⟨kind, declaration, members⟩ := shape
  cases kind with
  | classLike => exact hmembers
  | interfaceLike =>
    -- The maker comes after the methods of the members and is no constructor.
    have hmaker : ∀ name properties, [makerOf name properties].filter (·.ctor) = [] :=
      fun _ _ => rfl
    rw [interfaceWith, List.filter_append, hmaker, List.append_nil]
    exact hmembers

/-! ### Makers -/

/-- The last method of an interface, and no other one, is its maker: it is static and returns an
object, and its parameters mirror the properties one by one, with the sentinel after them if it is
needed. -/
def Interface.EndsInMaker (interface : Interface) : Prop :=
  ∃ others maker own, interface.methods = others ++ [maker] ∧
    (∀ method ∈ others, method.maker = false) ∧ maker.maker = true ∧ maker.static = true ∧
    maker.type = TypeText.instanceType ∧
    (maker.parameters = own ∨ maker.parameters = own ++ [sentinel]) ∧
    List.Forall₂ (fun property parameter => parameter.name = property.name ∧
      parameter.type = property.type ∧ parameter.optional = property.optional)
      interface.properties own

/-- No member contributes a maker. -/
lemma Contribution.StemsFrom.maker {scope : Scope} {owner : String} {member : Node}
    {contribution : Contribution} (h : contribution.StemsFrom scope owner member) :
    ∀ method ∈ contribution.method?, method.maker = false := by
  cases h with
  | property | nothing => exact fun _ hmethod => nomatch hmethod
  | method _ _ hrecord =>
    rintro _ ⟨⟩
    exact hrecord.maker

/-- No method of the members of a shape is a maker. -/
lemma maker_of_contributions {scope : Scope} {owner : String} {members : List Node}
    {contributions : List Contribution}
    (h : List.Forall₂ (Contribution.StemsFrom scope owner) members contributions) :
    ∀ method ∈ contributions.filterMap Contribution.method?, method.maker = false := by
  intro method hmem
  obtain ⟨contribution, hcontribution, hmethod⟩ := List.mem_filterMap.mp hmem
  obtain ⟨member, -, hstems⟩ := exists_left_of_mem h hcontribution
  exact hstems.maker method hmethod

/-- The maker of an interface is the only method that no member contributes. -/
lemma filter_maker_interfaceWith {scope : Scope} {owner : String} {members : List Node}
    {contributions : List Contribution}
    (h : List.Forall₂ (Contribution.StemsFrom scope owner) members contributions) (name : String)
    (kind : InterfaceKind) (parents : List String) :
    (interfaceWith name kind parents contributions).methods.filter (!·.maker) =
      contributions.filterMap Contribution.method? := by
  have hmethods : (contributions.filterMap Contribution.method?).filter (!·.maker) =
      contributions.filterMap Contribution.method? := by
    rw [List.filter_eq_self]
    intro method hmem
    rw [maker_of_contributions h method hmem]
    rfl
  cases kind with
  | classLike => exact hmethods
  | interfaceLike =>
    have hmaker : ∀ owner properties, [makerOf owner properties].filter (!·.maker) = [] :=
      fun _ _ => rfl
    rw [interfaceWith, List.filter_append, hmethods, hmaker, List.append_nil]

/-- The parameters are followed by the sentinel or by nothing. -/
lemma withSentinel_eq_or (parameters : List Parameter) :
    withSentinel parameters = parameters ∨ withSentinel parameters = parameters ++ [sentinel] := by
  unfold withSentinel
  split
  · exact Or.inr rfl
  · exact Or.inl rfl

/-- The record of a shape is of the kind of the shape. -/
lemma Interface.Records.kind_eq {shape : Shape} {interface : Interface}
    (h : interface.Records shape) : interface.kind = shape.kind := by
  obtain ⟨scope, name, parents, contributions, -, rfl⟩ := h
  rfl

/-- A class has no maker. -/
lemma Interface.Records.maker_of_class {shape : Shape} {interface : Interface}
    (h : interface.Records shape) (hkind : shape.kind = .classLike) :
    ∀ method ∈ interface.methods, method.maker = false := by
  obtain ⟨scope, name, parents, contributions, hcontributions, rfl⟩ := h
  rw [hkind]
  exact maker_of_contributions hcontributions

/-- An interface that is no class ends in its maker. -/
lemma Interface.Records.endsInMaker {shape : Shape} {interface : Interface}
    (h : interface.Records shape) (hkind : shape.kind = .interfaceLike) :
    interface.EndsInMaker := by
  obtain ⟨scope, name, parents, contributions, hcontributions, rfl⟩ := h
  rw [hkind]
  refine ⟨_, _, _, rfl, maker_of_contributions hcontributions, rfl, rfl, rfl,
    withSentinel_eq_or _, ?_⟩
  rw [List.forall₂_map_right_iff]
  exact List.forall₂_same.mpr fun property _ => ⟨rfl, rfl, rfl⟩

/-! ### Methods at any depth -/

/-- The methods of two lists of nested modules. -/
lemma nestedMethods_append (first second : List Module) :
    nestedMethods (first ++ second) = nestedMethods first ++ nestedMethods second := by
  induction first with
  | nil => rfl
  | cons inner others ih => simp [nestedMethods, ih]

/-- The methods of a merged module are those of the two modules. -/
lemma Module.mem_allMethods_merge {first second : Module} {method : Method} :
    method ∈ (first.merge second).allMethods ↔
      method ∈ first.allMethods ∨ method ∈ second.allMethods := by
  cases first
  cases second
  simp only [merge, allMethods, nestedMethods_append, List.flatMap_append, List.mem_append]
  grind

/-- The interfaces of a merged module are those of the two modules. -/
lemma Module.mem_allInterfaces_merge {first second : Module} {interface : Interface} :
    interface ∈ (first.merge second).allInterfaces ↔
      interface ∈ first.allInterfaces ∨ interface ∈ second.allInterfaces := by
  simp only [allInterfaces_eq, merge, nestedInterfaces_append, List.mem_append]
  grind

/-- **Functions are no constructors.**  Every constructor in a module belongs to an interface. -/
theorem Module.StemsFrom.exists_interface {scope : Scope} {owner : String} {statements : List Node}
    {module : Module} (h : module.StemsFrom scope owner statements) :
    ∀ method ∈ module.allMethods, method.ctor = true →
      ∃ interface ∈ module.allInterfaces, method ∈ interface.methods := by
  induction h with
  | nil => exact fun _ hmem => nomatch hmem
  | @simple scope owner node nodes first rest hbody hfirst _ ih =>
    have hsimple := stemsFrom_of_simpleStatementOf hfirst
    intro method hmem hctor
    rcases Module.mem_allMethods_merge.mp hmem with hown | hrest
    · obtain ⟨name, modules, globals, interfaces, methods⟩ := first
      obtain rfl : modules = [] := hsimple.modules
      rw [Module.allMethods, nestedMethods, List.append_nil, List.mem_append] at hown
      rcases hown with hfunction | hinterface
      · obtain ⟨declaration, -, hstems⟩ := exists_left_of_mem hsimple.methods hfunction
        rw [hstems.ctor] at hctor
        cases hctor
      · obtain ⟨interface, hmember, hmethod⟩ := List.mem_flatMap.mp hinterface
        refine ⟨interface, Module.mem_allInterfaces_merge.mpr (Or.inl ?_), hmethod⟩
        exact List.mem_append_left _ hmember
    · obtain ⟨interface, hmember, hmethod⟩ := ih method hrest hctor
      exact ⟨interface, Module.mem_allInterfaces_merge.mpr (Or.inr hmember), hmethod⟩
  | @namespaceDecl scope owner inner line name body nodes built rest _ _ _ ihbuilt ihrest =>
    intro method hmem hctor
    rcases Module.mem_allMethods_merge.mp hmem with hbuilt | hrest
    · have hinside : method ∈ built.allMethods := by
        simpa [Module.allMethods, nestedMethods] using hbuilt
      obtain ⟨interface, hmember, hmethod⟩ := ihbuilt method hinside hctor
      refine ⟨interface, Module.mem_allInterfaces_merge.mpr (Or.inl ?_), hmethod⟩
      simpa [Module.allInterfaces, nestedInterfaces] using hmember
    · obtain ⟨interface, hmember, hmethod⟩ := ihrest method hrest hctor
      exact ⟨interface, Module.mem_allInterfaces_merge.mpr (Or.inr hmember), hmethod⟩

/-- Every constructor in a module is the record of a constructor of a shape that the statements
declare. -/
lemma Module.StemsFrom.constructs {scope : Scope} {owner : String} {statements : List Node}
    {module : Module} (h : module.StemsFrom scope owner statements) {method : Method}
    (hmem : method ∈ module.allMethods) (hctor : method.ctor = true) :
    ∃ shape ∈ allShapes statements, ∃ member ∈ shape.members, member.isConstructor = true ∧
      method.Constructs member := by
  obtain ⟨interface, hinterface, hmethod⟩ := h.exists_interface method hmem hctor
  obtain ⟨shape, hshape, hrecords⟩ := exists_left_of_mem h.records hinterface
  have hconstructor : method ∈ interface.methods.filter (·.ctor) :=
    List.mem_filter.mpr ⟨hmethod, hctor⟩
  obtain ⟨member, hmember, hstems⟩ :=
    exists_left_of_mem hrecords.constructors hconstructor
  obtain ⟨hown, hconstructs⟩ := List.mem_filter.mp hmember
  exact ⟨shape, hshape, member, hown, hconstructs, hstems⟩

end Model

end ReasonBindings
