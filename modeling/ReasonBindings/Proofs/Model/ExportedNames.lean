import ReasonBindings.Proofs.Model.LibraryName

/-!
# The classes that constructors are bound to

The binding of a constructor says which class of the library it constructs.  It takes the
name from the record of the class, and that is the name of the class together with its type
parameters.  So a constructor is bound to the class under the name of the declaration when
the class has no type parameters, and to a name that no declaration has otherwise.
-/

namespace ReasonBindings

open Layout Syntax

namespace Model

/-! ### Names of records -/

/-- The name of the record of a declaration: the declared name with the type parameters. -/
def recordName (declared : String) (node : Node) : String :=
  declared ++ TypeText.argumentList (node.typeParameterNames.map (TypeText.variableMark ++ ·))

/-- A declaration has names of type parameters when it has type parameters that have names. -/
lemma typeParameterNames_eq_nil_iff {node : Node} (hnamed : node.NamesTypeParameters)
    {parameters : List Node} (hparameters : node.typeParameters? = some parameters) :
    node.typeParameterNames = [] ↔ parameters = [] := by
  rw [Node.NamesTypeParameters, hparameters] at hnamed
  rw [Node.typeParameterNames, hparameters, Option.getD_some, List.filterMap_eq_nil_iff]
  constructor
  · intro hnone
    refine List.eq_nil_iff_forall_not_mem.mpr fun parameter hmem => ?_
    have hsome := hnamed parameter hmem
    rw [hnone parameter hmem] at hsome
    cases hsome
  · rintro rfl
    exact List.forall_mem_nil _

/-- The name of the record is the declared one exactly when there are no type parameters. -/
lemma recordName_eq_declared_iff {declared : String} {node : Node} :
    recordName declared node = declared ↔ node.typeParameterNames = [] := by
  rw [recordName, String.append_eq_left_iff, TypeText.argumentList]
  constructor
  · intro hempty
    by_contra hnames
    rw [if_neg (by simpa using hnames)] at hempty
    have hlength := congrArg String.length hempty
    simp at hlength
  · intro hnames
    rw [hnames]
    rfl

/-- A name with type parameters is made up of the declared name and the names of these. -/
lemma exists_declared_of_genericName {node : Node} {name : String}
    (h : (genericName node).outcome = .ok name) :
    ∃ declared parameters, node.requiredName.outcome = .ok declared ∧
      node.typeParameters? = some parameters ∧ node.NamesTypeParameters ∧
      name = recordName declared node := by
  rw [genericName] at h
  obtain ⟨declared, hdeclared, h⟩ := Traced.bind_outcome_eq_ok.mp h
  obtain ⟨parameters, hpresent, h⟩ := Traced.bind_outcome_eq_ok.mp h
  have hparameters : node.typeParameters? = some parameters :=
    Traced.present_outcome_eq_ok.mp hpresent
  cases parameters with
  | nil =>
    obtain rfl := Traced.pure_outcome_eq_ok.mp h
    have hnamed : node.NamesTypeParameters := by
      rw [Node.NamesTypeParameters, hparameters]
      exact List.forall_mem_nil _
    have hnames := (typeParameterNames_eq_nil_iff hnamed hparameters).mpr rfl
    exact ⟨declared, [], hdeclared, hparameters, hnamed,
      (recordName_eq_declared_iff.mpr hnames).symm⟩
  | cons first others =>
    obtain ⟨names, hnames, rfl⟩ := Traced.bind_pure_outcome_eq_ok.mp h
    have hown : node.ownTypeParameters.outcome = .ok names := by
      rw [Node.ownTypeParameters, hparameters]
      exact hnames
    have hnamed : node.NamesTypeParameters := by
      by_contra hmissing
      rw [Node.ownTypeParameters_of_not_named hmissing] at hown
      cases hown
    rw [Node.ownTypeParameters_of_named hnamed] at hown
    obtain rfl : node.typeParameterNames = names := Except.ok.inj hown
    have hsome : node.typeParameterNames ≠ [] := fun hnone =>
      List.cons_ne_nil _ _ ((typeParameterNames_eq_nil_iff hnamed hparameters).mp hnone)
    refine ⟨declared, first :: others, hdeclared, hparameters, hnamed, ?_⟩
    rw [recordName, TypeText.argumentList, if_neg (by simpa using hsome)]
    simp only [String.append_assoc]

/-! ### Records of classes -/

/-- The record of a declaration is called by its name with type parameters. -/
lemma genericName_of_interfaceOf {scope : Scope} {node : Node} {kind : InterfaceKind}
    {interface : Interface} (h : (interfaceOf scope node kind none).outcome = .ok interface) :
    (genericName node).outcome = .ok interface.name := by
  simp only [interfaceOf, Traced.bind_outcome_eq_ok, Traced.pure_outcome_eq_ok] at h
  obtain ⟨parents, -, chosen, hchosen, members, -, contributions, -, -, -, rfl⟩ := h
  exact hchosen

/-- The interface is the record of the shape, and if this is that of a class, it is called by the
name of the class with type parameters. -/
structure Interface.RecordsByName (shape : Shape) (interface : Interface) : Prop where
  records : interface.Records shape
  name : shape.kind = .classLike → (genericName shape.declaration).outcome = .ok interface.name

/-- The records that a statement without a body adds for classes are called by their names. -/
lemma recordsByName_of_simpleStatementOf {scope : Scope} {owner : String} {node : Node}
    {module : Module} (h : (simpleStatementOf scope owner node).outcome = .ok module) :
    List.Forall₂ Interface.RecordsByName (shapes node) module.interfaces := by
  have hstems := (stemsFrom_of_simpleStatementOf h).interfaces
  have other : (∀ shape ∈ shapes node, shape.kind = .interfaceLike) →
      List.Forall₂ Interface.RecordsByName (shapes node) module.interfaces := by
    intro hkind
    refine ((List.forall₂_and_left _ _).mpr ⟨hkind, hstems⟩).imp fun shape interface hpair => ?_
    refine ⟨⟨scope, hpair.2⟩, fun hclass => ?_⟩
    rw [hpair.1] at hclass
    cases hclass
  cases node with
  | classDecl =>
    obtain ⟨interface, hinterface, rfl⟩ := Traced.bind_pure_outcome_eq_ok.mp h
    have hrecord := stemsFrom_of_interfaceOf rfl hinterface
    exact .cons ⟨⟨scope, hrecord⟩, fun _ => genericName_of_interfaceOf hinterface⟩ .nil
  | interfaceDecl => exact other (by simp [shapes])
  | aliasDecl line name typeParameters type =>
    refine other ?_
    cases type <;> simp [shapes]
  | variableStatement line declarations =>
    refine other fun shape hmem => ?_
    obtain ⟨declaration, -, hshape⟩ := List.mem_filterMap.mp hmem
    unfold inlineShape? at hshape
    split at hshape
    · obtain rfl := Option.some.inj hshape
      rfl
    · cases hshape
  | _ => exact other (List.forall_mem_nil _)

/-- Every method of the record of a shape belongs to the record. -/
lemma Interface.Records.owner {shape : Shape} {interface : Interface}
    (h : interface.Records shape) :
    ∀ method ∈ interface.methods, method.owner = interface.name := by
  obtain ⟨scope, name, parents, contributions, hcontributions, rfl⟩ := h
  have hmembers : ∀ method ∈ contributions.filterMap Contribution.method?, method.owner = name := by
    intro method hmem
    obtain ⟨contribution, hcontribution, hmethod⟩ := List.mem_filterMap.mp hmem
    obtain ⟨member, -, hstems⟩ := exists_left_of_mem hcontributions hcontribution
    cases hstems with
    | property | nothing => cases hmethod
    | method _ _ hrecord =>
      obtain rfl := Option.some.inj hmethod
      exact hrecord.owner
  intro method hmem
  cases hkind : shape.kind with
  | classLike =>
    rw [hkind] at hmem
    exact hmembers method hmem
  | interfaceLike =>
    rw [hkind] at hmem
    rcases List.mem_append.mp hmem with hmember | hmaker
    · exact hmembers method hmember
    · rw [List.mem_singleton.mp hmaker]
      rfl

/-! ### Bindings of constructors -/

/-- The method is the record of a constructor, and the bindings of the module bind it to the class
of the given name in the library. -/
structure Method.BindsTo (module : Module) (exported : String) (member : Node) (method : Method) :
    Prop where
  constructs : method.Constructs member
  owner : method.owner = exported
  line : ∃ depth, method.constructorLine module.name depth ∈ module.lines module.name

/-- The constructors of a class are bound, one by one, to the class under its declared name together
with its type parameters, which is the declared name alone when there are none. -/
def Interface.BindsClass (module : Module) (shape : Shape) (interface : Interface) : Prop :=
  ∃ declared, shape.declaration.requiredName.outcome = .ok declared ∧
    List.Forall₂ (Method.BindsTo module (recordName declared shape.declaration))
      (shape.members.filter Node.isConstructor) (interface.methods.filter (·.ctor)) ∧
    (recordName declared shape.declaration = declared ↔
      shape.declaration.typeParameters? = some [])

/-- The constructors of the record of a class are bound. -/
lemma Interface.RecordsByName.bindsClass {module : Module} {shape : Shape} {interface : Interface}
    (h : interface.RecordsByName shape) (hmem : interface ∈ module.allInterfaces)
    (hclass : shape.kind = .classLike) : interface.BindsClass module shape := by
  obtain ⟨declared, parameters, hdeclared, hparameters, hnames, hname⟩ :=
    exists_declared_of_genericName (h.name hclass)
  have hbound : ∀ method ∈ interface.methods.filter (·.ctor),
      method.owner = recordName declared shape.declaration ∧
      ∃ depth, method.constructorLine module.name depth ∈ module.lines module.name := by
    intro method hmethod
    obtain ⟨hown, hctor⟩ := List.mem_filter.mp hmethod
    have hline := module.exists_constructorLine module.name interface hmem method hown hctor
    exact ⟨(h.records.owner method hown).trans hname, hline⟩
  have hconstructors := ((List.forall₂_and_left _ _).mpr ⟨hbound, h.records.constructors.flip⟩).flip
  refine ⟨declared, hdeclared, hconstructors.imp fun member method hpair => ?_, ?_⟩
  · obtain ⟨⟨howner, hline⟩, hconstructs⟩ := hpair
    exact ⟨hconstructs, howner, hline⟩
  · rw [recordName_eq_declared_iff, typeParameterNames_eq_nil_iff hnames hparameters, hparameters,
      Option.some_inj]

/-- **Constructors are bound to the record of their class.**  In the bindings of a file every
constructor of every class, at any depth, is bound to the class under the name of its record, the
declared name with the type parameters.  This is the declared name exactly when the class has no
type parameters. -/
theorem constructors_bindClasses {line : Line} {path text : String} {statements : List Node}
    {name : Option String}
    (h : (bindingsOf (.sourceFile line path statements) name).outcome = .ok text) :
    ∃ module : Module, (fileOf (.sourceFile line path statements) name).outcome = .ok module ∧
      text = unlines (module.lines module.name) ∧
      List.Forall₂ (fun shape interface => interface.Records shape ∧
        (shape.kind = .classLike → interface.BindsClass module shape))
        (allShapes statements) module.allInterfaces := by
  obtain ⟨module, hmodule, htext⟩ := Traced.bind_outcome_eq_ok.mp h
  obtain rfl : module.text = text := Except.ok.inj htext
  obtain ⟨root, hstems⟩ := stemsFrom_of_fileOf hmodule
  have hrecords := hstems.forall₂_interfaces recordsByName_of_simpleStatementOf
  have hinterfaces := ((List.forall₂_and_left _ _).mpr ⟨fun _ hmem => hmem, hrecords.flip⟩).flip
  refine ⟨module, hmodule, rfl, hinterfaces.imp fun shape interface hpair => ?_⟩
  obtain ⟨hmem, hrecord⟩ := hpair
  exact ⟨hrecord.records, hrecord.bindsClass hmem⟩

/-- A class with a type parameter and a constructor. -/
def genericClass : Node :=
  .classDecl none (.identifier none "Box") [.typeParameter none (.identifier none "T")] []
    [.signature .constructor none .absent .absent false [] []
      [.parameter none (.identifier none "item") (plainReference "T") false false]] []

/-- The record of the constructor. -/
def genericConstructor : Method where
  name := "make"
  type := "'a"
  parameters := [{ name := "item", type := "'T" }]
  ctor := true
  owner := "Box('T)"

/-- The record of a library with the class. -/
def genericModule : Module where
  name := "lib"
  interfaces := [{ name := "Box('T)", kind := .classLike, methods := [genericConstructor] }]

/-- The constructor of the class is bound to the name with the type parameter. -/
theorem constructors_genericClass :
    (bindingsOf (.sourceFile none "lib.d.ts" [genericClass]) none).outcome =
      .ok genericModule.text ∧
    ∃ module : Module,
      (fileOf (.sourceFile none "lib.d.ts" [genericClass]) none).outcome = .ok module ∧
      genericModule.text = unlines (module.lines module.name) ∧
      List.Forall₂ (fun shape interface => interface.Records shape ∧
        (shape.kind = .classLike → interface.BindsClass module shape))
        (allShapes [genericClass]) module.allInterfaces :=
  have hbuilt : (fileOf (.sourceFile none "lib.d.ts" [genericClass]) none).outcome =
      .ok genericModule := rfl
  have hbindings := bindingsOf_of_fileOf hbuilt
  ⟨hbindings, constructors_bindClasses hbindings⟩

/-- No constructor of the class is bound to the class under its declared name. -/
theorem not_bindsTo_declaredName :
    genericClass.requiredName.outcome = .ok "Box" ∧
    (fileOf (.sourceFile none "lib.d.ts" [genericClass]) none).outcome = .ok genericModule ∧
    genericModule.text = unlines ["let module Box('T) = \x7b", "  type t;", "",
      "  external make : item::'T => t = \"Box('T)\" [@@bs.new] [@@bs.module \"lib\"];", "\x7d;",
      ""] ∧
    ∀ interface ∈ genericModule.allInterfaces, ∀ method ∈ interface.methods,
      method.ctor = true ∧ method.owner ≠ "Box" := by
  refine ⟨rfl, rfl, rfl, ?_⟩
  decide

end Model

end ReasonBindings
