/-!
# Records of bindings

What a declaration file declares, in the shape of the bindings: modules with
variables, functions, interfaces and nested modules.  Modules of one name form a
monoid under `merge`, which appends the records of each kind.
-/

namespace ReasonBindings.Model

/-- A parameter of a function. -/
structure Parameter where
  /-- The label, empty when the parameter has none. -/
  name : String
  type : String
  optional : Bool := false
  /-- Whether the parameter takes all remaining arguments. -/
  rest : Bool := false
deriving Repr, BEq, DecidableEq, Inhabited

/-- A property of a class or an interface. -/
structure Property where
  name : String
  type : String
  optional : Bool := false
  static : Bool := false
  /-- How the property is accessed, when it is not a plain field. -/
  template : Option String := none
deriving Repr, BEq, DecidableEq, Inhabited

/-- A function, a method, a constructor or a maker. -/
structure Method where
  name : String
  type : String
  optional : Bool := false
  static : Bool := false
  parameters : List Parameter := []
  /-- Whether the method is the constructor of a class. -/
  ctor : Bool := false
  /-- Whether the method makes an object out of its properties. -/
  maker : Bool := false
  /-- The name of the interface or module that the method belongs to. -/
  owner : String := ""
  /-- How the method is called, when it is not a plain call. -/
  template : Option String := none
deriving Repr, BEq, DecidableEq, Inhabited

/-- An exported value. -/
structure Variable where
  name : String
  type : String
  static : Bool := true
deriving Repr, BEq, DecidableEq, Inhabited

/-- What kind of declaration an interface stems from. -/
inductive InterfaceKind where
  | classLike
  | interfaceLike
deriving Repr, BEq, DecidableEq, Inhabited

/-- The word for a kind of interface. -/
def InterfaceKind.word : InterfaceKind → String
  | classLike => "class"
  | interfaceLike => "interface"

/-- A class, an interface, an object type or a type alias. -/
structure Interface where
  /-- The name with its type parameters. -/
  name : String
  kind : InterfaceKind := .interfaceLike
  parents : List String := []
  properties : List Property := []
  methods : List Method := []
deriving Repr, BEq, DecidableEq, Inhabited

/-- A namespace or a whole declaration file. -/
structure Module where
  name : String
  modules : List Module := []
  globals : List Variable := []
  interfaces : List Interface := []
  methods : List Method := []
deriving Repr, BEq, Inhabited

namespace Module

/-- The module without records. -/
def empty (name : String) : Module where
  name := name

/-- The first module with the records of the second one after its own. -/
def merge (target other : Module) : Module where
  name := target.name
  modules := target.modules ++ other.modules
  globals := target.globals ++ other.globals
  interfaces := target.interfaces ++ other.interfaces
  methods := target.methods ++ other.methods

/-- Merging with a module without records changes nothing. -/
@[simp] theorem merge_empty (target : Module) (name : String) :
    target.merge (empty name) = target := by
  cases target
  simp [merge, empty]

/-- A module without records takes over what is merged into it. -/
@[simp] theorem empty_merge (target : Module) : (empty target.name).merge target = target := by
  cases target
  simp [merge, empty]

/-- Merging associates. -/
theorem merge_assoc (first second third : Module) :
    (first.merge second).merge third = first.merge (second.merge third) := by
  simp [merge]

/-- A merged module keeps the name of its target. -/
@[simp] theorem name_merge (target other : Module) : (target.merge other).name = target.name := rfl

end Module

/-- The trailing parameter that makes optional parameters omittable. -/
def sentinel : Parameter where
  name := ""
  type := "unit"

/-- The parameters, followed by the sentinel when one of them is optional: an optional labelled
argument can be left out only if an unlabelled one follows. -/
def withSentinel (parameters : List Parameter) : List Parameter :=
  if parameters.any (·.optional) then parameters ++ [sentinel] else parameters

/-- Parameters of which none is optional stay as they are. -/
theorem withSentinel_of_required {parameters : List Parameter}
    (h : parameters.any (·.optional) = false) : withSentinel parameters = parameters := by
  simp [withSentinel, h]

/-- An optional parameter calls for the sentinel. -/
theorem withSentinel_of_optional {parameters : List Parameter}
    (h : parameters.any (·.optional) = true) :
    withSentinel parameters = parameters ++ [sentinel] := by
  simp [withSentinel, h]

end ReasonBindings.Model
