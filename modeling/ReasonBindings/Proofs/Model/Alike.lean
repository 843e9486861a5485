import Mathlib.Data.List.Forall2
import ReasonBindings.Proofs.Model.Tally

/-!
# Records that are printed alike

Records remember more of a declaration than is printed of them: what a class extends, what
a property belongs to, whether a parameter takes all remaining arguments.  So two records
are compared by what is printed of them, from parameters, whose texts depend on whether
they are labelled, up to modules, which are compared list by list.
-/

namespace ReasonBindings

open Layout

namespace Model

/-- Whether the parameters of a call have labels as soon as they have names. -/
def CallKind.isLabelled : CallKind → Bool
  | constructor | maker => true
  | receiver | plain => false

/-- The parameters have the same text, and both or none of them can be left out. -/
structure Parameter.PrintsAs (labelled : Bool) (parameter parameter' : Parameter) : Prop where
  text : parameter.text labelled = parameter'.text labelled
  optional : parameter.optional = parameter'.optional

/-- The methods have the same binding in every library. -/
def Method.PrintsAs (method method' : Method) : Prop :=
  ∀ library, method.line library = method'.line library

/-- The properties are the same up to what they belong to. -/
structure Property.PrintsAs (property property' : Property) : Prop where
  name : property.name = property'.name
  type : property.type = property'.type
  optional : property.optional = property'.optional

/-- The interfaces have the same name and the same bindings in every library. -/
structure Interface.PrintsAs (interface interface' : Interface) : Prop where
  name : interface.name = interface'.name
  lines : ∀ library, interface.lines library = interface'.lines library

/-- The modules have the same name, and the bindings of each list of records are the same in every
library. -/
structure Module.PrintsAs (module module' : Module) : Prop where
  name : module.name = module'.name
  globals : module.globals = module'.globals
  methods : List.Forall₂ Method.PrintsAs module.methods module'.methods
  interfaces : List.Forall₂ Interface.PrintsAs module.interfaces module'.interfaces
  nested : ∀ library, nestedLines library module.modules = nestedLines library module'.modules

/-- The trailing parameter is put behind parameters that print alike, or it is not. -/
lemma Parameter.PrintsAs.withSentinel {labelled : Bool} {parameters parameters' : List Parameter}
    (h : List.Forall₂ (Parameter.PrintsAs labelled) parameters parameters') :
    List.Forall₂ (Parameter.PrintsAs labelled) (withSentinel parameters)
      (Model.withSentinel parameters') := by
  have hany : parameters.any (·.optional) = parameters'.any (·.optional) := by
    induction h with
    | nil => rfl
    | cons hfirst _ ih => rw [List.any_cons, List.any_cons, hfirst.optional, ih]
  unfold Model.withSentinel
  rw [hany]
  split
  · exact List.rel_append h (.cons ⟨rfl, rfl⟩ .nil)
  · exact h

/-- Parameters that print alike make the same chain of types. -/
lemma parameterChain_eq_of_printsAs {labelled : Bool} {parameters parameters' : List Parameter}
    (h : List.Forall₂ (Parameter.PrintsAs labelled) parameters parameters') :
    parameterChain parameters labelled = parameterChain parameters' labelled := by
  have htexts : parameters.map (·.text labelled) = parameters'.map (·.text labelled) := by
    induction h with
    | nil => rfl
    | cons hfirst _ ih => rw [List.map_cons, List.map_cons, hfirst.text, ih]
  rw [parameterChain, parameterChain, htexts]

/-- Methods that are called alike print alike when their parameters do. -/
lemma Method.printsAs_of_parameters {method method' : Method} (hname : method.name = method'.name)
    (htype : method.type = method'.type) (howner : method.owner = method'.owner)
    (hcall : method.callKind = method'.callKind)
    (h : List.Forall₂ (Parameter.PrintsAs method.callKind.isLabelled) method.parameters
      method'.parameters) : method.PrintsAs method' := by
  have hchain := parameterChain_eq_of_printsAs h
  have hbinding : method.bindingType = method'.bindingType := by
    unfold bindingType takenType
    rw [← hcall, ← htype]
    cases hkind : method.callKind <;> rw [hkind, CallKind.isLabelled] at hchain <;>
      simp only [hchain]
  intro library
  rw [line, line, hname, hbinding, linkage, linkage, hcall, howner]

/-- A list of methods prints as the other one, line by line. -/
lemma Method.PrintsAs.map_line {methods methods' : List Method}
    (h : List.Forall₂ Method.PrintsAs methods methods') (library : String) :
    methods.map (·.line library) = methods'.map (·.line library) := by
  induction h with
  | nil => rfl
  | cons hfirst _ ih => rw [List.map_cons, List.map_cons, hfirst library, ih]

/-- Properties that print alike have the same bindings. -/
lemma Property.PrintsAs.lines_eq {property property' : Property} (h : property.PrintsAs property') :
    property.lines = property'.lines := by
  have hvalue : property.valueType = property'.valueType := by
    rw [valueType, valueType, h.type, h.optional]
  unfold lines setter getter
  rw [hvalue, h.name, h.optional]

/-- Properties that print alike make the same parameter of a maker. -/
lemma Property.PrintsAs.makerParameter_eq {property property' : Property}
    (h : property.PrintsAs property') : property.makerParameter = property'.makerParameter := by
  rw [makerParameter, makerParameter, h.name, h.type, h.optional]

/-- A list of properties prints as the other one. -/
lemma Property.PrintsAs.flatMap_lines {properties properties' : List Property}
    (h : List.Forall₂ Property.PrintsAs properties properties') :
    properties.flatMap Property.lines = properties'.flatMap Property.lines := by
  induction h with
  | nil => rfl
  | cons hfirst _ ih => rw [List.flatMap_cons, List.flatMap_cons, hfirst.lines_eq, ih]

/-- A list of properties makes the same parameters as the other one. -/
lemma Property.PrintsAs.map_makerParameter {properties properties' : List Property}
    (h : List.Forall₂ Property.PrintsAs properties properties') :
    properties.map Property.makerParameter = properties'.map Property.makerParameter := by
  induction h with
  | nil => rfl
  | cons hfirst _ ih => rw [List.map_cons, List.map_cons, hfirst.makerParameter_eq, ih]

/-- Modules whose records print alike have the same bindings. -/
lemma Module.PrintsAs.lines_eq {module module' : Module} (h : module.PrintsAs module')
    (library : String) : module.lines library = module'.lines library := by
  have hinterfaces : module.interfaces.flatMap (fun interface => interface.lines library ++ [""]) =
      module'.interfaces.flatMap fun interface => interface.lines library ++ [""] := by
    rw [← List.forall₂_eq_eq_eq]
    refine List.rel_flatMap h.interfaces fun interface interface' halike => ?_
    rw [List.forall₂_eq_eq_eq, halike.lines library]
  cases module with
  | mk name modules globals interfaces methods =>
    cases module' with
    | mk name' modules' globals' interfaces' methods' =>
      rw [lines, lines, Method.PrintsAs.map_line h.methods, hinterfaces, h.nested library]
      exact congrArg (· ++ _) (congrArg (· ++ _) (congrArg (· ++ _)
        (congrArg (List.map Variable.line) h.globals)))

/-- Modules that print alike have the same text. -/
lemma Module.PrintsAs.text_eq {module module' : Module} (h : module.PrintsAs module') :
    module.text = module'.text := by
  rw [text, text, h.name, h.lines_eq]

/-- Modules that print alike can be merged with modules that print alike. -/
lemma Module.PrintsAs.merge {first first' second second' : Module} (h : first.PrintsAs first')
    (h' : second.PrintsAs second') : (first.merge second).PrintsAs (first'.merge second') where
  name := h.name
  globals := congrArg₂ (· ++ ·) h.globals h'.globals
  methods := List.rel_append h.methods h'.methods
  interfaces := List.rel_append h.interfaces h'.interfaces
  nested library := by
    rw [Module.merge, Module.merge, nestedLines_append, nestedLines_append, h.nested, h'.nested]

end Model

end ReasonBindings
