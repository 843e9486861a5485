import ReasonBindings.Layout
import ReasonBindings.Model.Record
import ReasonBindings.Text.UpperCase
import ReasonBindings.Traced
import ReasonBindings.TypeText

/-!
# Printed bindings

Each record has its bindings.  A variable and a method are one line, a property is
a setter, a getter and an empty line, an interface is a block with an opaque type
`t`, and a nested module is a block with the bindings of its records.  The library
name, which is the name of the whole file, appears in the bindings of
constructors and nowhere else.

Call templates are not printed: every member has the plain binding of its kind,
and a method whose template is ignored is reported.
-/

namespace ReasonBindings.Model

open Layout

/-- The binding of a variable. -/
def Variable.line (value : Variable) : String :=
  "external " ++ value.name ++ " : " ++ value.type ++ " = \"\" [@@bs.val];"

/-- The type of a parameter, with a label when it has a name and the label is wanted or needed. -/
def Parameter.text (parameter : Parameter) (labelled : Bool) : String :=
  if (labelled || parameter.optional) && parameter.name != "" then
    (if parameter.optional then "?" else "") ++ parameter.name ++ "::" ++ parameter.type
  else parameter.type

/-- The types of parameters with arrows between them. -/
def parameterChain (parameters : List Parameter) (labelled : Bool) : String :=
  TypeText.arrow.intercalate (parameters.map (·.text labelled))

/-- The types of parameters with arrows between them, or the unit type when that is nothing. -/
def takenType (parameters : List Parameter) (labelled : Bool) : String :=
  let chain := parameterChain parameters labelled
  if chain = "" then TypeText.unit else chain

/-- How a method is called. -/
inductive CallKind where
  /-- A constructor of a class. -/
  | constructor
  /-- A maker of an object. -/
  | maker
  /-- A method with a receiver. -/
  | receiver
  /-- A function without receiver. -/
  | plain
deriving Repr, BEq, DecidableEq

/-- How a method is called. -/
def Method.callKind (method : Method) : CallKind :=
  if method.ctor then .constructor
  else if method.maker then .maker
  else if method.static then .plain
  else .receiver

/-- The type in the binding of a method. -/
def Method.bindingType (method : Method) : String :=
  match method.callKind with
  | .constructor | .maker =>
    takenType method.parameters true ++ TypeText.arrow ++ TypeText.instanceType
  | .receiver =>
    let chain := parameterChain method.parameters false
    TypeText.instanceType ++ (if chain = "" then "" else TypeText.arrow ++ chain) ++
      TypeText.arrow ++ method.type
  | .plain => takenType method.parameters false ++ TypeText.arrow ++ method.type

/-- What follows the type in the binding of a method. -/
def Method.linkage (method : Method) (library : String) : String :=
  match method.callKind with
  | .constructor =>
    "\"" ++ method.owner ++ "\" [@@bs.new] [@@bs.module \"" ++ library ++ "\"];"
  | .maker => "\"\" [@@bs.obj];"
  | .receiver => "\"\" [@@bs.send];"
  | .plain => "\"\";"

/-- The binding of a method. -/
def Method.line (method : Method) (library : String) : String :=
  "external " ++ method.name ++ " : " ++ method.bindingType ++ " = " ++ method.linkage library

/-- The type of the values of a property. -/
def Property.valueType (property : Property) : String :=
  (if property.optional then "option " else "") ++ property.type

/-- The binding that sets a property. -/
def Property.setter (property : Property) : String :=
  "external set" ++ Text.capitalize property.name ++ " : " ++ TypeText.instanceType ++
    TypeText.arrow ++ property.valueType ++ TypeText.arrow ++ "unit = \"" ++ property.name ++
    "\" [@@bs.set];"

/-- The binding that gets a property. -/
def Property.getter (property : Property) : String :=
  "external get" ++ Text.capitalize property.name ++ " : " ++ TypeText.instanceType ++
    TypeText.arrow ++ property.valueType ++ " = \"" ++ property.name ++ "\" [@@bs.get]" ++
    (if property.optional then " [@@bs.return null_undefined_to_opt]" else "") ++ ";"

/-- The bindings of a property, with an empty line after them. -/
def Property.lines (property : Property) : List String :=
  [property.setter, property.getter, ""]

/-- The opening of the block for a module. -/
def moduleHeader (name : String) : String := "let module " ++ name

/-- The lines between the braces of an interface. -/
def Interface.bodyLines (interface : Interface) (library : String) : List String :=
  ("type " ++ TypeText.instanceType ++ ";") :: "" ::
    (interface.methods.map (·.line library) ++ interface.properties.flatMap Property.lines)

/-- The bindings of an interface. -/
def Interface.lines (interface : Interface) (library : String) : List String :=
  block (moduleHeader interface.name) false (interface.bodyLines library)

mutual

/-- The bindings of the records of a module. -/
def Module.lines (library : String) : Module → List String
  | ⟨_, modules, globals, interfaces, methods⟩ =>
    globals.map Variable.line ++ methods.map (·.line library) ++
      interfaces.flatMap (fun interface => interface.lines library ++ [""]) ++
      nestedLines library modules

/-- The blocks of nested modules, each with an empty line after it. -/
def nestedLines (library : String) : List Module → List String
  | [] => []
  | inner :: others =>
    block (moduleHeader inner.name) true (inner.lines library) ++ "" :: nestedLines library others

end

/-- The methods of an interface whose templates are not printed. -/
def Interface.ignoredTemplates (interface : Interface) : List Notice :=
  interface.methods.filterMap fun method =>
    match method.template with
    | none => none
    | some template =>
      if template = "" then none
      else some (.ignoredTemplate interface.name method.name template)

mutual

/-- The notices of printing a module. -/
def Module.ignoredTemplates : Module → List Notice
  | ⟨_, modules, _, interfaces, _⟩ =>
    interfaces.flatMap Interface.ignoredTemplates ++ nestedIgnoredTemplates modules

/-- The notices of printing nested modules. -/
def nestedIgnoredTemplates : List Module → List Notice
  | [] => []
  | inner :: others => inner.ignoredTemplates ++ nestedIgnoredTemplates others

end

/-- The text of the bindings of a whole file. -/
def Module.text (root : Module) : String :=
  unlines (root.lines root.name)

/-- Prints the bindings of a whole file; this always succeeds. -/
def Module.print (root : Module) : Traced String :=
  ⟨root.ignoredTemplates, .ok root.text⟩

/-- No modules have no lines. -/
@[simp] theorem nestedLines_nil (library : String) : nestedLines library [] = [] := rfl

/-- Nested modules are printed in order. -/
theorem nestedLines_cons (library : String) (inner : Module) (others : List Module) :
    nestedLines library (inner :: others) =
      block (moduleHeader inner.name) true (inner.lines library) ++
        "" :: nestedLines library others := rfl

end ReasonBindings.Model
