import ReasonBindings.Syntax.Scope

/-!
# Types of bindings

Every type annotation has a text in the binding language.  Predefined types and
well-known library types have fixed counterparts; a named type stands for the
type `t` of the module of that name, unless it is a type parameter in scope,
which becomes a type variable; a type without counterpart becomes the anonymous
type variable.

Function types open a scope of their own, so their type parameters are visible
in their parameters and their result and nowhere else.
-/

namespace ReasonBindings

open Syntax

namespace TypeText

/-- The type of the values of a module. -/
def instanceType : String := "t"

/-- The type variable that stands for every type without counterpart. -/
def anonymous : String := "'a"

/-- What a type variable begins with. -/
def variableMark : String := "'"

/-- The type of a function without parameters takes. -/
def unit : String := "unit"

/-- The arrow between the parameters and the result of a function. -/
def arrow : String := " => "

/-- The sign between the components of a tuple. -/
def product : String := " * "

/-- The counterparts of predefined types. -/
def primitive? : String → Option String
  | "string" => some "string"
  | "number" => some "float"
  | "boolean" => some "bool"
  | "void" => some "unit"
  | "symbol" => some "Symbol"
  | _ => none

/-- The counterparts of well-known library types. -/
def wellKnown? : String → Option String
  | "Date" => some "DateTime"
  | "Object" => some "obj"
  | "Array" => some "ResizeArray"
  | "RegExp" => some "Regex"
  | "String" => some "string"
  | "Number" => some "float"
  | "Function.t" => some "(<..> => <..>)"
  | _ => none

/-- Texts in parentheses, or nothing when there are none. -/
def argumentList (texts : List String) : String :=
  if texts.isEmpty then "" else "(" ++ ", ".intercalate texts ++ ")"

/-- A function type with the given parameter types. -/
def function (parameters : List String) (result : String) : String :=
  let taken := arrow.intercalate parameters
  "(" ++ (if taken = "" then unit else taken) ++ arrow ++ result ++ ")"

/-- A case of a union of strings; cases that are no strings are left open. -/
def enumCase : Node → String
  | .text .stringLiteralType _ text => "\"" ++ text ++ "\""
  | _ => "_"

/-- The type of a union: a string with its cases in a comment when the first case is a string. -/
def union (arms : List Node) : Traced String :=
  match arms with
  | .text .stringLiteralType .. :: _ =>
    pure ("/* StringEnum " ++ " | ".intercalate (arms.map enumCase) ++ " */ string")
  | _ => do
    Traced.note (.degradedUnion arms.length)
    return anonymous

/-- A named type: `raw` is its name, `rendered` what stands for it when nothing else does. -/
def named (raw rendered : String) (arguments : String) (typeVariables : List String) : String :=
  if typeVariables.contains raw then variableMark ++ raw ++ arguments
  else ((wellKnown? raw).or (wellKnown? rendered)).getD rendered ++ arguments

end TypeText

open TypeText

mutual

/-- The text of a type annotation inside a scope. -/
def typeText (scope : Scope) : Node → Traced String
  | .keywordType _ keyword => pure ((primitive? keyword).getD anonymous)
  | .arrayType _ element => do
    return "array " ++ (← typeText scope element)
  | node@(.signature .functionType _ _ result _ _ _ parameters) => do
    let inner := scope.enter node
    let taken ← parameterTexts inner parameters
    let given ← typeText inner result
    return function taken given
  | .unionType _ arms => union arms
  | .tupleType _ elements => do
    return product.intercalate (← typeTexts scope elements)
  | .parenthesizedType _ inner => typeText scope inner
  | .bare .thisType _ => pure instanceType
  | node@(.typeReference _ name@(.text .identifier ..) arguments) => do
    let raw ← Traced.present name.text?
    let texts ← typeTexts scope arguments
    let typeVariables ← scope.visibleFrom node
    return named raw (raw ++ "." ++ instanceType) (argumentList texts) typeVariables
  | node@(.typeReference _ name@(.qualifiedName ..) arguments) => do
    let raw ← Traced.present name.text?
    let texts ← typeTexts scope arguments
    let typeVariables ← scope.visibleFrom node
    return named raw (raw ++ "." ++ instanceType) (argumentList texts) typeVariables
  | node@(.heritageType _ expression@(.text .identifier ..) arguments) => do
    let raw ← Traced.present expression.text?
    let texts ← typeTexts scope arguments
    let typeVariables ← scope.visibleFrom node
    return named raw raw (argumentList texts) typeVariables
  | node@(.heritageType _ expression@(.propertyAccess ..) arguments) => do
    let raw ← Traced.present expression.text?
    let texts ← typeTexts scope arguments
    let typeVariables ← scope.visibleFrom node
    return named raw raw (argumentList texts) typeVariables
  | _ => pure anonymous

/-- The texts of a list of type annotations. -/
def typeTexts (scope : Scope) : List Node → Traced (List String)
  | [] => pure []
  | node :: nodes => do
    let text ← typeText scope node
    let texts ← typeTexts scope nodes
    return text :: texts

/-- The texts of the parameters of a function type; a rest parameter has the anonymous type. -/
def parameterTexts (scope : Scope) : List Node → Traced (List String)
  | [] => pure []
  | .parameter _ _ type _ rest :: nodes => do
    let text ← if rest then pure anonymous else typeText scope type
    let texts ← parameterTexts scope nodes
    return text :: texts
  | _ :: _ => Traced.fault .missingAttribute

end

/-- The text of a list of type arguments. -/
def typeArgumentsText (scope : Scope) (nodes : List Node) : Traced String := do
  return argumentList (← typeTexts scope nodes)

/-- An omitted annotation has the anonymous type. -/
@[simp] theorem typeText_absent (scope : Scope) : typeText scope .absent = pure anonymous := rfl

/-- Parentheses around a type do not count. -/
@[simp] theorem typeText_parenthesizedType (scope : Scope) (line : Line) (inner : Node) :
    typeText scope (.parenthesizedType line inner) = typeText scope inner := rfl

/-- No types have no texts. -/
@[simp] theorem typeTexts_nil (scope : Scope) : typeTexts scope [] = pure [] := rfl

/-- Types are written in order. -/
theorem typeTexts_cons (scope : Scope) (node : Node) (nodes : List Node) :
    typeTexts scope (node :: nodes) = do
      let text ← typeText scope node
      let texts ← typeTexts scope nodes
      return text :: texts := rfl

end ReasonBindings
