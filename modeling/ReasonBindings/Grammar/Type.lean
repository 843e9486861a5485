import ReasonBindings.Grammar.Member

/-!
# Types

Types in the order in which they bind: names, literals and bracketed types with
the array brackets behind them, the types with a word in front, intersections,
unions, and conditional types.  The result of a function type reaches as far as a
type can.
-/

namespace ReasonBindings.Grammar

open Rule

/-! ### Names -/

/-- The node of a type name, given its first identifier and the dots and identifiers behind it. -/
def qualifiedName : List Tree → List Tree → List Tree
  | left, [dot, last] =>
    [.enclosing "nested_type_identifier" (left.map (Tree.filling "module") ++
      [dot, (last.renamed "type_identifier").filling "name"])]
  | left, dot :: next :: others =>
    qualifiedName [.enclosing "nested_identifier" (left.map (Tree.filling "object") ++
      [dot, (next.renamed "property_identifier").filling "property"])] others
  | left, _ => left.map (Tree.renamed "type_identifier")

/-- A name of a type, perhaps in a namespace. -/
def typeName : Rule :=
  (name "identifier").andThen fun first =>
    (many (seq [sign ".", name "identifier"])).andThen fun others =>
      yield (qualifiedName first others)

/-- A name of a type, perhaps with type arguments. -/
def typeReference (g : Grammar) : Rule :=
  typeName.andThen fun trees => choice [
    nodeFrom "generic_type" (trees.map (Tree.filling "name")) [g.typeArguments],
    yield trees]

/-! ### Types that stand by themselves -/

/-- The words that are types. -/
def predefinedType : Rule :=
  choice [
    node "predefined_type" [anyWord ["any", "number", "boolean", "string", "symbol", "void",
      "unknown", "never", "object"], notAhead (signBefore "." ['.'])],
    node "predefined_type" [word "unique", word "symbol"]]

/-- The keyword `this` as a type. -/
def thisType : Rule :=
  leaf "this_type" true fun cursor =>
    if cursor.wordChars = "this".toList then cursor.word? else none

/-- A literal as a type. -/
def literalType : Rule :=
  node "literal_type" [choice [
    node "unary_expression" [field "operator" (anySign ["-", "+"]), field "argument" number],
    number, string, wordNode "true", wordNode "false", wordNode "null", wordNode "undefined"]]

/-- Another file as a value. -/
def importCall (g : Grammar) : Rule :=
  node "call_expression" [
    field "function" (node "import" [word "import"]),
    field "arguments" (node "arguments" [list "(" (g .assignment) ")"])]

/-- The value whose type is asked for. -/
def queriedValue (g : Grammar) : Rule :=
  grow (choice [g.importCall, wordNode "this", name "identifier"]) fun left => choice [
    nodeFrom "member_expression" (left.map (Tree.filling "object"))
      [choice [sign ".", sign "?."],
        field "property" (choice [privateName, name "property_identifier"])],
    nodeFrom "subscript_expression" (left.map (Tree.filling "object"))
      [nextOnLineIs (· == '['), sign "[", field "index" (choice [string, number]), sign "]"]]

/-- The type of a value. -/
def typeQuery (g : Grammar) : Rule :=
  node "type_query" [word "typeof", g.queriedValue.andThen fun trees => choice [
    nodeFrom "instantiation_expression" trees [g.typeArguments],
    yield trees]]

/-- A type of another file. -/
def importedType (g : Grammar) : Rule :=
  (grow g.importCall fun left =>
    nodeFrom "member_expression" (left.map (Tree.filling "object"))
      [sign ".", field "property" (name "property_identifier")]).andThen fun trees => choice [
    nodeFrom "generic_type" (trees.map (Tree.filling "name")) [g.typeArguments],
    yield trees]

/-- An item of a tuple type. -/
def tupleItem (g : Grammar) : Rule :=
  choice [
    node "rest_type" [sign "...", notAhead (seq [name "identifier", sign ":"]), g .type],
    node "optional_parameter" [field "pattern" (name "identifier"), sign "?", g.typeAnnotation],
    node "required_parameter" [
      field "pattern" (choice [node "rest_pattern" [sign "...", name "identifier"],
        name "identifier"]),
      g.typeAnnotation],
    (g .type).andThen fun trees => choice [
      nodeFrom "optional_type" trees [sign "?"],
      yield trees]]

/-- A tuple type. -/
def tupleType (g : Grammar) : Rule :=
  node "tuple_type" [sign "[", sparse g.tupleItem, sign "]"]

/-- A type in parentheses. -/
def parenthesizedType (g : Grammar) : Rule :=
  node "parenthesized_type" [sign "(", g .type, sign ")"]

/-- A template of which every instance belongs to the type. -/
def templateType (g : Grammar) : Rule :=
  template "template_literal_type" "template_type" (g .type)

/-- A type that stands by itself. -/
def closedType (g : Grammar) : Rule :=
  choice [
    g.parenthesizedType, g.objectType, g.tupleType, literalType, g.templateType, g.typeQuery,
    g.importedType, node "existential_type" [sign "*"], thisType, predefinedType,
    g.typeReference]

/-- A type that stands by itself, with the array brackets and indices behind it. -/
def suffixedType (g : Grammar) : Rule :=
  grow g.closedType fun left =>
    seq [nextOnLineIs (· == '['), choice [
      nodeFrom "array_type" left [sign "[", sign "]"],
      nodeFrom "lookup_type" left [sign "[", g .type, sign "]"]]]

/-! ### Function types and types with a word in front -/

/-- A function type. -/
def functionType (g : Grammar) : Rule :=
  node "function_type" [
    optional g.typeParameters, parenthesesBefore (sign "=>"), g.parameters, sign "=>",
    field "return_type" (choice [g.asserts, g.typePredicate, g .type])]

/-- The type of a constructor. -/
def constructorType (g : Grammar) : Rule :=
  node "constructor_type" [
    optional (word "abstract"), word "new", optional g.typeParameters, g.parameters, sign "=>",
    field "type" (g .operandType)]

/-- The keys of a type. -/
def indexTypeQuery (g : Grammar) : Rule :=
  node "index_type_query" [word "keyof", g .operandType]

/-- A type whose values cannot be changed. -/
def readonlyType (g : Grammar) : Rule :=
  node "readonly_type" [word "readonly", g .type]

/-- A type variable that a conditional type introduces. -/
def inferType (g : Grammar) : Rule :=
  node "infer_type" [word "infer", name "type_identifier",
    optional (seq [word "extends", g .operandType, notAhead (sign "?")])]

/-- A type that is no union, no intersection and no conditional type. -/
def operandType (g : Grammar) : Rule :=
  choice [
    seq [nextIs "(<".toList.contains, g.functionType],
    g.constructorType, g.indexTypeQuery, g.readonlyType, g.inferType, g.suffixedType]

/-! ### Intersections, unions and conditional types -/

/-- Types joined by a sign, which may also stand in front of the first one. -/
def joinedTypes (kind : String) (joint part : Rule) : Rule :=
  grow (choice [node kind [joint, part], part]) fun left => nodeFrom kind left [joint, part]

/-- An intersection, or a type that binds tighter. -/
def intersectionType (g : Grammar) : Rule :=
  joinedTypes "intersection_type" (signBefore "&" ['&']) g.operandType

/-- A union, or a type that binds tighter. -/
def unionType (g : Grammar) : Rule :=
  joinedTypes "union_type" (signBefore "|" ['|']) g.intersectionType

/-- A type. -/
def type (g : Grammar) : Rule :=
  g.unionType.andThen fun left => choice [
    nodeFrom "conditional_type" (left.map (Tree.filling "left")) [
      onSameLine, word "extends", field "right" g.unionType,
      sign "?", field "consequence" (g .type), sign ":", field "alternative" (g .type)],
    yield left]

end ReasonBindings.Grammar
