import ReasonBindings.Grammar.Class

/-!
# Expressions

Declaration files hold few expressions: default values, enumeration values, keys
in brackets, and the bodies of functions that are written out.  From the tightest
to the loosest: operands, which are names, literals, calls and accesses; prefix
operators; binary operators by levels; conditional expressions; assignments.
-/

namespace ReasonBindings.Grammar

open Rule

/-- The words that cannot be the name of a value. -/
def reservedWords : List String :=
  ["break", "case", "catch", "class", "const", "continue", "debugger", "default", "delete", "do",
    "else", "enum", "extends", "finally", "for", "function", "if", "import", "in", "instanceof",
    "interface", "new", "return", "switch", "throw", "try", "typeof", "var", "void", "while",
    "with", "abstract"]

/-- The name of a value. -/
def valueName : Rule :=
  nameBut "identifier" reservedWords

/-! ### Literals of arrays, objects and functions -/

/-- An expression, or the items of one. -/
def spreadable (g : Grammar) : Rule :=
  choice [node "spread_element" [sign "...", g .assignment], g .assignment]

/-- The arguments of a call. -/
def arguments (g : Grammar) : Rule :=
  field "arguments" (node "arguments" [sign "(", sparse g.spreadable, sign ")"])

/-- An expression in parentheses. -/
def parenthesizedExpression (g : Grammar) : Rule :=
  node "parenthesized_expression" [sign "(", g .expression, optional g.typeAnnotation, sign ")"]

/-- A template with expressions in it. -/
def templateString (g : Grammar) : Rule :=
  template "template_string" "template_substitution" (g .expression)

/-- An array. -/
def array (g : Grammar) : Rule :=
  node "array" [sign "[", sparse g.spreadable, sign "]"]

/-- A member of an object. -/
def objectMember (g : Grammar) : Rule :=
  choice [
    node "spread_element" [sign "...", g .assignment],
    node "pair" [field "key" g.propertyName, sign ":", field "value" (g .assignment)],
    node "method_definition" [
      optional methodMark, field "name" g.propertyName, g.signature, g.functionBody],
    node "object_assignment_pattern" [
      field "left" (name "shorthand_property_identifier_pattern"),
      signBefore "=" ['=', '>'], field "right" (g .assignment)],
    name "shorthand_property_identifier"]

/-- An object. -/
def object (g : Grammar) : Rule :=
  node "object" [sign "\x7b", sparse g.objectMember, sign "\x7d"]

/-- A function as a value. -/
def functionExpression (g : Grammar) : Rule :=
  nodeOf (fun parts => if has "*" parts then "generator_function" else "function_expression") <|
    seq [
      optional (word "async"), word "function", optional (sign "*"),
      optional (field "name" (name "identifier")), g.signature, g.functionBody]

/-- A function with an arrow in front of its body. -/
def arrowFunction (g : Grammar) : Rule :=
  node "arrow_function" [
    optional (seq [word "async", onSameLine, notAhead (sign "=>")]),
    choice [
      seq [field "parameter" valueName, ahead (sign "=>")],
      seq [optional g.typeParameters, parenthesesBefore (choice [sign "=>", sign ":"]),
        g.parameters, optional g.returnAnnotation]],
    sign "=>",
    field "body" (choice [g.statementBlock, g .assignment])]

/-! ### Operands -/

/-- A new object. -/
def newExpression (g : Grammar) : Rule :=
  let constructed := grow (choice [g.parenthesizedExpression, wordNode "this", valueName])
    fun left => nodeFrom "member_expression" (left.map (Tree.filling "object"))
      [sign ".", field "property" (name "property_identifier")]
  node "new_expression" [word "new", field "constructor" constructed,
    optional g.typeArguments, optional g.arguments]

/-- What the other operands begin with. -/
def primaryExpression (g : Grammar) : Rule :=
  choice [
    wordNode "this", wordNode "super", wordNode "true", wordNode "false", wordNode "null",
    wordNode "undefined", number, string, g.templateString, regex,
    g.parenthesizedExpression, g.array, g.object, g.functionExpression, g.classExpression,
    g.newExpression, node "import" [word "import"], privateName, valueName]

/-- An expression without operators: names, literals, calls and accesses. -/
def operand (g : Grammar) : Rule :=
  grow g.primaryExpression fun left =>
    let object := left.map (Tree.filling "object")
    let function := left.map (Tree.filling "function")
    choice [
      nodeFrom "member_expression" object [
        choice [sign ".", seq [sign "?.", nextIs fun c => c == '#' || Cursor.isWordStart c]],
        field "property" (choice [privateName, name "property_identifier"])],
      nodeFrom "subscript_expression" object
        [optional (sign "?."), sign "[", field "index" (g .expression), sign "]"],
      nodeFrom "call_expression" function
        [optional (sign "?."), optional g.typeArguments, g.arguments],
      nodeFrom "call_expression" function [field "arguments" g.templateString],
      nodeFrom "non_null_expression" left [onSameLine, signBefore "!" ['=']]]

/-! ### Operators -/

/-- An operand that is counted up or down behind its value. -/
def postfixExpression (g : Grammar) : Rule :=
  g.operand.andThen fun left => choice [
    nodeFrom "update_expression" (left.map (Tree.filling "argument"))
      [onSameLine, field "operator" (anySign ["++", "--"])],
    yield left]

/-- The operators in front of an operand. -/
def prefixOperator : Rule :=
  choice [
    field "operator" (anyWord ["typeof", "void", "delete"]),
    field "operator" (anySign ["!", "~", "-", "+"])]

/-- The kind of an expression with the given operator in front. -/
def prefixedKind (operators : List Tree) : String :=
  if has "await" operators then "await_expression"
  else if has "++" operators || has "--" operators then "update_expression"
  else "unary_expression"

/-- An operator in front of an operand, or another word that stands there. -/
def prefixWord : Rule :=
  choice [
    seq [word "await", nextIs fun c => Cursor.isWordPart c || "([\x7b'\"`".toList.contains c],
    field "operator" (anySign ["++", "--"]), prefixOperator]

/-- An operand with any number of operators in front. -/
def unaryExpression (g : Grammar) : Nat → Rule
  | 0 => g.postfixExpression
  | bound + 1 => choice [
      prefixWord.andThen fun operators =>
        nodeFrom (prefixedKind operators) operators
          [field "argument" (unaryExpression g bound)],
      node "type_assertion" [g.typeArguments, unaryExpression g bound],
      g.postfixExpression]

/-- The binary operators by levels, from the loosest to the tightest, each with the characters that
would make a longer sign of it. -/
def binaryOperators : List (List (String × List Char)) := [
  [("??", ['='])],
  [("||", ['='])],
  [("&&", ['='])],
  [("|", ['|', '='])],
  [("^", ['='])],
  [("&", ['&', '='])],
  [("===", []), ("!==", []), ("==", []), ("!=", [])],
  [("<=", []), (">=", []), ("<", ['<']), (">", ['>'])],
  [(">>>", ['=']), ("<<", ['=']), (">>", ['>', '='])],
  [("+", ['+', '=']), ("-", ['-', '='])],
  [("*", ['*', '=']), ("/", ['=']), ("%", ['='])],
  [("**", ['='])]]

/-- Expressions joined by the operators of the given levels. -/
def binaryExpression (unary : Rule) : List (List (String × List Char)) → Rule
  | [] => unary
  | level :: tighter =>
    let part := binaryExpression unary tighter
    let operator := choice (level.map fun entry => signBefore entry.1 entry.2)
    grow part fun left =>
      nodeFrom "binary_expression" (left.map (Tree.filling "left"))
        [field "operator" operator, field "right" part]

/-- Expressions that are compared by words, or seen as a type. -/
def relatedExpression (g : Grammar) : Rule :=
  let part : Rule := fun cursor =>
    binaryExpression (g.unaryExpression cursor.left) binaryOperators cursor
  grow part fun left => choice [
    nodeFrom "binary_expression" (left.map (Tree.filling "left"))
      [field "operator" (anyWord ["in", "instanceof"]), field "right" part],
    nodeFrom "as_expression" left [onSameLine, word "as", choice [wordNode "const", g .type]],
    nodeFrom "satisfies_expression" left [onSameLine, word "satisfies", g .type]]

/-- An expression, or a choice between two. -/
def conditionalExpression (g : Grammar) : Rule :=
  g.relatedExpression.andThen fun condition => choice [
    nodeFrom "ternary_expression" (condition.map (Tree.filling "condition")) [
      sign "?", field "consequence" (g .assignment), sign ":",
      field "alternative" (g .assignment)],
    yield condition]

/-- The operators that change a variable. -/
def updateOperators : List String :=
  [">>>=", "**=", "&&=", "||=", "??=", "<<=", ">>=", "+=", "-=", "*=", "/=", "%=", "^=", "&=",
    "|="]

/-- An expression without commas. -/
def assignment (g : Grammar) : Rule :=
  choice [
    g.arrowFunction,
    node "yield_expression" [word "yield", optional (seq [onSameLine, optional (sign "*"),
      g .assignment])],
    g.conditionalExpression.andThen fun left => choice [
      nodeFrom "assignment_expression" (left.map (Tree.filling "left"))
        [signBefore "=" ['=', '>'], field "right" (g .assignment)],
      nodeFrom "augmented_assignment_expression" (left.map (Tree.filling "left"))
        [field "operator" (anySign updateOperators), field "right" (g .assignment)],
      yield left]]

/-- An expression. -/
def expression (g : Grammar) : Rule :=
  (separated (sign ",") (g .assignment)).andThen fun parts =>
    yield (if has "," parts then [.enclosing "sequence_expression" parts] else parts)

end ReasonBindings.Grammar
