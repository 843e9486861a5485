import ReasonBindings.Grammar.Token

/-!
# Signatures

Type parameters, parameters and results: what functions, methods, call signatures
and function types have in common.

The phrases of the language contain each other: a type may contain parameters,
whose default values are expressions, which may contain statements.  The rules
below are therefore stated over a *grammar*, which gives the rules of the phrases
that occur inside.
-/

namespace ReasonBindings

/-- The phrases that other phrases contain. -/
inductive Phrase where
  /-- A type. -/
  | type
  /-- A type that is no union, no intersection and no conditional type. -/
  | operandType
  /-- A name, or names that take a value apart. -/
  | pattern
  /-- An expression without operators: names, literals, calls and accesses. -/
  | operand
  /-- An expression without commas. -/
  | assignment
  /-- An expression. -/
  | expression
  /-- A statement. -/
  | statement
deriving DecidableEq

/-- The rule of every phrase. -/
abbrev Grammar := Phrase → Rule

namespace Grammar

open Rule

/-! ### Type parameters and type arguments -/

/-- A type parameter, perhaps with a constraint and a default. -/
def typeParameter (g : Grammar) : Rule :=
  node "type_parameter" [
    optional (seq [word "const", nextIs Cursor.isWordStart]),
    field "name" (name "type_identifier"),
    optional (field "constraint" (node "constraint" [word "extends", g .type])),
    optional (field "value" (node "default_type" [sign "=", g .type]))]

/-- The type parameters of a declaration. -/
def typeParameters (g : Grammar) : Rule :=
  field "type_parameters" (node "type_parameters" [sign "<", commas g.typeParameter, sign ">"])

/-- Type arguments. -/
def typeArguments (g : Grammar) : Rule :=
  field "type_arguments" (node "type_arguments" [sign "<", commas (g .type), sign ">"])

/-! ### Annotations -/

/-- A type behind a colon. -/
def typeAnnotation (g : Grammar) : Rule :=
  field "type" (node "type_annotation" [sign ":", g .type])

/-- The statement that a parameter has a type. -/
def typePredicate (g : Grammar) : Rule :=
  node "type_predicate" [
    field "name" (choice [wordNode "this", name "identifier"]),
    onSameLine, word "is", field "type" (g .type)]

/-- The statement that a function returns only if something holds. -/
def asserts (g : Grammar) : Rule :=
  node "asserts" [word "asserts", nextOnLineIs Cursor.isWordStart,
    choice [g.typePredicate, wordNode "this", name "identifier"]]

/-- The result of a function behind a colon. -/
def returnAnnotation (g : Grammar) : Rule :=
  field "return_type" (choice [
    node "asserts_annotation" [sign ":", g.asserts],
    node "type_predicate_annotation" [sign ":", g.typePredicate],
    node "type_annotation" [sign ":", g .type]])

/-! ### Patterns -/

/-- A value behind an equals sign. -/
def initialValue (g : Grammar) : Rule :=
  seq [signBefore "=" ['=', '>'], field "value" (g .assignment)]

/-- A pattern, perhaps with a default value. -/
def patternWithDefault (g : Grammar) : Rule :=
  (g .pattern).andThen fun left =>
    choice [
      nodeFrom "assignment_pattern" (left.map (Tree.filling "left"))
        [signBefore "=" ['=', '>'], field "right" (g .assignment)],
      yield left]

/-- The remaining values. -/
def restPattern (g : Grammar) : Rule :=
  node "rest_pattern" [sign "...", g .pattern]

/-- A name of a member as it may stand in any list of members. -/
def propertyName (g : Grammar) : Rule :=
  choice [
    node "computed_property_name" [sign "[", g .expression, sign "]"],
    string, number, privateName, name "property_identifier"]

/-- A member of a pattern that takes an object apart. -/
def memberPattern (g : Grammar) : Rule :=
  choice [
    g.restPattern,
    node "pair_pattern" [field "key" g.propertyName, sign ":",
      field "value" g.patternWithDefault],
    node "object_assignment_pattern" [
      field "left" (name "shorthand_property_identifier_pattern"),
      signBefore "=" ['=', '>'], field "right" (g .assignment)],
    name "shorthand_property_identifier_pattern"]

/-- A pattern that takes an object apart. -/
def objectPattern (g : Grammar) : Rule :=
  node "object_pattern" [list "\x7b" g.memberPattern "\x7d"]

/-- A pattern that takes an array apart. -/
def arrayPattern (g : Grammar) : Rule :=
  node "array_pattern" [sign "[", sparse g.patternWithDefault, sign "]"]

/-- A name, or names that take a value apart. -/
def pattern (g : Grammar) : Rule :=
  choice [g.restPattern, g.objectPattern, g.arrayPattern, name "identifier"]

/-! ### Parameters -/

/-- The call that a decorator makes. -/
def decoratorCall (g : Grammar) : Rule :=
  grow (choice [
      name "identifier",
      node "parenthesized_expression" [sign "(", g .expression, sign ")"]])
    fun left => choice [
      nodeFrom "member_expression" (left.map (Tree.filling "object"))
        [sign ".", field "property" (name "property_identifier")],
      nodeFrom "call_expression" (left.map (Tree.filling "function")) [
        optional g.typeArguments,
        field "arguments" (node "arguments" [list "(" (g .assignment) ")"])]]

/-- A decorator. -/
def decorator (g : Grammar) : Rule :=
  field "decorator" (node "decorator" [sign "@", g.decoratorCall])

/-- Who may use a member. -/
def accessibility : Rule :=
  node "accessibility_modifier" [anyWord ["public", "private", "protected"]]

/-- The mark of a member that replaces an inherited one. -/
def overriding : Rule :=
  node "override_modifier" [word "override"]

/-- Whether a pattern may begin with the character. -/
def startsPattern (c : Char) : Bool :=
  Cursor.isWordStart c || c == '\x7b' || c == '[' || c == '.'

/-- A modifier of a parameter. -/
def parameterModifier : Rule :=
  seq [choice [accessibility, overriding, word "readonly"], nextIs startsPattern]

/-- A parameter. -/
def parameter (g : Grammar) : Rule :=
  nodeOf (fun parts => if has "?" parts then "optional_parameter" else "required_parameter") <|
    seq [
      many g.decorator, many parameterModifier,
      field "pattern" (choice [wordNode "this", g .pattern]),
      optional (sign "?"), optional g.typeAnnotation, optional g.initialValue]

/-- A list of parameters. -/
def parameters (g : Grammar) : Rule :=
  field "parameters" (node "formal_parameters" [list "(" g.parameter ")"])

/-- Type parameters, parameters and result of a function. -/
def signature (g : Grammar) : Rule :=
  seq [optional g.typeParameters, g.parameters, optional g.returnAnnotation]

end Grammar

end ReasonBindings
