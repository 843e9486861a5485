import ReasonBindings.Grammar.Type

/-!
# Classes

The members, the heritage and the body of a class.  A declaration file gives the
signatures of the methods; where a method is written out, its body is a block of
statements.
-/

namespace ReasonBindings.Grammar

open Rule

/-- Statements between braces. -/
def statementBlock (g : Grammar) : Rule :=
  node "statement_block" [sign "\x7b", many (g .statement), sign "\x7d"]

/-- The body of a function. -/
def functionBody (g : Grammar) : Rule :=
  field "body" g.statementBlock

/-! ### Members -/

/-- A modifier of a member of a class. -/
def classModifier : Rule :=
  modifier (choice [accessibility, overriding,
    anyWord ["declare", "static", "readonly", "abstract", "accessor"]])

/-- A block that runs when the class is defined. -/
def staticBlock (g : Grammar) : Rule :=
  node "class_static_block" [word "static", g.functionBody]

/-- The kind of a member of a class with the given parts. -/
def classMemberKind (parts : List Tree) : String :=
  if !has "formal_parameters" parts then "public_field_definition"
  else if has "statement_block" parts then "method_definition"
  else if has "abstract" parts then "abstract_method_signature"
  else "method_signature"

/-- A member of a class: a method if it has parameters, otherwise a field. -/
def classMember (g : Grammar) : Rule :=
  nodeOf classMemberKind <| seq [
    many classModifier, optional methodMark, field "name" g.propertyName,
    optional (choice [sign "?", sign "!"]),
    choice [
      seq [g.signature, optional g.functionBody],
      seq [optional g.typeAnnotation, optional g.initialValue]]]

/-- The end of a member of a class. -/
def classMemberEnd (member : List Tree) : Rule :=
  if has "method_definition" member then optional (sign ";")
  else if has "public_field_definition" member then
    choice [sign ",", terminator (if fills "value" member then .expression else .plain)]
  else choice [sign ",", terminator .signature]

/-- A member of a class behind its decorators.  The decorators of a field belong to the field, those
of a method stand in front of it. -/
def decorated (decorators : List Tree) : List Tree → List Tree
  | [member] =>
    if member.kind = "public_field_definition" then
      [.enclosing member.kind (decorators ++ member.children)]
    else decorators ++ [member]
  | members => decorators ++ members

/-- A part of the body of a class. -/
def classPart (g : Grammar) : Rule :=
  choice [
    sign ";",
    g.staticBlock,
    seq [g.indexSignature, choice [sign ",", terminator .plain]],
    (many g.decorator).andThen fun decorators => g.classMember.andThen fun member =>
      seq [yield (decorated decorators member), classMemberEnd member]]

/-- The body of a class. -/
def classBody (g : Grammar) : Rule :=
  field "body" (node "class_body" [sign "\x7b", many g.classPart, sign "\x7d"])

/-! ### Heritage -/

/-- The classes that a class extends. -/
def extendsClause (g : Grammar) : Rule :=
  node "extends_clause" [word "extends",
    separated (sign ",") (seq [field "value" (g .operand), optional g.typeArguments])]

/-- The types that a class implements. -/
def implementsClause (g : Grammar) : Rule :=
  node "implements_clause" [word "implements", separated (sign ",") (g .type)]

/-- What a class extends and implements. -/
def classHeritage (g : Grammar) : Rule :=
  node "class_heritage" [choice [
    seq [g.extendsClause, optional g.implementsClause],
    g.implementsClause]]

/-- The name of a class. -/
def className : Rule :=
  field "name" (nameBut "type_identifier" ["extends", "implements"])

/-- A class behind its name. -/
def classRest (g : Grammar) : Rule :=
  seq [optional g.typeParameters, optional g.classHeritage, g.classBody]

/-- A class as a value, which may have no name. -/
def classExpression (g : Grammar) : Rule :=
  node "class" [many g.decorator, word "class", optional className, g.classRest]

end ReasonBindings.Grammar
