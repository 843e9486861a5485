import ReasonBindings.Grammar.Signature

/-!
# Members of object types

The members of interfaces and of object types: properties, methods, call and
construct signatures, and index signatures.

Words such as `static` or `get` are modifiers only when the name of a member
follows on the same line; otherwise they are the name.
-/

namespace ReasonBindings.Grammar

open Rule

/-! ### Modifiers -/

/-- Whether the name of a member may begin with the character. -/
def startsMemberName (c : Char) : Bool :=
  Cursor.isWordStart c || c.isDigit || "'\"[#".toList.contains c

/-- A modifier in front of the name of a member. -/
def modifier (rule : Rule) : Rule :=
  seq [rule, nextOnLineIs startsMemberName]

/-- The modifiers of a member of an object type. -/
def memberModifier : Rule :=
  modifier (choice [accessibility, overriding, anyWord ["static", "readonly"]])

/-- The mark of a method of a special kind. -/
def methodMark : Rule :=
  choice [
    seq [word "async", nextOnLineIs fun c => startsMemberName c || c == '*', optional (sign "*")],
    modifier (anyWord ["get", "set"]),
    sign "*"]

/-! ### Index signatures -/

/-- The binding of a name to each of several keys. -/
def mappedTypeClause (g : Grammar) : Rule :=
  node "mapped_type_clause" [
    field "name" (name "type_identifier"), word "in", field "type" (g .type),
    optional (seq [word "as", field "alias" (g .type)])]

/-- A type behind a colon, with a sign that makes the members optional or not. -/
def memberAnnotation (g : Grammar) : Rule :=
  field "type" (choice [
    node "type_annotation" [sign ":", g .type],
    node "opting_type_annotation" [sign "?:", g .type],
    node "omitting_type_annotation" [sign "-?:", g .type],
    node "adding_type_annotation" [sign "+?:", g .type]])

/-- The type of the members that share a type of keys. -/
def indexSignature (g : Grammar) : Rule :=
  node "index_signature" [
    optional (seq [
      optional (field "sign" (anySign ["-", "+"])), word "readonly"]),
    sign "[",
    choice [
      seq [field "name" (name "identifier"), sign ":", field "index_type" (g .type)],
      g.mappedTypeClause],
    sign "]",
    g.memberAnnotation]

/-! ### Members -/

/-- A signature without a name. -/
def callSignature (g : Grammar) : Rule :=
  node "call_signature" [g.signature]

/-- The signature of a constructor. -/
def constructSignature (g : Grammar) : Rule :=
  node "construct_signature" [
    optional (word "abstract"), word "new", optional g.typeParameters, g.parameters,
    optional g.typeAnnotation]

/-- A member with a name, which is a method if it has parameters. -/
def namedMember (g : Grammar) : Rule :=
  nodeOf (fun parts =>
      if has "formal_parameters" parts then "method_signature" else "property_signature") <|
    seq [
      many memberModifier, optional methodMark, field "name" g.propertyName, optional (sign "?"),
      choice [g.signature, optional g.typeAnnotation]]

/-- A member of an object type. -/
def member (g : Grammar) : Rule :=
  choice [g.constructSignature, g.callSignature, g.indexSignature, g.namedMember]

/-- The end of a member. -/
def memberEnd : Rule :=
  choice [sign ",", terminator .plain]

/-- The members of an object type between braces. -/
def memberList (g : Grammar) : Rule :=
  seq [sign "\x7b", optional (sign ","), many (sign ";"),
    many (seq [g.member, choice [memberEnd, ahead (sign "\x7d")], many (sign ";")]), sign "\x7d"]

/-- An object type. -/
def objectType (g : Grammar) : Rule :=
  node "object_type" [g.memberList]

/-- The body of an interface. -/
def interfaceBody (g : Grammar) : Rule :=
  node "interface_body" [g.memberList]

end ReasonBindings.Grammar
