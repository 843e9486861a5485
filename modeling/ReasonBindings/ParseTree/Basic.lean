import ReasonBindings.Syntax.Node
import ReasonBindings.Text.Blank
import ReasonBindings.Text.Utf8

/-!
# Parse trees

A parse tree says how a source text was parsed.  A node has a kind, the field of
its parent that it fills, if it fills one, and its place in the source: the first
byte, the byte after the last one, and the row of the first byte.  Named nodes
stand for constructs, the other ones for tokens such as punctuation.

Comments may stand between the children of any node; the *parts* of a node are
its named children without the comments.
-/

namespace ReasonBindings

open Syntax

/-- A node of a parse tree. -/
inductive Tree where
  | node (kind : String) (named : Bool) (field : Option String) (start stop row : Nat)
    (children : List Tree)
deriving Repr, BEq, Inhabited

namespace Tree

/-- The kind of a node. -/
def kind : Tree → String
  | node kind .. => kind

/-- Whether a node stands for a construct. -/
def named : Tree → Bool
  | node _ named .. => named

/-- The field of its parent that a node fills. -/
def field : Tree → Option String
  | node _ _ field .. => field

/-- The offset of the first byte. -/
def start : Tree → Nat
  | node _ _ _ start .. => start

/-- The offset after the last byte. -/
def stop : Tree → Nat
  | node _ _ _ _ stop .. => stop

/-- The row of the first byte, counted from zero. -/
def row : Tree → Nat
  | node _ _ _ _ _ row _ => row

/-- All children, among them tokens and comments. -/
def children : Tree → List Tree
  | node _ _ _ _ _ _ children => children

/-- Whether a node is a part of its parent: a construct that is no comment. -/
def isPart (tree : Tree) : Bool :=
  tree.named && tree.kind != "comment"

/-- The constructs that a node consists of. -/
def parts (tree : Tree) : List Tree :=
  tree.children.filter isPart

/-- The first child that fills the given field. -/
def child? (tree : Tree) (field : String) : Option Tree :=
  tree.children.find? (·.field == some field)

/-- Whether one of the children has the given kind. -/
def hasChild (tree : Tree) (kind : String) : Bool :=
  tree.children.any (·.kind == kind)

/-- The line of a node, counted from one. -/
def lineNumber (tree : Tree) : Nat :=
  tree.row + 1

/-- The line of a node as an attribute of syntax nodes. -/
def line (tree : Tree) : Line :=
  some (Int.ofNat tree.lineNumber)

/-- The source text of a node; a place outside of the source or in the middle of a character has a
text as well. -/
def text (source : ByteArray) (tree : Tree) : String :=
  Text.Utf8.decode (source.extract tree.start tree.stop).toList

/-- The identifiers of a dotted name. -/
def dottedParts (source : ByteArray) (tree : Tree) : List String :=
  Text.dottedParts (tree.text source)

/-- The child that fills the given field, or the node itself. -/
def childOrSelf (tree : Tree) (field : String) : Tree :=
  (tree.child? field).getD tree

/-- A quoted text without its quotes; any other text as it is. -/
def unquote (text : String) : String :=
  match text.toList with
  | first :: rest =>
    if !rest.isEmpty && rest.getLast? = some first && (first = '\'' || first = '"' || first = '`')
    then String.ofList rest.dropLast
    else text
  | [] => text

/-! ### Names -/

/-- The identifier that a node is. -/
def identifier (source : ByteArray) (tree : Tree) : Node :=
  .identifier tree.line (tree.text source)

/-- The identifier that a node is, if there is a node. -/
def optionalIdentifier (source : ByteArray) : Option Tree → Node
  | some tree => tree.identifier source
  | none => .absent

/-- The dotted type name that a node is. -/
def typeName (source : ByteArray) (tree : Tree) : Node :=
  match tree.dottedParts source with
  | [] => .identifier tree.line ""
  | first :: others => .dottedTypeName tree.line first others

/-- The dotted value expression that a node is. -/
def expressionName (source : ByteArray) (tree : Tree) : Node :=
  match tree.dottedParts source with
  | [] => .identifier tree.line ""
  | first :: others => .dottedExpression tree.line first others

/-- What stands in the brackets of a computed member name: a string, a dotted name, or something
else, which gives no name. -/
def keyExpression (source : ByteArray) (tree : Tree) : Node :=
  match tree.parts with
  | [] => .absent
  | inner :: _ =>
    if inner.kind = "string" then .text .stringLiteral tree.line (unquote (inner.text source))
    else if inner.kind = "identifier" || inner.kind = "member_expression" then
      inner.expressionName source
    else .absent

/-- The member name that a node is. -/
def memberName (source : ByteArray) (tree : Tree) : Node :=
  match tree.kind with
  | "string" => .text .stringLiteral tree.line (unquote (tree.text source))
  | "number" => .text .numericLiteral tree.line (tree.text source)
  | "computed_property_name" => .computedName tree.line (tree.keyExpression source)
  | _ => tree.identifier source

/-- The member name that a node is, if there is a node. -/
def optionalMemberName (source : ByteArray) : Option Tree → Node
  | some tree => tree.memberName source
  | none => .absent

/-- The tokens that are modifiers by themselves. -/
def modifierTokens : List String :=
  ["static", "readonly", "abstract", "declare", "override"]

/-- The modifier that a child is, if it is one. -/
def modifier? (source : ByteArray) (tree : Tree) : Option String :=
  if modifierTokens.contains tree.kind then some tree.kind
  else if tree.kind = "accessibility_modifier" then some (tree.text source)
  else none

/-- The modifiers among the children of a node. -/
def modifiers (source : ByteArray) (tree : Tree) : List String :=
  tree.children.filterMap (modifier? source)

/-- The type parameters that a node lists. -/
def typeParameters (source : ByteArray) (tree : Tree) : List Node :=
  (tree.parts.filter (·.kind == "type_parameter")).map fun parameter =>
    .typeParameter parameter.line (optionalIdentifier source (parameter.child? "name"))

/-- The type parameters that a node declares. -/
def declaredTypeParameters (source : ByteArray) (tree : Tree) : List Node :=
  match tree.child? "type_parameters" with
  | some list => list.typeParameters source
  | none => []

/-- The names of the members that the body of an enumeration lists. -/
def enumMembers (source : ByteArray) (tree : Tree) : List Node :=
  tree.parts.map fun member => .word ((member.childOrSelf "name").text source)

end Tree

end ReasonBindings
