import ReasonBindings.Syntax.Node
import ReasonBindings.Traced

/-!
# Declared names

The name a declaration stands for.  Names are looked for inside the name of a
declaration until something with a text is found; a name in brackets stands for
the expression in the brackets.  A name may be missing, and then the declaration
is reported and called by the empty text.
-/

namespace ReasonBindings.Syntax.Node

/-- The text of a node, which must have one. -/
def nameText (node : Node) : Traced (Option String) := do
  return some (← Traced.present node.text?)

/-- The name that a declaration or a name stands for, if it has one. -/
def declaredName : Node → Traced (Option String)
  | absent => pure none
  | computedName _ expression => expression.declaredName
  | node@(propertyAccess ..) => node.nameText
  | node@(qualifiedName ..) => node.nameText
  | text .identifier _ name | text .stringLiteral _ name | text .numericLiteral _ name =>
    pure (some name)
  | typeParameter _ name | parameter _ name .. | field _ _ name .. | signature _ _ name .. |
    interfaceDecl _ name .. | classDecl _ name .. | aliasDecl _ name .. | variableDecl _ name _ |
    enumDecl _ name _ | namespaceDecl _ name _ => name.declaredName
  | _ => pure none

/-- The name of a declaration, or the empty text together with a warning. -/
def requiredName (node : Node) : Traced String := do
  match ← node.declaredName with
  | some name => return name
  | none =>
    let line ← Traced.present node.line?
    Traced.note (.unnamed node.className line)
    return ""

/-- An omitted name is no name. -/
@[simp] theorem declaredName_absent : declaredName absent = pure none := rfl

/-- An identifier is its own name. -/
@[simp] theorem declaredName_identifier (line : Line) (name : String) :
    declaredName (identifier line name) = pure (some name) := rfl

/-- Brackets stand for what is in them. -/
@[simp] theorem declaredName_computedName (line : Line) (expression : Node) :
    declaredName (computedName line expression) = declaredName expression := rfl

end ReasonBindings.Syntax.Node
