import ReasonBindings.Syntax.Node
import ReasonBindings.Traced

/-!
# Scopes of type parameters

A scope is the chain of declarations around a node, outermost first.  The type
parameters that a node can refer to are its own followed by those of the
declarations around it, from the innermost outwards.
-/

namespace ReasonBindings.Syntax

/-- The declarations around a node, outermost first. -/
structure Scope where
  enclosing : List Node
deriving Repr, BEq

namespace Scope

/-- The scope outside of every declaration. -/
def empty : Scope := ⟨[]⟩

/-- The scope inside a declaration. -/
def enter (scope : Scope) (node : Node) : Scope :=
  ⟨scope.enclosing ++ [node]⟩

end Scope

/-- The name of a declared type parameter, which must have one. -/
def Node.parameterName (node : Node) : Traced String := do
  let name ← Traced.present node.name?
  Traced.present name.text?

/-- The names of the type parameters that a node declares itself. -/
def Node.ownTypeParameters (node : Node) : Traced (List String) :=
  match node.typeParameters? with
  | none => pure []
  | some parameters => Traced.all (parameters.map Node.parameterName)

namespace Scope

/-- The names of the type parameters of a list of declarations, in the order of the list. -/
def declaredBy (declarations : List Node) : Traced (List String) := do
  return (← Traced.all (declarations.map Node.ownTypeParameters)).flatten

/-- The names of the type parameters visible from a node inside the scope. -/
def visibleFrom (scope : Scope) (node : Node) : Traced (List String) :=
  declaredBy (node :: scope.enclosing.reverse)

/-- Entering adds the innermost declaration. -/
@[simp] theorem enclosing_enter (scope : Scope) (node : Node) :
    (scope.enter node).enclosing = scope.enclosing ++ [node] := rfl

end Scope

end ReasonBindings.Syntax
