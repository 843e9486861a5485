import Mathlib.Tactic.Lemma
import ReasonBindings.Model.Build
import ReasonBindings.Proofs.Syntax.Texts

/-!
# Statements and namespaces

A namespace has a body, which is a list of statements between braces, another
namespace, or nothing.  In each case the record of the namespace is what some list
of statements adds to it, so there is one recursion on lists of statements: the
first statement is a namespace, whose body is again a list of statements, or it
holds no other statements.
-/

namespace ReasonBindings

open Syntax

/-- The statements of a namespace with the given body. -/
def Syntax.Node.bodyStatements : Node → List Node
  | .block _ statements => statements
  | .namespaceDecl line name body => [.namespaceDecl line name body]
  | _ => []

/-- What holds of a body and of the nodes that it consists of holds of its statements. -/
lemma Syntax.Node.forall_bodyStatements {property : Node → Prop} {body : Node}
    (hbody : property body) (hchildren : ∀ child ∈ body.children, property child) :
    ∀ node ∈ body.bodyStatements, property node := by
  cases body with
  | block line statements => exact hchildren
  | namespaceDecl line name inner => exact List.forall_mem_singleton.mpr hbody
  | _ => exact fun _ hmem => nomatch hmem

namespace Model

/-- Reports a namespace that has no body. -/
def noteBodiless (owner : String) : Node → Traced Unit
  | .absent => Traced.note (.bodilessNamespace owner)
  | _ => pure ()

/-! ### Equations -/

/-- No statements add nothing. -/
lemma statementsOf_nil (scope : Scope) (owner : String) :
    statementsOf scope owner [] = pure (.empty owner) := rfl

/-- Statements add their records one after another. -/
lemma statementsOf_cons (scope : Scope) (owner : String) (node : Node) (nodes : List Node) :
    statementsOf scope owner (node :: nodes) = (do
      let first ← statementOf scope owner node
      first.merge <$> statementsOf scope owner nodes) := rfl

/-- A statement without a body holds no other statements. -/
lemma statementOf_simple {node : Node} (h : node.body? = none) (scope : Scope) (owner : String) :
    statementOf scope owner node = simpleStatementOf scope owner node := by
  cases node with
  | namespaceDecl line name body => cases h
  | _ => rfl

/-- A module to which a single nested module is added. -/
lemma statementsOf_singleton (scope : Scope) (owner : String) (node : Node) :
    statementsOf scope owner [node] =
      (·.merge (.empty owner)) <$> statementOf scope owner node := by
  rw [statementsOf_cons, statementsOf_nil, ← Traced.bind_pure_comp]
  rfl

/-- The record of a namespace is what the statements of its body add. -/
lemma namespaceBodyOf_eq (scope : Scope) (owner : String) (body : Node) :
    namespaceBodyOf scope owner body = (do
      noteBodiless owner body
      statementsOf scope owner body.bodyStatements) := by
  cases body with
  | absent => rfl
  | namespaceDecl line name body =>
    rw [Node.bodyStatements, statementsOf_singleton, ← Traced.bind_pure_comp]
    simp only [noteBodiless, Traced.pure_bind, statementOf, namespaceBodyOf, Traced.bind_assoc]
    simp [Module.merge, Module.empty]
  | _ => rfl

/-- A namespace adds a nested module with what the statements of its body add. -/
lemma statementOf_namespaceDecl (scope : Scope) (owner : String) (line : Line) (name body : Node) :
    statementOf scope owner (.namespaceDecl line name body) = (do
      let inner ← (Node.namespaceDecl line name body).requiredName
      noteBodiless inner body
      let built ← statementsOf (scope.enter (.namespaceDecl line name body)) inner
        body.bodyStatements
      return { name := owner, modules := [built] }) := by
  rw [statementOf]
  simp only [namespaceBodyOf_eq, Traced.bind_assoc]

/-! ### Induction -/

/-- **Induction along statements.**  A list of statements is empty, begins with a statement that
holds no others, or begins with a namespace. -/
theorem statements_induction {motive : List Node → Prop} (nil : motive [])
    (simple : ∀ node nodes, node.body? = none → motive nodes → motive (node :: nodes))
    (namespaceDecl : ∀ line name body nodes, motive body.bodyStatements → motive nodes →
      motive (.namespaceDecl line name body :: nodes))
    (statements : List Node) : motive statements := by
  induction hsize : sizeOf statements using Nat.strongRecOn generalizing statements with
  | _ size ih =>
    subst hsize
    cases statements with
    | nil => exact nil
    | cons node nodes =>
      have hnodes : motive nodes := ih _ (by decreasing_tactic) nodes rfl
      cases hbody : node.body? with
      | none => exact simple node nodes hbody hnodes
      | some body =>
        cases node with
        | namespaceDecl line name body =>
          have hsmaller : sizeOf body.bodyStatements <
              sizeOf (Node.namespaceDecl line name body :: nodes) := by
            have hpositive : 0 < sizeOf nodes := by
              cases nodes with
              | nil => decide
              | cons first rest =>
                rw [List.cons.sizeOf_spec]
                omega
            cases body <;> simp [Node.bodyStatements] <;> omega
          exact namespaceDecl line name body nodes (ih _ hsmaller _ rfl) hnodes
        | _ => cases hbody

end Model

end ReasonBindings
