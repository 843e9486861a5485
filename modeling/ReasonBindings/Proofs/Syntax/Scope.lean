import ReasonBindings.Proofs.Traced.Outcome
import ReasonBindings.Syntax.Scope

/-!
# Names in scope

All that is ever asked about a scope is whether a name is that of a type parameter
in scope.  Where every type parameter has a name, the answer is yes exactly when a
declaration of the scope declares the name, and it does not depend on the order of
the declarations; where some type parameter has none, the question has no answer.
-/

namespace ReasonBindings

open Syntax

/-! ### Declared names -/

namespace Syntax.Node

/-- The name of a type parameter, if it has one. -/
def parameterName? (node : Node) : Option String :=
  node.name?.bind text?

/-- The names of the type parameters that a node declares. -/
def typeParameterNames (node : Node) : List String :=
  (node.typeParameters?.getD []).filterMap parameterName?

/-- Every type parameter that a node declares has a name. -/
def NamesTypeParameters (node : Node) : Prop :=
  ∀ parameter ∈ node.typeParameters?.getD [], parameter.parameterName?.isSome

instance (node : Node) : Decidable node.NamesTypeParameters :=
  inferInstanceAs (Decidable (∀ parameter ∈ _, _))

/-- Reading the name of a type parameter is looking the name up. -/
lemma parameterName_eq (node : Node) :
    node.parameterName = Traced.present node.parameterName? := by
  unfold parameterName parameterName?
  cases node.name? <;> rfl

/-- A node whose type parameters have names declares these names. -/
lemma ownTypeParameters_of_named {node : Node} (h : node.NamesTypeParameters) :
    node.ownTypeParameters = pure node.typeParameterNames := by
  unfold ownTypeParameters typeParameterNames
  unfold NamesTypeParameters at h
  cases hparameters : node.typeParameters? with
  | none => rfl
  | some parameters =>
    simp only [hparameters, Option.getD_some] at h ⊢
    have hnames : parameters.map parameterName =
        parameters.map fun parameter => pure (parameter.parameterName?.getD "") := by
      refine List.map_congr_left fun parameter hmem => ?_
      obtain ⟨name, hname⟩ := Option.isSome_iff_exists.mp (h parameter hmem)
      rw [parameterName_eq, hname]
      rfl
    have hfilter : parameters.map (fun parameter => parameter.parameterName?.getD "") =
        parameters.filterMap parameterName? := by
      rw [← List.filterMap_eq_map]
      refine List.filterMap_congr fun parameter hmem => ?_
      obtain ⟨name, hname⟩ := Option.isSome_iff_exists.mp (h parameter hmem)
      simp [hname]
    rw [hnames, Traced.all_map_pure, hfilter]

/-- A node with a type parameter that has no name cannot be asked for its type parameters. -/
lemma ownTypeParameters_of_not_named {node : Node} (h : ¬ node.NamesTypeParameters) :
    node.ownTypeParameters = Traced.fault .missingAttribute := by
  unfold ownTypeParameters
  unfold NamesTypeParameters at h
  cases hparameters : node.typeParameters? with
  | none => simp [hparameters] at h
  | some parameters =>
    simp only [hparameters, Option.getD_some, not_forall] at h ⊢
    obtain ⟨parameter, hmem, hname⟩ := h
    refine Traced.all_map_eq_fault (fun other _ => ?_) ⟨parameter, hmem, ?_⟩
    · rw [parameterName_eq]
      cases other.parameterName? with
      | none => exact Or.inr rfl
      | some name => exact Or.inl ⟨name, rfl⟩
    · rw [parameterName_eq, Option.not_isSome_iff_eq_none.mp hname]
      rfl

end Syntax.Node

/-! ### Scopes as answers -/

namespace Syntax.Scope

/-- A declaration of the scope declares a type parameter of the given name. -/
def Declares (scope : Scope) (name : String) : Prop :=
  ∃ declaration ∈ scope.enclosing, name ∈ declaration.typeParameterNames

instance (scope : Scope) (name : String) : Decidable (scope.Declares name) :=
  inferInstanceAs (Decidable (∃ declaration ∈ _, _))

/-- Every type parameter in the scope has a name. -/
def Named (scope : Scope) : Prop :=
  ∀ declaration ∈ scope.enclosing, declaration.NamesTypeParameters

instance (scope : Scope) : Decidable scope.Named :=
  inferInstanceAs (Decidable (∀ declaration ∈ _, _))

/-- The scope inside several declarations, the first of which is the outermost one. -/
def enterAll (scope : Scope) (declarations : List Node) : Scope :=
  declarations.foldl enter scope

/-- Entering declarations puts them inside the others. -/
lemma enclosing_enterAll (scope : Scope) (declarations : List Node) :
    (scope.enterAll declarations).enclosing = scope.enclosing ++ declarations := by
  unfold enterAll
  induction declarations generalizing scope with
  | nil => simp
  | cons declaration declarations ih => simp [ih]

/-- A node without type parameters sees what the scope declares. -/
lemma visibleFrom_eq {node : Node} (h : node.typeParameters? = none) (scope : Scope) :
    scope.visibleFrom node = declaredBy scope.enclosing.reverse := by
  have hown : node.ownTypeParameters = pure [] := by
    unfold Node.ownTypeParameters
    rw [h]
  simp only [visibleFrom, declaredBy, List.map_cons, Traced.all, hown, Traced.pure_bind,
    ← Traced.bind_pure_comp, Traced.bind_assoc, List.flatten_cons, List.nil_append]

/-- Whether a name is that of a type parameter in scope. -/
def resolves (scope : Scope) (name : String) : Traced Bool := do
  return (← declaredBy scope.enclosing.reverse).contains name

/-- Where every type parameter has a name, the declared names are found. -/
lemma resolves_of_named {scope : Scope} (h : scope.Named) (name : String) :
    scope.resolves name = pure (decide (scope.Declares name)) := by
  have hdeclared : declaredBy scope.enclosing.reverse =
      pure (scope.enclosing.reverse.map Node.typeParameterNames).flatten := by
    have hown : scope.enclosing.reverse.map Node.ownTypeParameters =
        scope.enclosing.reverse.map fun declaration => pure declaration.typeParameterNames := by
      refine List.map_congr_left fun declaration hmem => ?_
      exact Node.ownTypeParameters_of_named (h declaration (List.mem_reverse.mp hmem))
    rw [declaredBy, hown, Traced.all_map_pure, Traced.pure_bind]
  have hcontains : (scope.enclosing.reverse.map Node.typeParameterNames).flatten.contains name =
      decide (scope.Declares name) := by
    rw [Bool.eq_iff_iff, decide_eq_true_iff, List.contains_iff_mem]
    simp [Declares]
  rw [resolves, hdeclared, Traced.pure_bind, hcontains]

/-- Where a type parameter has no name, no name can be looked for. -/
lemma resolves_of_not_named {scope : Scope} (h : ¬ scope.Named) (name : String) :
    scope.resolves name = Traced.fault .missingAttribute := by
  have hdeclared : Traced.all (scope.enclosing.reverse.map Node.ownTypeParameters) =
      Traced.fault .missingAttribute := by
    simp only [Named, not_forall] at h
    obtain ⟨declaration, hmem, hnamed⟩ := h
    refine Traced.all_map_eq_fault (fun other _ => ?_) ⟨declaration, List.mem_reverse.mpr hmem,
      Node.ownTypeParameters_of_not_named hnamed⟩
    by_cases hother : other.NamesTypeParameters
    · exact Or.inl ⟨_, Node.ownTypeParameters_of_named hother⟩
    · exact Or.inr (Node.ownTypeParameters_of_not_named hother)
  rw [resolves, declaredBy, hdeclared]
  rfl

/-- An answer comes only from a scope in which every type parameter has a name. -/
lemma named_of_resolves {scope : Scope} {name : String} {answer : Bool}
    (h : (scope.resolves name).outcome = .ok answer) :
    answer = decide (scope.Declares name) := by
  by_cases hnamed : scope.Named
  · rw [resolves_of_named hnamed] at h
    exact (Traced.pure_outcome_eq_ok.mp h).symm
  · rw [resolves_of_not_named hnamed] at h
    exact absurd h Traced.fault_outcome_ne_ok

end Syntax.Scope

end ReasonBindings
