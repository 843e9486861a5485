import ReasonBindings.Proofs.Syntax.Typing
import ReasonBindings.Proofs.TypeText.Scoping

/-!
# Every well-typed annotation has a text

A text is put together from the texts of the parts of an annotation, and what is
asked on the way is the name of a reference, whether that name is in scope, and the
types of the parameters of a function type.  In a well-typed annotation, read in a
scope whose type parameters have names, none of these questions is in vain; a scope of
well-typed declarations is such a scope.
-/

namespace ReasonBindings

open Syntax TypeText

namespace Syntax.Scope

/-- Every declaration of the scope is well typed. -/
def WellTyped (scope : Scope) : Prop :=
  ∀ declaration ∈ scope.enclosing, declaration.WellTyped

instance (scope : Scope) : Decidable scope.WellTyped :=
  inferInstanceAs (Decidable (∀ declaration ∈ _, _))

/-- Entering a well-typed declaration keeps the scope well typed. -/
lemma WellTyped.enter {scope : Scope} (h : scope.WellTyped) {node : Node} (hnode : node.WellTyped) :
    (scope.enter node).WellTyped := by
  intro declaration hmem
  rw [enclosing_enter, List.mem_append] at hmem
  rcases hmem with hmem | hmem
  · exact h declaration hmem
  · rw [List.mem_singleton.mp hmem]
    exact hnode

/-- Entering a declaration whose type parameters have names keeps their names known. -/
lemma Named.enter {scope : Scope} (h : scope.Named) {node : Node}
    (hnode : node.NamesTypeParameters) : (scope.enter node).Named := by
  intro declaration hmem
  rw [enclosing_enter, List.mem_append] at hmem
  rcases hmem with hmem | hmem
  · exact h declaration hmem
  · rw [List.mem_singleton.mp hmem]
    exact hnode

/-- In a well-typed scope every type parameter has a name. -/
lemma WellTyped.named {scope : Scope} (h : scope.WellTyped) : scope.Named := by
  intro declaration hmem
  exact (h declaration hmem).namesTypeParameters

end Syntax.Scope

/-- The name of a well-typed reference has a text, and its arguments are well typed. -/
lemma wellTyped_of_reference? {node : Node} {reference : Reference}
    (h : reference? node = some reference) (hnode : node.WellTyped) :
    (∃ raw, reference.name.text? = some raw) ∧
      ∀ argument ∈ reference.arguments, argument.WellTyped := by
  unfold reference? at h
  split at h
  case h_5 => cases h
  all_goals
    obtain rfl := Option.some.inj h
    have hname := hnode.child List.mem_cons_self
    refine ⟨hname.exists_text? (by simp [Node.isTypeName, Node.isNamedValue]), ?_⟩
    intro argument hargument
    exact hnode.child (List.mem_cons_of_mem _ hargument)

/-- **Annotations have texts.**  A well-typed annotation has a text in every scope whose type
parameters have names. -/
theorem typeText_succeeds_of_named {node : Node} (hnode : node.WellTyped) {scope : Scope}
    (hscope : scope.Named) : (typeText scope node).Succeeds := by
  induction node using typeText_induction generalizing scope with
  | keywordType line keyword => exact Traced.yields_pure trivial
  | thisType line => exact Traced.yields_pure trivial
  | other node hother =>
    rw [hother]
    exact Traced.yields_pure trivial
  | unionType line arms =>
    change (union arms).Succeeds
    unfold union
    split
    · exact Traced.yields_pure trivial
    · exact (Traced.succeeds_note _).bind fun _ _ => Traced.yields_pure trivial
  | arrayType line element ih =>
    rw [typeText_arrayType]
    exact (ih (hnode.child List.mem_cons_self) hscope).map fun _ _ => trivial
  | tupleType line elements ih =>
    rw [typeText_tupleType]
    have helements : (Traced.all (elements.map (typeText scope))).Succeeds :=
      (Traced.yields_all_map fun element hmem => ih element hmem (hnode.child hmem) hscope).succeeds
    exact helements.map fun _ _ => trivial
  | parenthesizedType line inner ih => exact ih (hnode.child List.mem_cons_self) hscope
  | functionType line name result optional modifiers typeParameters parameters ihresult
      ihparameters =>
    rw [typeText_functionType]
    -- The parts are read inside the function type, whose type parameters have names as well.
    have hinner := hscope.enter hnode.namesTypeParameters
    have hparameters : ∀ parameter ∈ parameters,
        (callbackParameterText (scope.enter (.signature .functionType line name result optional
          modifiers typeParameters parameters)) parameter).Succeeds := by
      intro parameter hmem
      obtain ⟨hfamily, hparameter⟩ := hnode.parameters? rfl parameter hmem
      cases parameter with
      | parameter parameterLine parameterName type parameterOptional rest =>
        cases rest with
        | true => exact Traced.yields_pure trivial
        | false => exact ihparameters _ hmem _ _ _ _ rfl (hparameter.type? rfl) hinner
      | _ => cases hfamily
    refine (Traced.yields_all_map hparameters).bind fun taken _ => ?_
    refine (ihresult (hnode.type? rfl) hinner).bind fun given _ => ?_
    exact Traced.yields_pure trivial
  | reference node reference hreference ih =>
    obtain ⟨⟨raw, hraw⟩, harguments⟩ := wellTyped_of_reference? hreference hnode
    rw [typeText_reference_resolves hreference, hraw, Traced.present_some, Traced.pure_bind]
    have htexts : ∀ argument ∈ reference.arguments, (typeText scope argument).Succeeds :=
      fun argument hmem => ih argument hmem (harguments argument hmem) hscope
    refine (Traced.yields_all_map htexts).bind fun texts _ => ?_
    rw [Scope.resolves_of_named hscope, Traced.pure_bind]
    exact Traced.yields_pure trivial

/-- A well-typed annotation has a text in every well-typed scope. -/
lemma typeText_succeeds {node : Node} (hnode : node.WellTyped) {scope : Scope}
    (hscope : scope.WellTyped) : (typeText scope node).Succeeds :=
  typeText_succeeds_of_named hnode hscope.named

end ReasonBindings
