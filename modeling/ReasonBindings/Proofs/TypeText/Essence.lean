import ReasonBindings.Proofs.Model.Swaps
import ReasonBindings.Proofs.Syntax.Essence

/-!
# Annotations and their essence

What matters of an annotation has the text of the annotation.  Inside of a function type
the names of parameters are gone and the rest tokens are kept, which is what its text shows
of them; the members of an object type show nowhere in a text.
-/

namespace ReasonBindings

open Syntax TypeText

namespace Model

/-- A case of a union has the same text. -/
lemma enumCase_essence (node : Node) : enumCase node.essence = enumCase node := by
  cases node with
  | text kind => cases kind <;> rfl
  | _ => rfl

/-- A union has the same text. -/
lemma union_essences (arms : List Node) : union (essences arms) = union arms := by
  cases arms with
  | nil => rfl
  | cons first rest =>
    have hcases : (essences rest).map enumCase = rest.map enumCase := by
      rw [essences_eq_map, List.map_map]
      exact List.map_congr_left fun arm _ => enumCase_essence arm
    have hfirst : union (first.essence :: rest) = union (first :: rest) := by
      cases first with
      | text kind => cases kind <;> rfl
      | _ => rfl
    rw [essences, union_cons_congr first.essence hcases, hfirst]

/-- A reference refers to the same name with what matters of its arguments. -/
lemma reference?_essence (node : Node) :
    reference? node.essence = (reference? node).map fun reference =>
      ⟨reference.name.essence, reference.ending, essences reference.arguments⟩ := by
  cases node with
  | typeReference line name | heritageType line name =>
    cases name with
    | text kind => cases kind <;> rfl
    | _ => rfl
  | _ => rfl

/-- A reference has the same text when its arguments have the same texts. -/
lemma typeText_reference_essence {node : Node} {reference : Reference}
    (h : reference? node = some reference) (scope : Scope)
    (harguments : ∀ argument ∈ reference.arguments,
      typeText scope argument.essence = typeText scope argument) :
    typeText scope node.essence = typeText scope node := by
  have hessence : reference? node.essence = some
      ⟨reference.name.essence, reference.ending, essences reference.arguments⟩ := by
    rw [reference?_essence, h]
    rfl
  have htexts : (essences reference.arguments).map (typeText scope) =
      reference.arguments.map (typeText scope) := by
    rw [essences_eq_map, List.map_map]
    exact List.map_congr_left harguments
  rw [typeText_reference_resolves h, typeText_reference_resolves hessence, htexts,
    Node.text?_essence]

/-- A parameter of a function type has the same text. -/
lemma callbackParameterText_essentialParameter (scope : Scope) (node : Node) :
    callbackParameterText scope (SignatureKind.functionType.essentialParameter node) =
      callbackParameterText scope node := by
  cases node <;> rfl

/-- The parameters and the result of a function type have the same texts in scopes with the same
names. -/
lemma functionText_essence {scope scope' : Scope} (h : scope'.SameNames scope) {result : Node}
    {parameters : List Node} (hresult : SameText result.essence result)
    (hparameters : ∀ parameter ∈ parameters, SameText parameter.essence parameter) :
    (do
      let taken ← Traced.all (((essences parameters).map
        SignatureKind.functionType.essentialParameter).map (callbackParameterText scope'))
      let given ← typeText scope' result.essence
      return function taken given) = (do
      let taken ← Traced.all (parameters.map (callbackParameterText scope))
      let given ← typeText scope result
      return function taken given) := by
  have htexts : ((essences parameters).map
        SignatureKind.functionType.essentialParameter).map (callbackParameterText scope') =
      parameters.map (callbackParameterText scope) := by
    rw [essences_eq_map, List.map_map, List.map_map]
    refine List.map_congr_left fun parameter hmem => ?_
    rw [Function.comp_apply, Function.comp_apply, callbackParameterText_essentialParameter,
      (hparameters parameter hmem).parameter, h.callbackParameterText_eq]
  rw [htexts, hresult.type, h.typeText_eq]

/-- **Annotations.**  What matters of an annotation has the text of the annotation. -/
theorem sameText_essence (node : Node) : SameText node.essence node := by
  induction node using Node.induction with
  | node node ih =>
    cases node with
    | arrayType line element =>
      refine ⟨fun scope => ?_, fun _ => rfl⟩
      rw [Node.essence, typeText_arrayType, typeText_arrayType,
        (ih element List.mem_cons_self).type]
    | unionType line arms => exact ⟨fun _ => union_essences arms, fun _ => rfl⟩
    | tupleType line elements =>
      refine ⟨fun scope => ?_, fun _ => rfl⟩
      have htexts : (essences elements).map (typeText scope) = elements.map (typeText scope) := by
        rw [essences_eq_map, List.map_map]
        exact List.map_congr_left fun element hmem => (ih element hmem).type scope
      rw [Node.essence, typeText_tupleType, typeText_tupleType, htexts]
    | parenthesizedType line inner =>
      exact ⟨(ih inner List.mem_cons_self).type, fun _ => rfl⟩
    | parameter line name type optional rest =>
      refine ⟨fun _ => rfl, fun scope => ?_⟩
      have htype := (ih type (List.mem_cons_of_mem _ List.mem_cons_self)).type scope
      rw [Node.essence, callbackParameterText, callbackParameterText, htype]
    | typeReference line name arguments | heritageType line name arguments =>
      have harguments : ∀ scope, ∀ argument ∈ arguments,
          typeText scope argument.essence = typeText scope argument := fun scope argument hmem =>
        (ih argument (List.mem_cons_of_mem _ hmem)).type scope
      refine ⟨fun scope => ?_, fun _ => rfl⟩
      cases name with
      | text kind =>
        cases kind with
        | identifier => exact typeText_reference_essence rfl scope (harguments scope)
        | _ => rfl
      | qualifiedName | propertyAccess =>
        first
        | exact typeText_reference_essence rfl scope (harguments scope)
        | rfl
      | _ => rfl
    | signature kind line name result optional modifiers typeParameters parameters =>
      cases kind with
      | functionType =>
        refine ⟨fun scope => ?_, fun _ => rfl⟩
        have hresult := ih result (List.mem_cons_of_mem _ List.mem_cons_self)
        have hnames := Node.sameNames_essence (.signature .functionType line name result optional
          modifiers typeParameters parameters) scope
        rw [Node.essence] at hnames ⊢
        rw [typeText_functionType, typeText_functionType]
        refine functionText_essence hnames hresult fun parameter hmem => ?_
        refine ih parameter (List.mem_cons_of_mem _ (List.mem_cons_of_mem _ ?_))
        exact List.mem_append_right _ hmem
      | _ => exact ⟨fun _ => rfl, fun _ => rfl⟩
    | bare kind => cases kind <;> exact ⟨fun _ => rfl, fun _ => rfl⟩
    | _ => exact ⟨fun _ => rfl, fun _ => rfl⟩

end Model

end ReasonBindings
