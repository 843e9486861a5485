import Mathlib.Tactic.Lemma
import ReasonBindings.TypeText

/-!
# The shapes of type annotations

What the text of a type annotation is made of depends on the shape of the
annotation, of which there are few: a leaf, an array, a tuple, parentheses, a
function type, and a reference.  A reference is a type name or an entry of a
heritage clause whose name is an identifier or a dotted name; both are treated
alike and differ only in what stands behind the name when it is not that of a type
variable.

The module gives one equation for each shape, with lists of annotations read by
`Traced.all`, and the induction along the shapes, which goes to the parts of an
annotation that have a text and to no others.
-/

namespace ReasonBindings

open Syntax TypeText

/-! ### References -/

/-- A named type: the name, what stands behind it unless it is a type variable, and the type
arguments. -/
structure Reference where
  name : Node
  ending : String
  arguments : List Node

/-- The reference that a type annotation is, if it is one. -/
def reference? : Node → Option Reference
  | .typeReference _ name@(.text .identifier ..) arguments
  | .typeReference _ name@(.qualifiedName ..) arguments =>
    some ⟨name, "." ++ instanceType, arguments⟩
  | .heritageType _ expression@(.text .identifier ..) arguments
  | .heritageType _ expression@(.propertyAccess ..) arguments =>
    some ⟨expression, "", arguments⟩
  | _ => none

/-- The name that a reference is written with. -/
def referencedName? (node : Node) : Option String :=
  (reference? node).bind (·.name.text?)

/-- The text of a reference to a name, which may be that of a type variable. -/
def referenceText (isVariable : Bool) (raw ending arguments : String) : String :=
  if isVariable then variableMark ++ raw ++ arguments
  else ((wellKnown? raw).or (wellKnown? (raw ++ ending))).getD (raw ++ ending) ++ arguments

/-- A reference declares no type parameters. -/
lemma typeParameters?_of_reference? {node : Node} {reference : Reference}
    (h : reference? node = some reference) : node.typeParameters? = none := by
  unfold reference? at h
  split at h
  · rfl
  · rfl
  · rfl
  · rfl
  · cases h

/-- What stands behind the name of a reference is empty or the type of the values of a module. -/
lemma ending_of_reference? {node : Node} {reference : Reference}
    (h : reference? node = some reference) :
    reference.ending = "" ∨ reference.ending = "." ++ instanceType := by
  unfold reference? at h
  split at h
  · exact Or.inr (by rw [← Option.some.inj h])
  · exact Or.inr (by rw [← Option.some.inj h])
  · exact Or.inl (by rw [← Option.some.inj h])
  · exact Or.inl (by rw [← Option.some.inj h])
  · cases h

/-! ### Equations -/

/-- The text of a parameter of a function type. -/
def callbackParameterText (scope : Scope) : Node → Traced String
  | .parameter _ _ type _ rest => if rest then pure anonymous else typeText scope type
  | _ => Traced.fault .missingAttribute

/-- Annotations are read one after another. -/
lemma typeTexts_eq_all (scope : Scope) (nodes : List Node) :
    typeTexts scope nodes = Traced.all (nodes.map (typeText scope)) := by
  induction nodes with
  | nil => rfl
  | cons node nodes ih =>
    rw [typeTexts_cons, ih, List.map_cons, Traced.all]
    simp only [← Traced.bind_pure_comp]

/-- Parameters of function types are read one after another. -/
lemma parameterTexts_eq_all (scope : Scope) (nodes : List Node) :
    parameterTexts scope nodes = Traced.all (nodes.map (callbackParameterText scope)) := by
  induction nodes with
  | nil => rfl
  | cons node nodes ih =>
    cases node with
    | parameter line name type optional rest =>
      rw [parameterTexts, ih, List.map_cons, Traced.all, callbackParameterText]
      simp only [← Traced.bind_pure_comp]
      cases rest <;> rfl
    | _ => rfl

/-- The text of an array type. -/
lemma typeText_arrayType (scope : Scope) (line : Line) (element : Node) :
    typeText scope (.arrayType line element) = ("array " ++ ·) <$> typeText scope element := by
  rw [← Traced.bind_pure_comp]
  rfl

/-- The text of a tuple type. -/
lemma typeText_tupleType (scope : Scope) (line : Line) (elements : List Node) :
    typeText scope (.tupleType line elements) =
      product.intercalate <$> Traced.all (elements.map (typeText scope)) := by
  rw [← typeTexts_eq_all, ← Traced.bind_pure_comp]
  rfl

/-- The text of a function type, whose parameters and result are read inside of it. -/
lemma typeText_functionType (scope : Scope) (line : Line) (name result : Node) (optional : Bool)
    (modifiers : List String) (typeParameters parameters : List Node) :
    typeText scope (.signature .functionType line name result optional modifiers typeParameters
      parameters) = (do
        let inner := scope.enter (.signature .functionType line name result optional modifiers
          typeParameters parameters)
        let taken ← Traced.all (parameters.map (callbackParameterText inner))
        let given ← typeText inner result
        return function taken given) := by
  simp only [← parameterTexts_eq_all]
  rfl

/-- The text of a reference. -/
lemma typeText_reference {node : Node} {reference : Reference}
    (h : reference? node = some reference) (scope : Scope) :
    typeText scope node = (do
      let raw ← Traced.present reference.name.text?
      let texts ← Traced.all (reference.arguments.map (typeText scope))
      let typeVariables ← scope.visibleFrom node
      return referenceText (typeVariables.contains raw) raw reference.ending
        (argumentList texts)) := by
  simp only [← typeTexts_eq_all]
  unfold reference? at h
  split at h
  · obtain rfl := Option.some.inj h
    simp only [referenceText, ← String.append_assoc]
    rfl
  · obtain rfl := Option.some.inj h
    simp only [referenceText, ← String.append_assoc]
    rfl
  · obtain rfl := Option.some.inj h
    simp only [referenceText, String.append_empty]
    rfl
  · obtain rfl := Option.some.inj h
    simp only [referenceText, String.append_empty]
    rfl
  · cases h

/-! ### Induction -/

/-- **Induction along the parts of an annotation that have a text.**  A leaf is an annotation whose
text does not depend on other annotations: a predefined type, a union, the type of the instance, or
a type without counterpart. -/
theorem typeText_induction {motive : Node → Prop}
    (keywordType : ∀ line keyword, motive (.keywordType line keyword))
    (unionType : ∀ line arms, motive (.unionType line arms))
    (thisType : ∀ line, motive (.bare .thisType line))
    (other : ∀ node, (∀ scope, typeText scope node = pure anonymous) → motive node)
    (arrayType : ∀ line element, motive element → motive (.arrayType line element))
    (tupleType : ∀ line elements, (∀ element ∈ elements, motive element) →
      motive (.tupleType line elements))
    (parenthesizedType : ∀ line inner, motive inner → motive (.parenthesizedType line inner))
    (functionType : ∀ line name result optional modifiers typeParameters parameters,
      motive result →
      (∀ parameter ∈ parameters, ∀ line name type optional,
        parameter = .parameter line name type optional false → motive type) →
      motive (.signature .functionType line name result optional modifiers typeParameters
        parameters))
    (reference : ∀ node reference, reference? node = some reference →
      (∀ argument ∈ reference.arguments, motive argument) → motive node)
    (node : Node) : motive node := by
  induction hsize : sizeOf node using Nat.strongRecOn generalizing node with
  | _ size ih =>
    subst hsize
    have member : ∀ nodes : List Node, sizeOf nodes < sizeOf node →
        ∀ inner ∈ nodes, motive inner := fun nodes hnodes inner hinner =>
      ih _ (Nat.lt_trans (List.sizeOf_lt_of_mem hinner) hnodes) inner rfl
    fun_cases typeText Scope.empty node with
    | case1 line keyword => exact keywordType line keyword
    | case2 line element => exact arrayType line element (ih _ (by decreasing_tactic) _ rfl)
    | case3 line' name' result optional' modifiers typeParameters parameters =>
      refine functionType line' name' result optional' modifiers typeParameters parameters
        (ih _ (by decreasing_tactic) _ rfl) ?_
      rintro _ hmem line name type optional rfl
      have hsmaller : sizeOf type < sizeOf (Node.signature .functionType line' name' result
          optional' modifiers typeParameters parameters) := by
        have hparameter := List.sizeOf_lt_of_mem hmem
        rw [Node.parameter.sizeOf_spec] at hparameter
        rw [Node.signature.sizeOf_spec]
        omega
      exact ih _ hsmaller type rfl
    | case4 line arms => exact unionType line arms
    | case5 line elements => exact tupleType line elements (member elements (by decreasing_tactic))
    | case6 line inner => exact parenthesizedType line inner (ih _ (by decreasing_tactic) _ rfl)
    | case7 line => exact thisType line
    | case8 => exact reference _ _ rfl (member _ (by decreasing_tactic))
    | case9 => exact reference _ _ rfl (member _ (by decreasing_tactic))
    | case10 => exact reference _ _ rfl (member _ (by decreasing_tactic))
    | case11 => exact reference _ _ rfl (member _ (by decreasing_tactic))
    | case12 => exact other _ fun scope => by rw [typeText] <;> assumption

end ReasonBindings
