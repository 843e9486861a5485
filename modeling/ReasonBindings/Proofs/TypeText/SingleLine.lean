import ReasonBindings.Proofs.Syntax.Texts
import ReasonBindings.Proofs.TypeText.Shape

/-!
# Annotations on one line

The text of an annotation is put together from names and literals of the annotation
and from fixed words, so it has no line feed when the annotation has none.
-/

namespace ReasonBindings

open Layout Syntax TypeText

/-! ### Fixed words -/

/-- The counterparts of predefined types are on one line. -/
lemma singleLine_primitive? {keyword counterpart : String}
    (h : primitive? keyword = some counterpart) : SingleLine counterpart := by
  unfold primitive? at h
  split at h
  all_goals first
    | cases h; decide
    | cases h

/-- The counterparts of well-known types are on one line. -/
lemma singleLine_wellKnown? {name counterpart : String}
    (h : wellKnown? name = some counterpart) : SingleLine counterpart := by
  unfold wellKnown? at h
  split at h
  all_goals first
    | cases h; decide
    | cases h

/-! ### Compound texts -/

/-- Type arguments are on one line when their texts are. -/
lemma singleLine_argumentList {texts : List String} (h : ∀ text ∈ texts, SingleLine text) :
    SingleLine (argumentList texts) := by
  unfold argumentList
  split
  · decide
  · rw [SingleLine.append_iff, SingleLine.append_iff]
    exact ⟨⟨by decide, SingleLine.intercalate (by decide) h⟩, by decide⟩

/-- A function type is on one line when its parts are. -/
lemma singleLine_function {parameters : List String} {result : String}
    (hparameters : ∀ text ∈ parameters, SingleLine text) (hresult : SingleLine result) :
    SingleLine (function parameters result) := by
  have htaken : SingleLine (arrow.intercalate parameters) :=
    SingleLine.intercalate (by decide) hparameters
  unfold function
  simp only [SingleLine.append_iff]
  refine ⟨⟨⟨⟨by decide, ?_⟩, by decide⟩, hresult⟩, by decide⟩
  split
  · decide
  · exact htaken

/-- A union is on one line when its cases are. -/
lemma singleLine_union {arms : List Node} (h : ∀ arm ∈ arms, arm.Unbroken) {text : String}
    (htext : (union arms).outcome = .ok text) : SingleLine text := by
  have hcases : ∀ text ∈ arms.map enumCase, SingleLine text := by
    intro text hmem
    obtain ⟨arm, harm, rfl⟩ := List.mem_map.mp hmem
    unfold enumCase
    split
    · rename_i line content
      rw [SingleLine.append_iff, SingleLine.append_iff]
      exact ⟨⟨by decide, (h _ harm).text? rfl⟩, by decide⟩
    · decide
  unfold union at htext
  split at htext
  · obtain rfl := Traced.pure_outcome_eq_ok.mp htext
    rw [SingleLine.append_iff, SingleLine.append_iff]
    exact ⟨⟨by decide, SingleLine.intercalate (by decide) hcases⟩, by decide⟩
  · obtain ⟨-, -, rfl⟩ := Traced.bind_pure_outcome_eq_ok.mp htext
    decide

/-- A named type is on one line when its parts are. -/
lemma singleLine_referenceText {isVariable : Bool} {raw ending arguments : String}
    (hraw : SingleLine raw) (hending : SingleLine ending) (harguments : SingleLine arguments) :
    SingleLine (referenceText isVariable raw ending arguments) := by
  unfold referenceText
  split
  · rw [SingleLine.append_iff, SingleLine.append_iff]
    exact ⟨⟨by decide, hraw⟩, harguments⟩
  · rw [SingleLine.append_iff]
    refine ⟨?_, harguments⟩
    cases hknown : (wellKnown? raw).or (wellKnown? (raw ++ ending)) with
    | none => exact SingleLine.append_iff.mpr ⟨hraw, hending⟩
    | some counterpart =>
      rcases Option.or_eq_some_iff.mp hknown with hfound | ⟨-, hfound⟩
      · exact singleLine_wellKnown? hfound
      · exact singleLine_wellKnown? hfound

/-! ### Annotations -/

/-- The parts of an unbroken reference are unbroken. -/
lemma unbroken_of_reference? {node : Node} {reference : Reference}
    (h : reference? node = some reference) (hnode : node.Unbroken) :
    reference.name.Unbroken ∧ ∀ argument ∈ reference.arguments, argument.Unbroken := by
  unfold reference? at h
  split at h
  case h_5 => cases h
  all_goals
    obtain rfl := Option.some.inj h
    obtain ⟨hname, harguments⟩ := List.forall_mem_append.mp hnode
    exact ⟨hname, forall_nodesTexts.mp harguments⟩

/-- **Annotations on one line.**  The text of an unbroken annotation is on one line. -/
theorem singleLine_typeText {node : Node} (hnode : node.Unbroken) {scope : Scope} {text : String}
    (h : (typeText scope node).outcome = .ok text) : SingleLine text := by
  induction node using typeText_induction generalizing scope text with
  | keywordType line keyword =>
    obtain rfl := Traced.pure_outcome_eq_ok.mp h
    cases hprimitive : primitive? keyword with
    | none => decide
    | some counterpart => exact singleLine_primitive? hprimitive
  | unionType line arms => exact singleLine_union (forall_nodesTexts.mp hnode) h
  | thisType line =>
    obtain rfl := Traced.pure_outcome_eq_ok.mp h
    decide
  | other node hother =>
    rw [hother] at h
    obtain rfl := Traced.pure_outcome_eq_ok.mp h
    decide
  | arrayType line element ih =>
    rw [typeText_arrayType, Traced.map_outcome_eq_ok] at h
    obtain ⟨inner, hinner, rfl⟩ := h
    exact SingleLine.append_iff.mpr ⟨by decide, ih hnode hinner⟩
  | tupleType line elements ih =>
    rw [typeText_tupleType, Traced.map_outcome_eq_ok] at h
    obtain ⟨texts, htexts, rfl⟩ := h
    refine SingleLine.intercalate (by decide) fun text hmem => ?_
    obtain ⟨element, helement, htext⟩ := Traced.exists_argument_of_all_map htexts hmem
    exact ih element helement (forall_nodesTexts.mp hnode element helement) htext
  | parenthesizedType line inner ih => exact ih hnode h
  | functionType line name result optional modifiers typeParameters parameters ihresult
      ihparameters =>
    rw [typeText_functionType] at h
    obtain ⟨taken, htaken, hrest⟩ := Traced.bind_outcome_eq_ok.mp h
    obtain ⟨given, hgiven, rfl⟩ := Traced.bind_pure_outcome_eq_ok.mp hrest
    refine singleLine_function (fun text hmem => ?_) (ihresult (hnode.type? rfl) hgiven)
    obtain ⟨parameter, hparameter, htext⟩ := Traced.exists_argument_of_all_map htaken hmem
    have hunbroken : parameter.Unbroken := hnode.parameters? rfl parameter hparameter
    cases parameter with
    | parameter parameterLine parameterName type parameterOptional rest =>
      cases rest with
      | true =>
        obtain rfl := Traced.pure_outcome_eq_ok.mp htext
        decide
      | false => exact ihparameters _ hparameter _ _ _ _ rfl (hunbroken.type? rfl) htext
    | _ => exact absurd htext Traced.fault_outcome_ne_ok
  | reference node reference hreference ih =>
    obtain ⟨hname, harguments⟩ := unbroken_of_reference? hreference hnode
    have hending : SingleLine reference.ending := by
      rcases ending_of_reference? hreference with hending | hending <;> rw [hending] <;> decide
    rw [typeText_reference hreference] at h
    obtain ⟨raw, hraw, hrest⟩ := Traced.bind_outcome_eq_ok.mp h
    obtain ⟨texts, htexts, hrest⟩ := Traced.bind_outcome_eq_ok.mp hrest
    obtain ⟨typeVariables, -, rfl⟩ := Traced.bind_pure_outcome_eq_ok.mp hrest
    refine singleLine_referenceText (hname.text? (Traced.present_outcome_eq_ok.mp hraw)) hending
      (singleLine_argumentList fun text hmem => ?_)
    obtain ⟨argument, hargument, htext⟩ := Traced.exists_argument_of_all_map htexts hmem
    exact ih argument hargument (harguments argument hargument) htext

end ReasonBindings
