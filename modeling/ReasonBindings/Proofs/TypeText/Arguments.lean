import ReasonBindings.Proofs.Syntax.Plain
import ReasonBindings.Proofs.TypeText.Total

/-!
# Annotations as arguments

The text of an annotation may become an argument of a function, where it stands between
arrows.  It counts as *one* argument when it is not empty and has no arrows outside of
parentheses.  This holds of every annotation that is plain throughout: the only texts
with arrows are function types and the counterpart of the type of all functions, and
both are in parentheses.
-/

namespace ReasonBindings

open Syntax Text TypeText

/-- A text that counts as one argument of a function. -/
structure OneArgument (text : String) : Prop where
  arrows : HasArrows 0 text
  nonempty : text ≠ ""

namespace OneArgument

variable {text first second : String}

/-- A plain text is one argument unless it is empty. -/
lemma of_plain (h : Plain text) (hne : text ≠ "") : OneArgument text :=
  ⟨.of_plain h, hne⟩

/-- An argument with a text before it is still one argument. -/
lemma append_left (hfirst : HasArrows 0 first) (hsecond : OneArgument second) :
    OneArgument (first ++ second) :=
  ⟨hfirst.append hsecond.arrows, fun hempty =>
    hsecond.nonempty (String.append_eq_empty_iff.mp hempty).2⟩

/-- An argument with a text after it is still one argument. -/
lemma append_right (hfirst : OneArgument first) (hsecond : HasArrows 0 second) :
    OneArgument (first ++ second) :=
  ⟨hfirst.arrows.append hsecond, fun hempty =>
    hfirst.nonempty (String.append_eq_empty_iff.mp hempty).1⟩

/-- A text in parentheses is one argument, whatever arrows it has. -/
lemma parenthesized {count : Nat} (h : HasArrows count text) : OneArgument ("(" ++ text ++ ")") :=
  ⟨h.parenthesized, fun hempty => absurd (String.append_eq_empty_iff.mp hempty).2 (by decide)⟩

end OneArgument

/-- Arguments with a text between them are not empty when there are any. -/
lemma intercalate_ne_empty {separator : String} :
    ∀ {texts : List String}, texts ≠ [] → (∀ text ∈ texts, text ≠ "") →
      separator.intercalate texts ≠ ""
  | [], hne, _ => absurd rfl hne
  | [text], _, h => by simpa using h text
  | text :: next :: texts, _, h => by
    rw [String.intercalate_cons_cons]
    intro hempty
    have htext : text ++ separator = "" := (String.append_eq_empty_iff.mp hempty).1
    exact h text List.mem_cons_self (String.append_eq_empty_iff.mp htext).1

/-! ### Fixed words -/

/-- An arrow is one arrow. -/
lemma hasArrows_arrow : HasArrows 1 arrow := by
  have hsigns : SignsAreArrows arrow.toList := by
    intro rest hrest
    have hlist : arrow.toList = [' ', '=', '>', ' '] := rfl
    rw [hlist] at hrest
    simp only [List.suffix_cons_iff, List.cons.injEq, List.suffix_nil, reduceCtorEq] at hrest
    rcases hrest with ⟨hsign, -⟩ | ⟨-, rfl⟩ | ⟨hsign, -⟩ | ⟨hsign, -⟩ | hfalse
    · exact absurd hsign (by decide)
    · rfl
    · exact absurd hsign (by decide)
    · exact absurd hsign (by decide)
    · exact hfalse.elim
  exact ⟨.of_noBrackets (by decide) (by decide), by decide, by decide, hsigns⟩

/-- The counterparts of predefined types are arguments. -/
lemma oneArgument_primitive? {keyword counterpart : String}
    (h : primitive? keyword = some counterpart) : OneArgument counterpart := by
  unfold primitive? at h
  split at h
  all_goals first
    | cases h; exact .of_plain (by decide) (by decide)
    | cases h

/-- The counterpart of the type of all functions is an argument, because its arrow stands in
parentheses. -/
lemma oneArgument_anyFunction : OneArgument "(<..> => <..>)" := by
  have hside : HasArrows 0 "<..>" := .of_noSigns (by decide) (by decide) (by decide) (by decide)
  exact .parenthesized ((hside.append hasArrows_arrow).append hside)

/-- The counterparts of well-known types are arguments. -/
lemma oneArgument_wellKnown? {name counterpart : String}
    (h : wellKnown? name = some counterpart) : OneArgument counterpart := by
  unfold wellKnown? at h
  split at h
  all_goals first
    | cases h; exact .of_plain (by decide) (by decide)
    | cases h; exact oneArgument_anyFunction
    | cases h

/-! ### Compound texts -/

/-- Type arguments stand in parentheses. -/
lemma hasArrows_argumentList {texts : List String} (h : ∀ text ∈ texts, OneArgument text) :
    HasArrows 0 (argumentList texts) := by
  have hseparator : HasArrows 0 ", " := .of_plain (by decide)
  unfold argumentList
  split
  · exact .of_plain (by decide)
  · exact (hseparator.intercalate fun text hmem => (h text hmem).arrows).parenthesized

/-- What a function takes: arguments with arrows between them, or the unit type when there are
none. -/
lemma hasArrows_taken {texts : List String} (h : ∀ text ∈ texts, OneArgument text) :
    HasArrows (texts.length - 1)
      (if arrow.intercalate texts = "" then unit else arrow.intercalate texts) := by
  have hchain := hasArrows_arrow.intercalate fun text hmem => (h text hmem).arrows
  rw [Nat.mul_one] at hchain
  split
  · rename_i hempty
    have hnil : texts = [] := by
      by_contra hne
      exact intercalate_ne_empty hne (fun text hmem => (h text hmem).nonempty) hempty
    rw [hnil]
    exact .of_plain (by decide)
  · exact hchain

/-- A function type stands in parentheses, so it is one argument. -/
lemma oneArgument_function {parameters : List String} {result : String}
    (hparameters : ∀ text ∈ parameters, OneArgument text) (hresult : OneArgument result) :
    OneArgument (function parameters result) := by
  have hinside := ((hasArrows_taken hparameters).append hasArrows_arrow).append hresult.arrows
  have hparenthesized := OneArgument.parenthesized hinside
  simp only [String.append_assoc] at hparenthesized
  simpa only [function, String.append_assoc] using hparenthesized

/-- A union is one argument when its cases are plain: these stand in a comment before a word. -/
lemma oneArgument_union {arms : List Node} (h : ∀ arm ∈ arms, arm.Tidy) {text : String}
    (htext : (union arms).outcome = .ok text) : OneArgument text := by
  have hcases : ∀ text ∈ arms.map enumCase, HasArrows 0 text := by
    intro text hmem
    obtain ⟨arm, harm, rfl⟩ := List.mem_map.mp hmem
    unfold enumCase
    split
    · rename_i line content
      have hcontent : Plain content := of_decide_eq_true (h _ harm).plain.1
      exact .of_plain ((Plain.append (by decide) hcontent).append (by decide))
    · exact .of_plain (by decide)
  unfold union at htext
  split at htext
  · obtain rfl := Traced.pure_outcome_eq_ok.mp htext
    have hseparator : HasArrows 0 " | " := .of_plain (by decide)
    have hopening : HasArrows 0 "/* StringEnum " := .of_plain (by decide)
    have hword : OneArgument " */ string" := .of_plain (by decide) (by decide)
    exact .append_left (hopening.append (hseparator.intercalate hcases)) hword
  · obtain ⟨-, -, rfl⟩ := Traced.bind_pure_outcome_eq_ok.mp htext
    exact .of_plain (by decide) (by decide)

/-- A named type is one argument when its name is plain and its arguments stand in parentheses. -/
lemma oneArgument_referenceText {isVariable : Bool} {raw ending arguments : String}
    (hraw : Plain raw) (hne : raw ≠ "") (hending : Plain ending)
    (harguments : HasArrows 0 arguments) :
    OneArgument (referenceText isVariable raw ending arguments) := by
  have hname : OneArgument raw := .of_plain hraw hne
  unfold referenceText
  split
  · have hmark : HasArrows 0 variableMark := .of_plain (by decide)
    exact (OneArgument.append_left hmark hname).append_right harguments
  · refine .append_right ?_ harguments
    cases hknown : (wellKnown? raw).or (wellKnown? (raw ++ ending)) with
    | none => exact hname.append_right (.of_plain hending)
    | some counterpart =>
      rcases Option.or_eq_some_iff.mp hknown with hfound | ⟨-, hfound⟩
      · exact oneArgument_wellKnown? hfound
      · exact oneArgument_wellKnown? hfound

/-! ### Annotations -/

/-- The name of a tidy reference is plain and not empty, and its arguments are tidy. -/
lemma tidy_of_reference? {node : Node} {reference : Reference}
    (h : reference? node = some reference) (hnode : node.Tidy) :
    (∀ raw ∈ reference.name.text?, Plain raw ∧ raw ≠ "") ∧
      ∀ argument ∈ reference.arguments, argument.Tidy := by
  unfold reference? at h
  split at h
  case h_5 => cases h
  all_goals
    obtain rfl := Option.some.inj h
    have hname := hnode.child List.mem_cons_self
    refine ⟨fun raw hraw => ?_, fun argument hargument => ?_⟩
    · exact hname.text? (by simp [Node.isTypeName, Node.isNamedValue]) hraw
    · exact hnode.child (List.mem_cons_of_mem _ hargument)

/-- **Annotations are single arguments.**  The text of a tidy annotation is one argument, whatever
annotations stand in it. -/
theorem oneArgument_typeText {node : Node} (hnode : node.Tidy) {scope : Scope} {text : String}
    (h : (typeText scope node).outcome = .ok text) : OneArgument text := by
  induction node using typeText_induction generalizing scope text with
  | keywordType line keyword =>
    obtain rfl := Traced.pure_outcome_eq_ok.mp h
    cases hprimitive : primitive? keyword with
    | none => exact .of_plain (by decide) (by decide)
    | some counterpart => exact oneArgument_primitive? hprimitive
  | unionType line arms => exact oneArgument_union (fun arm hmem => hnode.child hmem) h
  | thisType line =>
    obtain rfl := Traced.pure_outcome_eq_ok.mp h
    exact .of_plain (by decide) (by decide)
  | other node hother =>
    rw [hother] at h
    obtain rfl := Traced.pure_outcome_eq_ok.mp h
    exact .of_plain (by decide) (by decide)
  | arrayType line element ih =>
    rw [typeText_arrayType, Traced.map_outcome_eq_ok] at h
    obtain ⟨inner, hinner, rfl⟩ := h
    exact .append_left (.of_plain (by decide)) (ih (hnode.child List.mem_cons_self) hinner)
  | tupleType line elements ih =>
    rw [typeText_tupleType, Traced.map_outcome_eq_ok] at h
    obtain ⟨texts, htexts, rfl⟩ := h
    have hcomponents : ∀ text ∈ texts, OneArgument text := by
      intro text hmem
      obtain ⟨element, helement, htext⟩ := Traced.exists_argument_of_all_map htexts hmem
      exact ih element helement (hnode.child helement) htext
    have hproduct : HasArrows 0 product := .of_plain (by decide)
    -- A tuple type of a plain tree has components, so its text is not empty.
    have hne : texts ≠ [] := by
      rintro rfl
      have hnone := (Traced.all_map_outcome_eq_ok.mp htexts).length_eq
      rw [List.length_nil, List.length_eq_zero_iff] at hnone
      have hplain := hnode.plain.1
      rw [hnone] at hplain
      cases hplain
    refine ⟨?_, intercalate_ne_empty hne fun text hmem => (hcomponents text hmem).nonempty⟩
    simpa using hproduct.intercalate fun text hmem => (hcomponents text hmem).arrows
  | parenthesizedType line inner ih => exact ih (hnode.child List.mem_cons_self) h
  | functionType line name result optional modifiers typeParameters parameters ihresult
      ihparameters =>
    rw [typeText_functionType] at h
    obtain ⟨taken, htaken, hrest⟩ := Traced.bind_outcome_eq_ok.mp h
    obtain ⟨given, hgiven, rfl⟩ := Traced.bind_pure_outcome_eq_ok.mp hrest
    refine oneArgument_function (fun text hmem => ?_) (ihresult (hnode.type? rfl) hgiven)
    obtain ⟨parameter, hparameter, htext⟩ := Traced.exists_argument_of_all_map htaken hmem
    have htidy : parameter.Tidy := hnode.parameters? rfl parameter hparameter
    cases parameter with
    | parameter parameterLine parameterName type parameterOptional rest =>
      cases rest with
      | true =>
        obtain rfl := Traced.pure_outcome_eq_ok.mp htext
        exact .of_plain (by decide) (by decide)
      | false => exact ihparameters _ hparameter _ _ _ _ rfl (htidy.type? rfl) htext
    | _ => exact absurd htext Traced.fault_outcome_ne_ok
  | reference node reference hreference ih =>
    obtain ⟨hname, harguments⟩ := tidy_of_reference? hreference hnode
    have hending : Plain reference.ending := by
      rcases ending_of_reference? hreference with hending | hending <;> rw [hending] <;> decide
    rw [typeText_reference hreference] at h
    obtain ⟨raw, hraw, hrest⟩ := Traced.bind_outcome_eq_ok.mp h
    obtain ⟨texts, htexts, hrest⟩ := Traced.bind_outcome_eq_ok.mp hrest
    obtain ⟨typeVariables, -, rfl⟩ := Traced.bind_pure_outcome_eq_ok.mp hrest
    obtain ⟨hraw', hne⟩ := hname raw (Traced.present_outcome_eq_ok.mp hraw)
    refine oneArgument_referenceText hraw' hne hending
      (hasArrows_argumentList fun text hmem => ?_)
    obtain ⟨argument, hargument, htext⟩ := Traced.exists_argument_of_all_map htexts hmem
    exact ih argument hargument (harguments argument hargument) htext

end ReasonBindings
