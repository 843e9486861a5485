import ReasonBindings.Proofs.Model.Built
import ReasonBindings.Proofs.Model.Total
import ReasonBindings.Proofs.Syntax.Plain

/-!
# Operands

The text of an annotation is joined from the texts of its parts: the element of an
array, the components of a tuple, the parameters and the result of a function type, the
arguments of a reference.  These are its *operands*.  Where an operand is the empty text,
the joined text has a hole or is short of a part, and a function type whose only
parameter has no text is that of a function without parameters.

The one type without characters is the empty tuple.  It shows through parentheses and
through a tuple that has no other component; every other annotation puts characters of
its own around its operands.  So an annotation and all of its operands have characters
exactly when the empty tuple occurs nowhere in it.
-/

namespace ReasonBindings

open Syntax TypeText

namespace Syntax

/-! ### Filled trees -/

/-- The node is no identifier without characters. -/
def Node.isFilled : Node → Bool
  | .text .identifier _ content => content != ""
  | _ => true

/-- No identifier in the node is without characters. -/
def Node.FilledThroughout (node : Node) : Prop :=
  node.isFilled = true ∧ ∀ inner ∈ node.inner, inner.isFilled = true

instance (node : Node) : Decidable node.FilledThroughout :=
  inferInstanceAs (Decidable (_ ∧ ∀ inner ∈ _, _))

/-- The nodes that a filled node consists of are filled. -/
lemma Node.FilledThroughout.child {node child : Node} (h : node.FilledThroughout)
    (hchild : child ∈ node.children) : child.FilledThroughout := by
  refine ⟨h.2 child (mem_inner.mpr ⟨child, hchild, Or.inl rfl⟩), fun inner hinner => ?_⟩
  exact h.2 inner (mem_inner.mpr ⟨child, hchild, Or.inr hinner⟩)

/-- The text of a filled name has characters. -/
lemma Node.text?_ne_empty {name : Node} (h : name.isFilled = true)
    (hfamily : name.isTypeName = true ∨ name.isNamedValue = true) {text : String}
    (htext : name.text? = some text) : text ≠ "" := by
  have hdotted : ∀ first second : String, s!"{first}.{second}" ≠ "" := by
    intro first second hempty
    have hlength := congrArg String.length hempty
    simp [toString] at hlength
  cases name with
  | text kind line content =>
    obtain rfl := Option.some.inj htext
    cases kind with
    | identifier => exact bne_iff_ne.mp h
    | _ => rcases hfamily with hfamily | hfamily <;> cases hfamily
  | qualifiedName line left right | propertyAccess line left right =>
    rw [Node.text?] at htext
    split at htext
    · rw [← Option.some.inj htext]
      exact hdotted _ _
    · cases htext
  | _ => cases htext

end Syntax

/-! ### Parts that occur -/

/-- What occurs in an occurrence occurs in the whole, inside the binders of both. -/
lemma Occurs.trans {inner middle outer : Node} {binders binders' : List Node}
    (h : Occurs inner binders middle) (h' : Occurs middle binders' outer) :
    Occurs inner (binders' ++ binders) outer := by
  induction h' with
  | here => exact h
  | element _ ih => exact .element ih
  | component hmem _ ih => exact .component hmem ih
  | inner _ ih => exact .inner ih
  | parameter hmem _ ih => exact .parameter hmem ih
  | result _ ih => exact .result ih
  | argument hreference hmem _ ih => exact .argument hreference hmem ih

/-- The arguments of a reference are nodes that it consists of. -/
lemma mem_children_of_reference? {node argument : Node} {reference : Reference}
    (h : reference? node = some reference) (hargument : argument ∈ reference.arguments) :
    argument ∈ node.children := by
  unfold reference? at h
  split at h
  case h_5 => cases h
  all_goals
    obtain rfl := Option.some.inj h
    exact List.mem_cons_of_mem _ hargument

/-- What passes from a node to the nodes that it consists of holds of all that occurs in it and of
the binders. -/
lemma Occurs.inherits {P : Node → Prop}
    (hchild : ∀ node, P node → ∀ child ∈ node.children, P child) {occurrence node : Node}
    {binders : List Node} (h : Occurs occurrence binders node) (hnode : P node) :
    P occurrence ∧ ∀ binder ∈ binders, P binder := by
  induction h with
  | here => exact ⟨hnode, by simp⟩
  | element _ ih => exact ih (hchild _ hnode _ List.mem_cons_self)
  | component hmem _ ih => exact ih (hchild _ hnode _ hmem)
  | inner _ ih => exact ih (hchild _ hnode _ List.mem_cons_self)
  | parameter hmem _ ih =>
    have hparameter := hchild _ hnode _ (mem_children_of_mem_parameters? rfl hmem)
    obtain ⟨hoccurrence, hbinders⟩ := ih (hchild _ hparameter _ (mem_children_of_type? rfl))
    exact ⟨hoccurrence, List.forall_mem_cons.mpr ⟨hnode, hbinders⟩⟩
  | result _ ih =>
    obtain ⟨hoccurrence, hbinders⟩ := ih (hchild _ hnode _ (mem_children_of_type? rfl))
    exact ⟨hoccurrence, List.forall_mem_cons.mpr ⟨hnode, hbinders⟩⟩
  | argument hreference hmem _ ih =>
    exact ih (hchild _ hnode _ (mem_children_of_reference? hreference hmem))

/-- Entering two lists of declarations is entering one after the other. -/
lemma Syntax.Scope.enterAll_append (scope : Scope) (outer inner : List Node) :
    scope.enterAll (outer ++ inner) = (scope.enterAll outer).enterAll inner :=
  List.foldl_append

/-! ### Annotations without characters -/

/-- The annotation is the empty tuple, in parentheses or as the only component of a tuple. -/
def Syntax.Node.vanishes : Node → Bool
  | .tupleType _ [] => true
  | .tupleType _ [component] => component.vanishes
  | .parenthesizedType _ inner => inner.vanishes
  | _ => false

/-- An annotation that vanishes has the empty text in every scope. -/
lemma typeText_of_vanishes {node : Node} (h : node.vanishes = true) (scope : Scope) :
    typeText scope node = pure "" := by
  fun_induction Node.vanishes node with
  | case1 line => rfl
  | case2 line component ih =>
    rw [typeText_tupleType, List.map_singleton, Traced.all, ih h]
    rfl
  | case3 line inner ih => exact ih h
  | case4 => cases h

/-- The empty tuple occurs in an annotation that vanishes. -/
lemma exists_occurs_of_vanishes {node : Node} (h : node.vanishes = true) :
    ∃ line, Occurs (.tupleType line []) [] node := by
  fun_induction Node.vanishes node with
  | case1 line => exact ⟨line, .here⟩
  | case2 line component ih =>
    obtain ⟨inner, hinner⟩ := ih h
    exact ⟨inner, .component List.mem_cons_self hinner⟩
  | case3 line inner ih =>
    obtain ⟨inner, hinner⟩ := ih h
    exact ⟨inner, .inner hinner⟩
  | case4 => cases h

/-- Texts with a sign between them are empty when there are none or when the empty one is alone. -/
lemma eq_of_intercalate_product_eq_empty {texts : List String}
    (h : product.intercalate texts = "") : texts = [] ∨ texts = [""] := by
  cases texts with
  | nil => exact Or.inl rfl
  | cons first rest =>
    cases rest with
    | nil =>
      rw [String.intercalate_singleton] at h
      exact Or.inr (by rw [h])
    | cons second rest =>
      rw [String.intercalate_cons_cons] at h
      have hfirst := (String.append_eq_empty_iff.mp h).1
      exact absurd (String.append_eq_empty_iff.mp hfirst).2 (by decide)

/-- The counterparts of well-known types have characters. -/
lemma wellKnown?_ne_empty {name counterpart : String} (h : wellKnown? name = some counterpart) :
    counterpart ≠ "" := by
  unfold wellKnown? at h
  split at h
  all_goals first
    | cases h; decide
    | cases h

/-- The text of a reference to a name with characters has characters. -/
lemma referenceText_ne_empty (isVariable : Bool) {raw : String} (h : raw ≠ "")
    (ending arguments : String) : referenceText isVariable raw ending arguments ≠ "" := by
  have hnamed : ((wellKnown? raw).or (wellKnown? (raw ++ ending))).getD (raw ++ ending) ≠ "" := by
    cases hknown : (wellKnown? raw).or (wellKnown? (raw ++ ending)) with
    | none => exact fun hempty => h (String.append_eq_empty_iff.mp hempty).1
    | some counterpart =>
      rcases Option.or_eq_some_iff.mp hknown with hraw | ⟨-, hended⟩
      · exact wellKnown?_ne_empty hraw
      · exact wellKnown?_ne_empty hended
  unfold referenceText
  intro hempty
  split at hempty
  · rw [String.append_assoc] at hempty
    exact absurd (String.append_eq_empty_iff.mp hempty).1 (by decide)
  · exact hnamed (String.append_eq_empty_iff.mp hempty).1

/-- The counterparts of predefined types have characters. -/
lemma primitive?_getD_ne_empty (keyword : String) :
    (primitive? keyword).getD anonymous ≠ "" := by
  unfold primitive?
  split <;> decide

/-- The name of a filled reference has characters. -/
lemma name_ne_empty_of_reference? {node : Node} {reference : Reference}
    (h : reference? node = some reference) (hnode : node.FilledThroughout) {raw : String}
    (hraw : reference.name.text? = some raw) : raw ≠ "" := by
  unfold reference? at h
  split at h
  case h_5 => cases h
  all_goals
    obtain rfl := Option.some.inj h
    have hname := hnode.child List.mem_cons_self
    exact Node.text?_ne_empty hname.1 (by simp [Node.isTypeName, Node.isNamedValue]) hraw

/-- A filled annotation without characters vanishes. -/
lemma vanishes_of_typeText {node : Node} (hnode : node.FilledThroughout) {scope : Scope}
    (h : (typeText scope node).outcome = .ok "") : node.vanishes = true := by
  induction node using typeText_induction generalizing scope with
  | keywordType line keyword =>
    exact absurd (Traced.pure_outcome_eq_ok.mp h) (primitive?_getD_ne_empty keyword)
  | unionType line arms =>
    replace h : (union arms).outcome = .ok "" := h
    unfold union at h
    split at h
    · have hempty := Traced.pure_outcome_eq_ok.mp h
      exact absurd (String.append_eq_empty_iff.mp hempty).2 (by decide)
    · obtain ⟨-, -, hempty⟩ := Traced.bind_outcome_eq_ok.mp h
      exact absurd (Traced.pure_outcome_eq_ok.mp hempty) (by decide)
  | thisType line => exact absurd (Traced.pure_outcome_eq_ok.mp h) (by decide)
  | other node hother =>
    rw [hother] at h
    exact absurd (Traced.pure_outcome_eq_ok.mp h) (by decide)
  | arrayType line element ih =>
    rw [typeText_arrayType, Traced.map_outcome_eq_ok] at h
    obtain ⟨text, -, hempty⟩ := h
    exact absurd (String.append_eq_empty_iff.mp hempty).1 (by decide)
  | tupleType line components ih =>
    rw [typeText_tupleType, Traced.map_outcome_eq_ok] at h
    obtain ⟨texts, htexts, hempty⟩ := h
    have hrelated := Traced.all_map_outcome_eq_ok.mp htexts
    rcases eq_of_intercalate_product_eq_empty hempty with rfl | rfl
    · obtain rfl := List.forall₂_nil_right_iff.mp hrelated
      rfl
    · obtain ⟨component, rest, hcomponent, hrest, rfl⟩ :=
        List.forall₂_cons_right_iff.mp hrelated
      obtain rfl := List.forall₂_nil_right_iff.mp hrest
      exact ih component List.mem_cons_self (hnode.child List.mem_cons_self) hcomponent
  | parenthesizedType line inner ih => exact ih (hnode.child List.mem_cons_self) h
  | functionType line name result optional modifiers typeParameters parameters _ _ =>
    rw [typeText_functionType] at h
    obtain ⟨taken, -, hrest⟩ := Traced.bind_outcome_eq_ok.mp h
    obtain ⟨given, -, hfunction⟩ := Traced.bind_outcome_eq_ok.mp hrest
    have hempty := Traced.pure_outcome_eq_ok.mp hfunction
    exact absurd (String.append_eq_empty_iff.mp hempty).2 (by decide)
  | reference node reference hreference _ =>
    rw [typeText_reference hreference] at h
    obtain ⟨raw, hraw, hrest⟩ := Traced.bind_outcome_eq_ok.mp h
    obtain ⟨texts, -, hrest⟩ := Traced.bind_outcome_eq_ok.mp hrest
    obtain ⟨typeVariables, -, hwhole⟩ := Traced.bind_outcome_eq_ok.mp hrest
    have hname := name_ne_empty_of_reference? hreference hnode
      (Traced.present_outcome_eq_ok.mp hraw)
    exact absurd (Traced.pure_outcome_eq_ok.mp hwhole) (referenceText_ne_empty _ hname _ _)

/-- A well-typed and filled annotation that does not vanish has a text with characters. -/
lemma typeText_yields_ne_empty {node : Node} (hnode : node.WellTyped)
    (hfilled : node.FilledThroughout) (hvanishes : ¬ node.vanishes = true) {scope : Scope}
    (hscope : scope.Named) : (typeText scope node).Yields (· ≠ "") := by
  obtain ⟨text, htext, -⟩ := typeText_succeeds_of_named hnode hscope
  refine ⟨text, htext, ?_⟩
  rintro rfl
  exact hvanishes (vanishes_of_typeText hfilled htext)

/-! ### Operands -/

/-- The computations of the texts that the text of an annotation is joined from. -/
def operands (scope : Scope) : Node → List (Traced String)
  | .arrayType _ element => [typeText scope element]
  | .tupleType _ components => components.map (typeText scope)
  | node@(.signature .functionType _ _ result _ _ _ parameters) =>
    parameters.map (callbackParameterText (scope.enter node)) ++
      [typeText (scope.enter node) result]
  | node =>
    ((reference? node).map fun reference => reference.arguments.map (typeText scope)).getD []

/-- The annotation has a text with characters, and so have the operands of every annotation in it,
read inside of its binders. -/
def Gapless (scope : Scope) (node : Node) : Prop :=
  (typeText scope node).Yields (· ≠ "") ∧
  ∀ binders occurrence, Occurs occurrence binders node →
    ∀ operand ∈ operands (scope.enterAll binders) occurrence, operand.Yields (· ≠ "")

/-- The operands of a reference are its arguments. -/
lemma operands_of_reference? {node : Node} {reference : Reference}
    (h : reference? node = some reference) (scope : Scope) :
    operands scope node = reference.arguments.map (typeText scope) := by
  cases node with
  | typeReference | heritageType => rw [operands, h] <;> simp
  | _ => cases h

/-- An operand of a well-typed annotation is the anonymous type or the text of an annotation that
occurs in it. -/
lemma eq_anonymous_or_occurs_of_mem_operands {node : Node} (hnode : node.WellTyped) {scope : Scope}
    {operand : Traced String} (h : operand ∈ operands scope node) :
    operand = pure anonymous ∨ ∃ binders part, Occurs part binders node ∧
      operand = typeText (scope.enterAll binders) part := by
  unfold operands at h
  split at h
  · rw [List.mem_singleton.mp h]
    exact Or.inr ⟨[], _, .element .here, rfl⟩
  · obtain ⟨component, hmem, rfl⟩ := List.mem_map.mp h
    exact Or.inr ⟨[], component, .component hmem .here, rfl⟩
  · rcases List.mem_append.mp h with h | h
    · obtain ⟨parameter, hmem, rfl⟩ := List.mem_map.mp h
      obtain ⟨hfamily, -⟩ := hnode.parameters? rfl parameter hmem
      cases parameter with
      | parameter line name type optional rest =>
        cases rest with
        | true => exact Or.inl rfl
        | false => exact Or.inr ⟨[_], type, .parameter hmem .here, rfl⟩
      | _ => cases hfamily
    · rw [List.mem_singleton.mp h]
      exact Or.inr ⟨[_], _, .result .here, rfl⟩
  · cases hreference : reference? node with
    | none =>
      rw [hreference] at h
      cases h
    | some reference =>
      rw [hreference] at h
      obtain ⟨argument, hmem, rfl⟩ := List.mem_map.mp h
      exact Or.inr ⟨[], argument, .argument hreference hmem .here, rfl⟩

/-- Where the empty tuple occurs, the text of the annotation or one of the operands in it is the
empty text. -/
lemma exists_empty_of_occurs {line : Line} {binders : List Node} {node : Node}
    (h : Occurs (.tupleType line []) binders node) (scope : Scope) :
    (typeText scope node).outcome = .ok "" ∨
      ∃ binders' occurrence, Occurs occurrence binders' node ∧
        ∃ operand ∈ operands (scope.enterAll binders') occurrence, operand.outcome = .ok "" := by
  induction h generalizing scope with
  | here => exact Or.inl rfl
  | element _ ih =>
    rcases ih scope with hempty | ⟨binders', occurrence, hoccurs, hoperand⟩
    · exact Or.inr ⟨[], _, .here, _, List.mem_singleton.mpr rfl, hempty⟩
    · exact Or.inr ⟨binders', occurrence, hoccurs.element, hoperand⟩
  | component hmem _ ih =>
    rcases ih scope with hempty | ⟨binders', occurrence, hoccurs, hoperand⟩
    · exact Or.inr ⟨[], _, .here, _, List.mem_map_of_mem hmem, hempty⟩
    · exact Or.inr ⟨binders', occurrence, hoccurs.component hmem, hoperand⟩
  | inner _ ih =>
    rcases ih scope with hempty | ⟨binders', occurrence, hoccurs, hoperand⟩
    · exact Or.inl hempty
    · exact Or.inr ⟨binders', occurrence, hoccurs.inner, hoperand⟩
  | parameter hmem _ ih =>
    rcases ih (scope.enter _) with hempty | ⟨binders', occurrence, hoccurs, hoperand⟩
    · exact Or.inr ⟨[], _, .here, _, List.mem_append_left _ (List.mem_map_of_mem hmem), hempty⟩
    · exact Or.inr ⟨_ :: binders', occurrence, hoccurs.parameter hmem, hoperand⟩
  | result _ ih =>
    rcases ih (scope.enter _) with hempty | ⟨binders', occurrence, hoccurs, hoperand⟩
    · exact Or.inr ⟨[], _, .here, _, List.mem_append_right _ (List.mem_singleton.mpr rfl), hempty⟩
    · exact Or.inr ⟨_ :: binders', occurrence, hoccurs.result, hoperand⟩
  | argument hreference hmem _ ih =>
    rcases ih scope with hempty | ⟨binders', occurrence, hoccurs, hoperand⟩
    · refine Or.inr ⟨[], _, .here, _, ?_, hempty⟩
      rw [operands_of_reference? hreference]
      exact List.mem_map_of_mem hmem
    · exact Or.inr ⟨binders', occurrence, hoccurs.argument hreference hmem, hoperand⟩

/-- A computation that yields a text with characters does not end in the empty text. -/
lemma ne_empty_of_yields {computation : Traced String} (h : computation.Yields (· ≠ "")) :
    computation.outcome ≠ .ok "" := by
  obtain ⟨text, htext, hne⟩ := h
  rw [htext]
  exact fun hempty => hne (Except.ok.inj hempty)

/-- A well-typed and filled annotation is without gaps exactly when the empty tuple does not occur
in it. -/
lemma gapless_iff {node : Node} (hnode : node.WellTyped) (hfilled : node.FilledThroughout)
    {scope : Scope} (hscope : scope.Named) :
    Gapless scope node ↔ ∀ line binders, ¬ Occurs (.tupleType line []) binders node := by
  constructor
  · rintro ⟨htext, hoperands⟩ line binders hoccurs
    rcases exists_empty_of_occurs hoccurs scope with hempty | ⟨_, _, hinner, operand, hmem, hempty⟩
    · exact ne_empty_of_yields htext hempty
    · exact ne_empty_of_yields (hoperands _ _ hinner operand hmem) hempty
  · intro hnone
    -- Every annotation in the node is as the node itself is.
    have hpart : ∀ binders part, Occurs part binders node →
        (typeText (scope.enterAll binders) part).Yields (· ≠ "") := by
      intro binders part hoccurs
      obtain ⟨hwellTyped, hbinders⟩ := hoccurs.inherits (fun _ h _ => h.child) hnode
      obtain ⟨hpartFilled, -⟩ := hoccurs.inherits (fun _ h _ => h.child) hfilled
      have hinner : (scope.enterAll binders).Named := Scope.named_enterAll.mpr
        ⟨hscope, fun binder hmem => (hbinders binder hmem).namesTypeParameters⟩
      refine typeText_yields_ne_empty hwellTyped hpartFilled ?_ hinner
      intro hvanishes
      obtain ⟨line, hempty⟩ := exists_occurs_of_vanishes hvanishes
      exact hnone line _ (hempty.trans hoccurs)
    refine ⟨hpart [] node .here, fun binders occurrence hoccurs operand hmem => ?_⟩
    have hwellTyped := (hoccurs.inherits (fun _ h _ => h.child) hnode).1
    rcases eq_anonymous_or_occurs_of_mem_operands hwellTyped hmem with
      rfl | ⟨inner, part, hinner, rfl⟩
    · exact Traced.yields_pure (by decide)
    · rw [← Scope.enterAll_append]
      exact hpart _ part (hinner.trans hoccurs)

/-! ### Parameters -/

namespace Model

/-- The annotation of the node vanishes. -/
def AnnotationVanishes (node : Node) : Prop :=
  ∃ type, node.type? = some type ∧ type.vanishes = true

/-- The text of the annotation of a filled node has characters unless the annotation vanishes. -/
lemma Annotated.eq_empty_iff {scope : Scope} {node : Node} {text : String}
    (h : Annotated scope node text) (hfilled : node.FilledThroughout) :
    text = "" ↔ AnnotationVanishes node := by
  obtain ⟨written, hwritten, htext⟩ := h
  constructor
  · rintro rfl
    have hchild := hfilled.child (mem_children_of_type? hwritten)
    exact ⟨written, hwritten, vanishes_of_typeText hchild htext⟩
  · rintro ⟨type, htype, hvanishes⟩
    obtain rfl : written = type := Option.some.inj (hwritten.symm.trans htype)
    rw [typeText_of_vanishes hvanishes] at htext
    exact (Traced.pure_outcome_eq_ok.mp htext).symm

/-- The types of the declared parameters and of the result have characters, but those of annotations
that vanish. -/
structure Method.ShowsTypes (node : Node) (method : Method) : Prop where
  parameters : ∃ declared own, node.parameters? = some declared ∧
    List.Forall₂ (fun parameter record => record.type = "" ↔ AnnotationVanishes parameter)
      declared own ∧
    method.parameters = withSentinel own
  result : method.type = "" ↔ AnnotationVanishes node

/-- The record of a filled declaration shows its types. -/
lemma Method.StemsFrom.showsTypes {scope : Scope} {node : Node} {name : Option String} {ctor : Bool}
    {owner : String} {method : Method} (h : method.StemsFrom scope node name ctor owner)
    (hfilled : node.FilledThroughout) : method.ShowsTypes node := by
  refine ⟨?_, h.type.eq_empty_iff hfilled⟩
  obtain ⟨declared, own, hdeclared, hown, hparameters⟩ := h.parameters
  refine ⟨declared, own, hdeclared, ?_, hparameters⟩
  have hchildren : ∀ parameter ∈ declared, parameter.FilledThroughout := fun parameter hmem =>
    hfilled.child (mem_children_of_mem_parameters? hdeclared hmem)
  refine ((List.forall₂_and_left _ _).mpr ⟨hchildren, hown⟩).imp ?_
  rintro parameter record ⟨hparameter, hrecord⟩
  exact hrecord.type.eq_empty_iff hparameter

end Model

/-- **Types have characters.**  A well-typed annotation without empty identifiers has a text in
every scope whose type parameters have names.  The text is empty exactly for the empty tuple, in
parentheses or as the only component of a tuple, and the annotation and all operands in it have
characters exactly when the empty tuple does not occur in it.  In the record of a declaration with
parameters the types have characters but those of annotations that vanish. -/
theorem types_have_characters {scope : Scope} {node : Node} (hnode : node.WellTyped)
    (hfilled : node.FilledThroughout) :
    (scope.Named →
      (typeText scope node).Yields (fun text => text = "" ↔ node.vanishes = true) ∧
      (Gapless scope node ↔ ∀ line binders, ¬ Occurs (.tupleType line []) binders node)) ∧
    ∀ (parameters : List Node) (bound : Option String) (static ctor : Bool) (owner : String),
      scope.WellTyped → node.parameters? = some parameters →
      (Model.methodOf scope node bound static ctor owner).Yields
        (Model.Method.ShowsTypes node) := by
  constructor
  · intro hscope
    refine ⟨?_, gapless_iff hnode hfilled hscope⟩
    obtain ⟨text, htext, -⟩ := typeText_succeeds_of_named hnode hscope
    refine ⟨text, htext, ?_⟩
    constructor
    · rintro rfl
      exact vanishes_of_typeText hfilled htext
    · intro hvanishes
      rw [typeText_of_vanishes hvanishes] at htext
      exact (Traced.pure_outcome_eq_ok.mp htext).symm
  · intro parameters bound static ctor owner hscope hparameters
    cases node with
    | signature =>
      obtain ⟨method, hmethod, -⟩ := Model.methodOf_succeeds hscope hnode bound static ctor owner
      exact ⟨method, hmethod, (Model.stemsFrom_of_methodOf hmethod).showsTypes hfilled⟩
    | _ => cases hparameters

/-- A function that takes a parameter of the given type and gives nothing. -/
def takerOf (kind : SignatureKind) (type : Node) : Node :=
  .signature kind none .absent (.keywordType none "void") false [] []
    [.parameter none (.identifier none "x") type false false]

/-- A pair of a list and a value in a tuple of its own. -/
def nestedPair : Node :=
  .tupleType none [.arrayType none (plainReference "T"),
    .tupleType none [.parenthesizedType none (plainReference "U")]]

/-- A function that takes the pair has no gaps, and its record shows the type of the pair. -/
theorem types_have_characters_nestedPair :
    Gapless ⟨[genericInterface "T"]⟩ (takerOf .functionType nestedPair) ∧
    (typeText ⟨[genericInterface "T"]⟩ (takerOf .functionType nestedPair)).outcome =
      .ok "(array 'T * U.t => unit)" ∧
    (Model.methodOf ⟨[genericInterface "T"]⟩ (takerOf .methodSignature nestedPair) (some "f") false
      false "I").Yields (Model.Method.ShowsTypes (takerOf .methodSignature nestedPair)) := by
  have hnamed : (⟨[genericInterface "T"]⟩ : Scope).Named := by decide
  have hscope : (⟨[genericInterface "T"]⟩ : Scope).WellTyped := by decide
  refine ⟨?_, rfl, ?_⟩
  · have hplain : (takerOf .functionType nestedPair).PlainThroughout := by decide
    have hgaps := ((@types_have_characters ⟨[genericInterface "T"]⟩
      (takerOf .functionType nestedPair) (by decide) (by decide)).1 hnamed).2
    refine hgaps.mpr fun line binders hoccurs => ?_
    have htuple := (hoccurs.inherits (fun _ h _ => h.child) hplain).1
    exact absurd htuple.1 (by simp [Node.isPlain])
  · have hmethod := (@types_have_characters ⟨[genericInterface "T"]⟩
      (takerOf .methodSignature nestedPair) (by decide) (by decide)).2
    exact hmethod _ (some "f") false false "I" hscope rfl

/-- A function type that takes the empty tuple has the text of one without parameters: the empty
tuple, a well-typed annotation, is mapped to the empty text. -/
theorem typeText_emptyTuple :
    (Node.tupleType none []).WellTyped ∧ (Node.tupleType none []).FilledThroughout ∧
    (typeText Scope.empty (.tupleType none [])).outcome = .ok "" ∧
    (typeText Scope.empty (takerOf .functionType (.tupleType none []))).outcome =
      .ok "(unit => unit)" ∧
    ¬ Gapless Scope.empty (takerOf .functionType (.tupleType none [])) := by
  refine ⟨by decide, by decide, rfl, rfl, fun h => ?_⟩
  have hnone := (gapless_iff (by decide) (by decide) (by decide)).mp h
  exact hnone none _ (.parameter List.mem_cons_self .here)

end ReasonBindings
