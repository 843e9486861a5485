import ReasonBindings.Proofs.Syntax.Scope
import ReasonBindings.Proofs.TypeText.Shape

/-!
# Lexical scoping of type parameters

A reference inside an annotation is a type variable exactly when a function type of
the annotation that encloses it declares its name, or a declaration of the scope
does.  To say this, the occurrences of references in an annotation are listed
together with the function types around them, the *binders* of the occurrence.

`typeText_congr` says that the text of an annotation depends on the scope only
through the answers to the names of the occurrences, each asked in the scope inside
the binders; the statement about two scopes follows, since the answer to a bound name
is given by the binders alone.  `typeText_occurs` says that the text of every
occurrence, read inside its binders, stands in the text of the whole annotation.
-/

namespace ReasonBindings

open Syntax TypeText

/-! ### Occurrences and binders -/

/-- An annotation stands inside another one, in a place that has a text.  The list has the function
types of the outer annotation around that place, outermost first. -/
inductive Occurs (occurrence : Node) : List Node → Node → Prop
  | here : Occurs occurrence [] occurrence
  | element {line : Line} {element : Node} {binders : List Node} :
    Occurs occurrence binders element → Occurs occurrence binders (.arrayType line element)
  | component {line : Line} {component : Node} {components binders : List Node} :
    component ∈ components → Occurs occurrence binders component →
    Occurs occurrence binders (.tupleType line components)
  | inner {line : Line} {inner : Node} {binders : List Node} :
    Occurs occurrence binders inner → Occurs occurrence binders (.parenthesizedType line inner)
  | parameter {line parameterLine : Line} {name result parameterName type : Node}
    {optional parameterOptional : Bool} {modifiers : List String}
    {typeParameters parameters binders : List Node} :
    .parameter parameterLine parameterName type parameterOptional false ∈ parameters →
    Occurs occurrence binders type →
    Occurs occurrence
      (.signature .functionType line name result optional modifiers typeParameters parameters ::
        binders)
      (.signature .functionType line name result optional modifiers typeParameters parameters)
  | result {line : Line} {name result : Node} {optional : Bool} {modifiers : List String}
    {typeParameters parameters binders : List Node} :
    Occurs occurrence binders result →
    Occurs occurrence
      (.signature .functionType line name result optional modifiers typeParameters parameters ::
        binders)
      (.signature .functionType line name result optional modifiers typeParameters parameters)
  | argument {node argument : Node} {reference : Reference} {binders : List Node} :
    reference? node = some reference → argument ∈ reference.arguments →
    Occurs occurrence binders argument → Occurs occurrence binders node

/-- One of the binders declares a type parameter of the given name. -/
def BoundBy (binders : List Node) (name : String) : Prop :=
  ∃ binder ∈ binders, name ∈ binder.typeParameterNames

instance (binders : List Node) (name : String) : Decidable (BoundBy binders name) :=
  inferInstanceAs (Decidable (∃ binder ∈ _, _))

namespace Syntax.Scope

/-- Inside the binders a name is declared by one of them or was so before. -/
lemma declares_enterAll {scope : Scope} {binders : List Node} {name : String} :
    (scope.enterAll binders).Declares name ↔ BoundBy binders name ∨ scope.Declares name := by
  unfold Declares BoundBy
  rw [enclosing_enterAll]
  constructor
  · rintro ⟨declaration, hmem, hname⟩
    rcases List.mem_append.mp hmem with hmem | hmem
    · exact Or.inr ⟨declaration, hmem, hname⟩
    · exact Or.inl ⟨declaration, hmem, hname⟩
  · rintro (⟨declaration, hmem, hname⟩ | ⟨declaration, hmem, hname⟩)
    · exact ⟨declaration, List.mem_append_right _ hmem, hname⟩
    · exact ⟨declaration, List.mem_append_left _ hmem, hname⟩

/-- Inside the binders every type parameter has a name when this holds of the binders and did so
before. -/
lemma named_enterAll {scope : Scope} {binders : List Node} :
    (scope.enterAll binders).Named ↔
      scope.Named ∧ ∀ binder ∈ binders, binder.NamesTypeParameters := by
  unfold Named
  rw [enclosing_enterAll, List.forall_mem_append]

/-- Two scopes that agree on a name unless it is bound give the same answer inside the binders. -/
lemma resolves_enterAll_congr {scope scope' : Scope} (h : scope.Named) (h' : scope'.Named)
    {binders : List Node} {name : String}
    (hagree : ¬ BoundBy binders name → (scope.Declares name ↔ scope'.Declares name)) :
    (scope.enterAll binders).resolves name = (scope'.enterAll binders).resolves name := by
  by_cases hbinders : ∀ binder ∈ binders, binder.NamesTypeParameters
  · rw [resolves_of_named (named_enterAll.mpr ⟨h, hbinders⟩),
      resolves_of_named (named_enterAll.mpr ⟨h', hbinders⟩)]
    have hdeclares : (scope.enterAll binders).Declares name ↔
        (scope'.enterAll binders).Declares name := by
      rw [declares_enterAll, declares_enterAll]
      by_cases hbound : BoundBy binders name
      · exact iff_of_true (Or.inl hbound) (Or.inl hbound)
      · exact or_congr_right (hagree hbound)
    rw [decide_eq_decide.mpr hdeclares]
  · rw [resolves_of_not_named fun hnamed => hbinders (named_enterAll.mp hnamed).2,
      resolves_of_not_named fun hnamed => hbinders (named_enterAll.mp hnamed).2]

end Syntax.Scope

/-! ### Dependence on the scope -/

/-- The text of a reference depends on the scope through its arguments and through one answer. -/
lemma typeText_reference_resolves {node : Node} {reference : Reference}
    (h : reference? node = some reference) (scope : Scope) :
    typeText scope node = (do
      let raw ← Traced.present reference.name.text?
      let texts ← Traced.all (reference.arguments.map (typeText scope))
      let isVariable ← scope.resolves raw
      return referenceText isVariable raw reference.ending (argumentList texts)) := by
  rw [typeText_reference h, Scope.visibleFrom_eq (typeParameters?_of_reference? h)]
  simp only [Scope.resolves, Traced.bind_assoc, Traced.pure_bind]

/-- **Dependence on the scope.**  Two scopes that give the same answer to the name of each
occurrence inside its binders give an annotation the same text. -/
theorem typeText_congr (node : Node) (scope scope' : Scope)
    (h : ∀ binders occurrence name, Occurs occurrence binders node →
      referencedName? occurrence = some name →
      (scope.enterAll binders).resolves name = (scope'.enterAll binders).resolves name) :
    typeText scope node = typeText scope' node := by
  induction node using typeText_induction generalizing scope scope' with
  | keywordType line keyword => rfl
  | unionType line arms => rfl
  | thisType line => rfl
  | other node hother => rw [hother, hother]
  | arrayType line element ih =>
    have helement := ih scope scope' fun binders occurrence name hoccurs =>
      h binders occurrence name hoccurs.element
    rw [typeText_arrayType, typeText_arrayType, helement]
  | tupleType line elements ih =>
    have helements : elements.map (typeText scope) = elements.map (typeText scope') :=
      List.map_congr_left fun element hmem => ih element hmem scope scope'
        fun binders occurrence name hoccurs => h binders occurrence name (hoccurs.component hmem)
    rw [typeText_tupleType, typeText_tupleType, helements]
  | parenthesizedType line inner ih =>
    exact ih scope scope' fun binders occurrence name hoccurs =>
      h binders occurrence name hoccurs.inner
  | functionType line name result optional modifiers typeParameters parameters ihresult
      ihparameters =>
    rw [typeText_functionType, typeText_functionType]
    -- One step into the function type moves it from the scope to the binders.
    have hresult := ihresult (scope.enter (.signature .functionType line name result optional
      modifiers typeParameters parameters)) (scope'.enter (.signature .functionType line name result
      optional modifiers typeParameters parameters))
      fun binders occurrence name hoccurs => h (_ :: binders) occurrence name hoccurs.result
    have hparameters : parameters.map (callbackParameterText (scope.enter (.signature .functionType
        line name result optional modifiers typeParameters parameters))) =
        parameters.map (callbackParameterText (scope'.enter (.signature .functionType line name
        result optional modifiers typeParameters parameters))) := by
      refine List.map_congr_left fun parameter hmem => ?_
      cases parameter with
      | parameter parameterLine parameterName type parameterOptional rest =>
        cases rest with
        | true => rfl
        | false =>
          exact ihparameters _ hmem _ _ _ _ rfl _ _ fun binders occurrence name hoccurs =>
            h (_ :: binders) occurrence name (hoccurs.parameter hmem)
      | _ => rfl
    simp only [hparameters, hresult]
  | reference node reference hreference ih =>
    have harguments : reference.arguments.map (typeText scope) =
        reference.arguments.map (typeText scope') :=
      List.map_congr_left fun argument hmem => ih argument hmem scope scope'
        fun binders occurrence name hoccurs =>
          h binders occurrence name (hoccurs.argument hreference hmem)
    rw [typeText_reference_resolves hreference, typeText_reference_resolves hreference, harguments]
    cases hname : reference.name.text? with
    | none => rfl
    | some raw =>
      have hraw : scope.resolves raw = scope'.resolves raw :=
        h [] node raw Occurs.here (by rw [referencedName?, hreference, Option.bind_some, hname])
      simp only [Traced.present_some, Traced.pure_bind, hraw]

/-! ### Texts inside texts -/

/-- A text stands inside another one. -/
def StandsIn (part whole : String) : Prop :=
  ∃ before after, whole = before ++ part ++ after

namespace StandsIn

/-- A text stands inside itself. -/
lemma refl (text : String) : StandsIn text text :=
  ⟨"", "", by simp⟩

/-- What stands inside a text stands inside every text that the text stands in. -/
lemma trans {part middle whole : String} (h : StandsIn part middle) (h' : StandsIn middle whole) :
    StandsIn part whole := by
  obtain ⟨before, after, rfl⟩ := h
  obtain ⟨before', after', rfl⟩ := h'
  exact ⟨before' ++ before, after ++ after', by simp only [String.append_assoc]⟩

/-- The first of two texts stands inside both together. -/
lemma append_right (first second : String) : StandsIn first (first ++ second) :=
  ⟨"", second, by simp⟩

/-- The second of two texts stands inside both together. -/
lemma append_left (first second : String) : StandsIn second (first ++ second) :=
  ⟨first, "", by simp⟩

/-- A text that is put between separators stands inside the whole. -/
lemma intercalate {separator text : String} {texts : List String} (h : text ∈ texts) :
    StandsIn text (separator.intercalate texts) := by
  induction texts with
  | nil => cases h
  | cons head tail ih =>
    cases tail with
    | nil =>
      rw [List.mem_singleton.mp h, String.intercalate_singleton]
      exact refl head
    | cons next rest =>
      rw [String.intercalate_cons_cons]
      rcases List.mem_cons.mp h with rfl | htail
      · exact (append_right text separator).trans (append_right _ _)
      · exact (ih htail).trans (append_left _ _)

/-- A text of a list of type arguments stands inside the list. -/
lemma argumentList {text : String} {texts : List String} (h : text ∈ texts) :
    StandsIn text (argumentList texts) := by
  unfold TypeText.argumentList
  rw [if_neg (by simpa using List.ne_nil_of_mem h)]
  exact (intercalate h).trans ((append_left "(" _).trans (append_right _ ")"))

/-- The type arguments of a reference stand behind its name. -/
lemma referenceText (isVariable : Bool) (raw ending arguments : String) :
    StandsIn arguments (referenceText isVariable raw ending arguments) := by
  unfold ReasonBindings.referenceText
  split
  · exact append_left _ _
  · exact append_left _ _

/-- The text of a parameter of a function type stands inside the text of the function type. -/
lemma function_parameter {text result : String} {parameters : List String} (h : text ∈ parameters) :
    StandsIn text (function parameters result) := by
  have htaken : StandsIn text (if arrow.intercalate parameters = "" then unit
      else arrow.intercalate parameters) := by
    have hinside : StandsIn text (arrow.intercalate parameters) := intercalate h
    split
    · rename_i hempty
      rw [hempty] at hinside
      obtain ⟨before, after, hwhole⟩ := hinside
      have htext : text = "" := by
        have hparts := congrArg String.toList hwhole
        simp at hparts
        exact hparts.2.1
      exact ⟨"", unit, by simp [htext]⟩
    · exact hinside
  unfold function
  simp only [String.append_assoc]
  exact htaken.trans ((append_right _ _).trans (append_left _ _))

/-- The text of the result of a function type stands inside the text of the function type. -/
lemma function_result (parameters : List String) (result : String) :
    StandsIn result (function parameters result) := by
  unfold function
  exact (append_left _ _).trans (append_right _ _)

end StandsIn

/-! ### Texts of occurrences -/

/-- The text of an occurrence, read inside its binders, stands in the text of the annotation. -/
theorem typeText_occurs {occurrence node : Node} {binders : List Node}
    (hoccurs : Occurs occurrence binders node) {scope : Scope} {text : String}
    (h : (typeText scope node).outcome = .ok text) :
    ∃ rendered, (typeText (scope.enterAll binders) occurrence).outcome = .ok rendered ∧
      StandsIn rendered text := by
  -- The scope varies, since the inner annotations of a function type are read inside of it.
  induction hoccurs generalizing scope text with
  | here => exact ⟨text, h, StandsIn.refl text⟩
  | element _ ih =>
    rw [typeText_arrayType, Traced.map_outcome_eq_ok] at h
    obtain ⟨element, helement, rfl⟩ := h
    obtain ⟨rendered, hrendered, hstands⟩ := ih helement
    exact ⟨rendered, hrendered, hstands.trans (StandsIn.append_left _ _)⟩
  | component hmem _ ih =>
    rw [typeText_tupleType, Traced.map_outcome_eq_ok] at h
    obtain ⟨components, hcomponents, rfl⟩ := h
    obtain ⟨component, hcomponent, htext⟩ := Traced.exists_result_of_all_map hcomponents hmem
    obtain ⟨rendered, hrendered, hstands⟩ := ih htext
    exact ⟨rendered, hrendered, hstands.trans (StandsIn.intercalate hcomponent)⟩
  | inner _ ih => exact ih h
  | parameter hmem _ ih =>
    rw [typeText_functionType] at h
    obtain ⟨taken, htaken, hrest⟩ := Traced.bind_outcome_eq_ok.mp h
    obtain ⟨given, -, hfunction⟩ := Traced.bind_outcome_eq_ok.mp hrest
    obtain rfl := Traced.pure_outcome_eq_ok.mp hfunction
    obtain ⟨parameter, hparameter, htext⟩ := Traced.exists_result_of_all_map htaken hmem
    obtain ⟨rendered, hrendered, hstands⟩ := ih htext
    exact ⟨rendered, hrendered, hstands.trans (StandsIn.function_parameter hparameter)⟩
  | result _ ih =>
    rw [typeText_functionType] at h
    obtain ⟨taken, -, hrest⟩ := Traced.bind_outcome_eq_ok.mp h
    obtain ⟨given, hgiven, hfunction⟩ := Traced.bind_outcome_eq_ok.mp hrest
    obtain rfl := Traced.pure_outcome_eq_ok.mp hfunction
    obtain ⟨rendered, hrendered, hstands⟩ := ih hgiven
    exact ⟨rendered, hrendered, hstands.trans (StandsIn.function_result taken given)⟩
  | argument hreference hmem _ ih =>
    rw [typeText_reference_resolves hreference] at h
    obtain ⟨raw, -, hrest⟩ := Traced.bind_outcome_eq_ok.mp h
    obtain ⟨texts, htexts, hrest⟩ := Traced.bind_outcome_eq_ok.mp hrest
    obtain ⟨isVariable, -, hwhole⟩ := Traced.bind_outcome_eq_ok.mp hrest
    obtain rfl := Traced.pure_outcome_eq_ok.mp hwhole
    obtain ⟨argument, hargument, htext⟩ := Traced.exists_result_of_all_map htexts hmem
    obtain ⟨rendered, hrendered, hstands⟩ := ih htext
    exact ⟨rendered, hrendered, (hstands.trans (StandsIn.argumentList hargument)).trans
      (StandsIn.referenceText _ _ _ _)⟩

/-- No counterpart of a well-known type looks like a type variable. -/
lemma wellKnown?_ne_variable {name counterpart : String} (h : wellKnown? name = some counterpart)
    (raw : String) : counterpart ≠ variableMark ++ raw := by
  have hhead : counterpart.toList.head? ≠ some '\'' := by
    unfold wellKnown? at h
    split at h
    all_goals first
      | cases h; decide
      | cases h
  rintro rfl
  exact hhead (by simp [variableMark])

/-- A reference is written like a type variable exactly when it is one. -/
lemma referenceText_eq_variable_iff {isVariable : Bool} {raw ending arguments : String}
    (hending : ending = "" ∨ ending = "." ++ instanceType) :
    referenceText isVariable raw ending arguments = variableMark ++ raw ++ arguments ↔
      isVariable = true := by
  constructor
  · intro h
    by_contra hvariable
    unfold referenceText at h
    rw [if_neg hvariable, String.append_left_inj] at h
    cases hknown : (wellKnown? raw).or (wellKnown? (raw ++ ending)) with
    | some counterpart =>
      rw [hknown, Option.getD_some] at h
      rcases Option.or_eq_some_iff.mp hknown with hraw | ⟨-, hended⟩
      · exact wellKnown?_ne_variable hraw raw h
      · exact wellKnown?_ne_variable hended raw h
    | none =>
      rw [hknown, Option.getD_none] at h
      have hlength : ending.length = 1 := by
        have hlengths := congrArg String.length h
        rw [String.length_append, String.length_append, Nat.add_comm] at hlengths
        exact Nat.add_right_cancel hlengths
      rcases hending with rfl | rfl
      · exact absurd hlength (by decide)
      · exact absurd hlength (by decide)
  · rintro rfl
    rfl

/-! ### Lexical scoping -/

/-- What an occurrence of a reference is read as, given that the annotation around it is read. -/
lemma typeText_occurrence {node occurrence : Node} {binders : List Node}
    (hoccurs : Occurs occurrence binders node) {reference : Reference}
    (hreference : reference? occurrence = some reference) {name : String}
    (hname : reference.name.text? = some name) {scope : Scope} {text : String}
    (h : (typeText scope node).outcome = .ok text) :
    ∃ arguments rendered,
      (typeArgumentsText (scope.enterAll binders) reference.arguments).outcome = .ok arguments ∧
      (typeText (scope.enterAll binders) occurrence).outcome = .ok rendered ∧
      StandsIn rendered text ∧
      (rendered = variableMark ++ name ++ arguments ↔
        BoundBy binders name ∨ scope.Declares name) := by
  obtain ⟨rendered, hrendered, hstands⟩ := typeText_occurs hoccurs h
  have hparts := hrendered
  rw [typeText_reference_resolves hreference, hname, Traced.present_some, Traced.pure_bind]
    at hparts
  obtain ⟨texts, htexts, hrest⟩ := Traced.bind_outcome_eq_ok.mp hparts
  obtain ⟨isVariable, hresolves, hwhole⟩ := Traced.bind_outcome_eq_ok.mp hrest
  obtain rfl := Traced.pure_outcome_eq_ok.mp hwhole
  refine ⟨argumentList texts, _, ?_, hrendered, hstands, ?_⟩
  · unfold typeArgumentsText
    rw [typeTexts_eq_all]
    exact Traced.bind_outcome_eq_ok.mpr ⟨texts, htexts, rfl⟩
  · rw [referenceText_eq_variable_iff (ending_of_reference? hreference),
      Scope.named_of_resolves hresolves, decide_eq_true_iff, Scope.declares_enterAll]

/-- **Type parameters are lexically scoped.**  Scopes that agree on the names of the occurrences
that no function type of the annotation binds give the annotation the same text.  An occurrence that
has a text is written as a type variable exactly when it is bound or its name is declared in the
scope, whatever else the name may stand for. -/
theorem typeText_lexicallyScoped (node : Node) :
    (∀ scope scope' : Scope, scope.Named → scope'.Named →
      (∀ binders occurrence name, Occurs occurrence binders node →
        referencedName? occurrence = some name → ¬ BoundBy binders name →
        (scope.Declares name ↔ scope'.Declares name)) →
      typeText scope node = typeText scope' node) ∧
    (∀ (scope : Scope) text, (typeText scope node).outcome = .ok text →
      ∀ binders occurrence reference name, Occurs occurrence binders node →
        reference? occurrence = some reference → reference.name.text? = some name →
        ∃ arguments rendered,
          (typeArgumentsText (scope.enterAll binders) reference.arguments).outcome =
            .ok arguments ∧
          (typeText (scope.enterAll binders) occurrence).outcome = .ok rendered ∧
          StandsIn rendered text ∧
          (rendered = variableMark ++ name ++ arguments ↔
            BoundBy binders name ∨ scope.Declares name)) := by
  constructor
  · intro scope scope' hnamed hnamed' hagree
    refine typeText_congr node scope scope' fun binders occurrence name hoccurs hname => ?_
    exact Scope.resolves_enterAll_congr hnamed hnamed'
      (hagree binders occurrence name hoccurs hname)
  · intro scope text h binders occurrence reference name hoccurs hreference hname
    exact typeText_occurrence hoccurs hreference hname h

/-- A named type without type arguments. -/
def plainReference (name : String) : Node :=
  .typeReference none (.identifier none name) []

/-- A function type that declares `T` and the name of a well-known type, and takes a `T` and a list
of the other one to a type from outside of it. -/
def shadowingCallback : Node :=
  .signature .functionType none .absent (plainReference "S") false []
    [.typeParameter none (.identifier none "T"), .typeParameter none (.identifier none "Date")]
    [.parameter none (.identifier none "item") (plainReference "T") false false,
      .parameter none (.identifier none "days")
        (.typeReference none (.identifier none "Array") [plainReference "Date"]) false false]

/-- An interface with one type parameter. -/
def genericInterface (parameter : String) : Node :=
  .interfaceDecl none (.identifier none "I")
    [.typeParameter none (.identifier none parameter)] [] []

/-- Whether `T` is also declared outside makes no difference to a function type that declares it,
and a name of a well-known type is a type variable where it is declared. -/
theorem typeText_shadowingCallback :
    typeText ⟨[genericInterface "S"]⟩ shadowingCallback =
      typeText ⟨[genericInterface "T", genericInterface "S"]⟩ shadowingCallback ∧
    ∃ arguments rendered,
      (typeArgumentsText ⟨[genericInterface "S", shadowingCallback]⟩ []).outcome = .ok arguments ∧
      (typeText ⟨[genericInterface "S", shadowingCallback]⟩ (plainReference "Date")).outcome =
        .ok rendered ∧
      StandsIn rendered "('T => ResizeArray('Date) => 'S)" ∧
      (rendered = "'" ++ "Date" ++ arguments ↔
        BoundBy [shadowingCallback] "Date" ∨
          (⟨[genericInterface "S"]⟩ : Scope).Declares "Date") := by
  constructor
  · refine (typeText_lexicallyScoped shadowingCallback).1 _ _ (by decide) (by decide) ?_
    intro binders occurrence name hoccurs hname hunbound
    have hdeclared : name ≠ "T" := by
      rintro rfl
      cases hoccurs with
      | here => cases hname
      | parameter | result => exact hunbound ⟨_, List.mem_cons_self, by decide⟩
      | argument hreference => cases hreference
    have hnames : (genericInterface "T").typeParameterNames = ["T"] := by decide
    simp [Scope.Declares, hnames, hdeclared]
  · exact (typeText_lexicallyScoped shadowingCallback).2 ⟨[genericInterface "S"]⟩
      "('T => ResizeArray('Date) => 'S)" rfl [shadowingCallback] (plainReference "Date")
      ⟨.identifier none "Date", ".t", []⟩ "Date"
      (.parameter (List.mem_cons_of_mem _ List.mem_cons_self)
        (.argument rfl List.mem_cons_self .here)) rfl rfl

end ReasonBindings
