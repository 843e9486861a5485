import ReasonBindings.Proofs.Lists
import ReasonBindings.Traced

/-!
# Outcomes of sequences

A sequence of traced computations ends in a value exactly when each of its parts
does, each part being given the values of the parts before it.  The equivalences
below take a computation apart along its sequence, one part at a time, so that a
statement about what a computation ends in can be proved without looking at its
notices.
-/

namespace ReasonBindings.Traced

variable {α β : Type}

/-- A value without notices is the only outcome there is. -/
lemma pure_outcome_eq_ok {value result : α} :
    (pure value : Traced α).outcome = .ok result ↔ value = result := by
  simp

/-- A sequence ends in a value exactly when its first part ends in some value and what follows
that value ends in the value of the sequence. -/
lemma bind_outcome_eq_ok {first : Traced α} {next : α → Traced β} {result : β} :
    (first >>= next).outcome = .ok result ↔
      ∃ value, first.outcome = .ok value ∧ (next value).outcome = .ok result := by
  obtain ⟨notices, outcome⟩ := first
  cases outcome with
  | error cause => simp [Bind.bind, Traced.bind]
  | ok value => simp [Bind.bind, Traced.bind]

/-- A sequence whose second part is a function of the value of the first one ends in what the
function makes of that value. -/
lemma bind_pure_outcome_eq_ok {first : Traced α} {f : α → β} {result : β} :
    (first >>= fun value => pure (f value)).outcome = .ok result ↔
      ∃ value, first.outcome = .ok value ∧ f value = result := by
  simp only [bind_outcome_eq_ok, pure_outcome_eq_ok]

/-- A function of a value ends in what the function makes of the value. -/
lemma map_outcome_eq_ok {f : α → β} {traced : Traced α} {result : β} :
    (f <$> traced).outcome = .ok result ↔
      ∃ value, traced.outcome = .ok value ∧ f value = result := by
  obtain ⟨notices, outcome⟩ := traced
  cases outcome with
  | error cause => simp [Except.map]
  | ok value => simp [Except.map]

/-- The outcome of a sequence is that of its parts one after another. -/
lemma bind_outcome (first : Traced α) (next : α → Traced β) :
    (first >>= next).outcome = first.outcome >>= fun value => (next value).outcome := by
  obtain ⟨notices, outcome⟩ := first
  cases outcome with
  | error cause => rfl
  | ok value => rfl

/-- A sequence whose second part cannot fail ends in what it makes of the value of the first one. -/
lemma bind_outcome_eq_map {first : Traced α} {next : α → Traced β} {f : α → β}
    (h : ∀ value, first.outcome = .ok value → (next value).outcome = .ok (f value)) :
    (first >>= next).outcome = first.outcome.map f := by
  obtain ⟨notices, outcome⟩ := first
  cases outcome with
  | error cause => rfl
  | ok value => exact h value rfl

/-- An attribute ends in its value when there is one. -/
lemma present_outcome_eq_ok {value? : Option α} {result : α} :
    (present value?).outcome = .ok result ↔ value? = some result := by
  cases value? with
  | none => simp
  | some value => simp

/-- A function of an attribute is an attribute. -/
lemma present_map (f : α → β) (value? : Option α) :
    present (value?.map f) = f <$> present value? := by
  cases value? <;> rfl

/-- A fault ends in no value. -/
lemma fault_outcome_ne_ok {cause : Fault} {result : α} :
    (fault cause : Traced α).outcome ≠ .ok result := by
  simp

/-- A list of computations ends in the list of their values. -/
lemma all_outcome_eq_ok {computations : List (Traced α)} {results : List α} :
    (all computations).outcome = .ok results ↔
      List.Forall₂ (fun computation result => computation.outcome = .ok result)
        computations results := by
  induction computations generalizing results with
  | nil => simp [all, eq_comm]
  | cons first rest ih =>
    simp only [all, bind_outcome_eq_ok, map_outcome_eq_ok, List.forall₂_cons_left_iff, ih]
    constructor
    · rintro ⟨value, hvalue, values, hvalues, rfl⟩
      exact ⟨value, values, hvalue, hvalues, rfl⟩
    · rintro ⟨value, values, hvalue, hvalues, rfl⟩
      exact ⟨value, hvalue, values, hvalues, rfl⟩

/-- A computation for each member of a list ends in the list of the values. -/
lemma all_map_outcome_eq_ok {f : α → Traced β} {arguments : List α} {results : List β} :
    (all (arguments.map f)).outcome = .ok results ↔
      List.Forall₂ (fun argument result => (f argument).outcome = .ok result)
        arguments results := by
  rw [all_outcome_eq_ok, List.forall₂_map_left_iff]

/-- Two lists of computations one after the other are one list of computations. -/
lemma all_append (computations computations' : List (Traced α)) :
    all (computations ++ computations') = (do
      let values ← all computations
      let values' ← all computations'
      return values ++ values') := by
  induction computations with
  | nil => exact (bind_pure _).symm
  | cons first rest ih =>
    rw [List.cons_append, all, all, ih]
    simp only [← bind_pure_comp, bind_assoc, pure_bind, List.cons_append]

/-- Lists of computations, one list after another, are one list of computations. -/
lemma all_flatMap (f : α → List (Traced β)) (arguments : List α) :
    (do return (← all (arguments.map fun argument => all (f argument))).flatten) =
      all (arguments.flatMap f) := by
  induction arguments with
  | nil => rfl
  | cons argument arguments ih =>
    rw [List.flatMap_cons, all_append, ← ih, List.map_cons, all]
    simp only [← bind_pure_comp, bind_assoc, pure_bind, List.flatten_cons]

/-- Lists of computations that end in the same values one by one end in the same list. -/
lemma all_outcome_congr {computations computations' : List (Traced α)}
    (h : List.Forall₂ (fun first second => second.outcome = first.outcome) computations
      computations') :
    (all computations').outcome = (all computations).outcome := by
  induction h with
  | nil => rfl
  | cons hfirst _ ih =>
    rw [all, all, bind_outcome, bind_outcome, hfirst]
    simp only [map_outcome, ih]

/-- Lists of computations end in the same list when each two of them end in the same value. -/
lemma all_map_outcome_congr {f g : α → Traced β} {arguments : List α}
    (h : ∀ argument ∈ arguments, (f argument).outcome = (g argument).outcome) :
    (all (arguments.map f)).outcome = (all (arguments.map g)).outcome := by
  refine all_outcome_congr ?_
  rw [List.forall₂_map_left_iff, List.forall₂_map_right_iff]
  exact List.forall₂_same.mpr h

/-! ### Members of lists -/

/-- The computation for a member of a list ends in one of the values of the list. -/
lemma exists_result_of_all_map {f : α → Traced β} {arguments : List α} {results : List β}
    (h : (all (arguments.map f)).outcome = .ok results) {argument : α}
    (hmem : argument ∈ arguments) : ∃ result ∈ results, (f argument).outcome = .ok result :=
  exists_right_of_mem (all_map_outcome_eq_ok.mp h) hmem

/-- Each of the values of a list is what the computation for a member of the list ends in. -/
lemma exists_argument_of_all_map {f : α → Traced β} {arguments : List α} {results : List β}
    (h : (all (arguments.map f)).outcome = .ok results) {result : β}
    (hmem : result ∈ results) : ∃ argument ∈ arguments, (f argument).outcome = .ok result :=
  exists_left_of_mem (all_map_outcome_eq_ok.mp h) hmem

/-! ### Computations with the same value -/

/-- Attributes whose values make two computations the same make them the same when both are
missing. -/
lemma present_bind_congr {γ : Type} {R : α → β → Prop} {first : Option α} {second : Option β}
    {next : α → Traced γ} {next' : β → Traced γ} (h : Option.Rel R first second)
    (hnext : ∀ value value', R value value' → next value = next' value') :
    (present first >>= next) = (present second >>= next') := by
  cases h with
  | none => rfl
  | some hvalue => exact hnext _ _ hvalue

/-- The value that the first computation ends in, if there is one, is what the second one ends
in. -/
def KeptBy (first second : Traced α) : Prop :=
  ∀ value, first.outcome = .ok value → second.outcome = .ok value

namespace KeptBy

/-- A computation keeps its own value. -/
lemma of_eq {first second : Traced α} (h : first = second) : first.KeptBy second :=
  fun _ hvalue => h ▸ hvalue

/-- A sequence keeps its value when both of its parts keep theirs. -/
lemma bind {first first' : Traced α} {next next' : α → Traced β} (h : first.KeptBy first')
    (hnext : ∀ value, (next value).KeptBy (next' value)) :
    (first >>= next).KeptBy (first' >>= next') := by
  intro result hresult
  obtain ⟨value, hvalue, hlast⟩ := bind_outcome_eq_ok.mp hresult
  exact bind_outcome_eq_ok.mpr ⟨value, h value hvalue, hnext value result hlast⟩

/-- A function of a value that is kept is kept. -/
lemma map {first first' : Traced α} (f : α → β) (h : first.KeptBy first') :
    (f <$> first).KeptBy (f <$> first') := by
  intro result hresult
  obtain ⟨value, hvalue, rfl⟩ := map_outcome_eq_ok.mp hresult
  exact map_outcome_eq_ok.mpr ⟨value, h value hvalue, rfl⟩

/-- An attribute keeps the value of what follows it when this holds for each two values of it. -/
lemma present {γ : Type} {R : α → β → Prop} {first : Option α} {second : Option β}
    {next : α → Traced γ} {next' : β → Traced γ} (h : Option.Rel R first second)
    (hnext : ∀ value value', R value value' → (next value).KeptBy (next' value')) :
    (Traced.present first >>= next).KeptBy (Traced.present second >>= next') := by
  cases h with
  | none => exact of_eq rfl
  | some hvalue => exact hnext _ _ hvalue

/-- A list of computations keeps its values when one of them is replaced by one that keeps its
own. -/
lemma all_hole {hole hole' : Traced α} (h : hole.KeptBy hole') (before after : List (Traced α)) :
    (all (before ++ hole :: after)).KeptBy (all (before ++ hole' :: after)) := by
  intro results hresults
  rw [all_outcome_eq_ok] at hresults ⊢
  induction before generalizing results with
  | nil =>
    obtain ⟨value, values, hvalue, hvalues, rfl⟩ := List.forall₂_cons_left_iff.mp hresults
    exact .cons (h value hvalue) hvalues
  | cons first rest ih =>
    obtain ⟨value, values, hvalue, hvalues, rfl⟩ := List.forall₂_cons_left_iff.mp hresults
    exact .cons hvalue (ih values hvalues)

end KeptBy

/-! ### Lists of computations without notices -/

/-- Values one after another are a list of values. -/
lemma all_map_pure (f : α → β) (arguments : List α) :
    all (arguments.map fun argument => pure (f argument)) = pure (arguments.map f) := by
  induction arguments with
  | nil => rfl
  | cons argument arguments ih =>
    rw [List.map_cons, all, ih, pure_bind]
    rfl

/-- Computations that have no notices and know one fault only end in that fault as soon as one of
them does. -/
lemma all_map_eq_fault {f : α → Traced β} {cause : Fault} {arguments : List α}
    (h : ∀ argument ∈ arguments, (∃ value, f argument = pure value) ∨ f argument = fault cause)
    (hfault : ∃ argument ∈ arguments, f argument = fault cause) :
    all (arguments.map f) = fault cause := by
  induction arguments with
  | nil => simp at hfault
  | cons argument arguments ih =>
    rw [List.map_cons, all]
    rcases h argument List.mem_cons_self with ⟨value, hvalue⟩ | hfirst
    · have hrest : ∃ other ∈ arguments, f other = fault cause := by
        obtain ⟨other, hother, hcause⟩ := hfault
        rcases List.mem_cons.mp hother with rfl | hother
        · rw [hvalue] at hcause
          exact absurd (congrArg Traced.outcome hcause) (by simp)
        · exact ⟨other, hother, hcause⟩
      rw [hvalue, ih (fun other hother => h other (List.mem_cons_of_mem _ hother)) hrest, pure_bind]
      rfl
    · rw [hfirst, fault_bind]

end ReasonBindings.Traced
