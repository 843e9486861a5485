import ReasonBindings.Proofs.Traced.Outcome

/-!
# Computations with related values

Two computations need not end in the same value to serve the same purpose.
`Traced.KeptUpTo` says that the second one ends in a value whenever the first one does,
and that the values are related; `Traced.KeptBy` is the case of equal values.  The second
computation may do less than the first one, so a part of the first one that could fail may
be missing from it.

`Traced.EndsUpTo` says that each of two computations ends in a value exactly when the other
one does, that these values are related, and that their faults are the same.
-/

namespace ReasonBindings.Traced

variable {α β γ δ : Type}

/-- The value that the first computation ends in, if there is one, is related to a value that the
second one ends in. -/
def KeptUpTo (first : Traced α) (R : α → β → Prop) (second : Traced β) : Prop :=
  ∀ value, first.outcome = .ok value → ∃ value', second.outcome = .ok value' ∧ R value value'

/-- Computations with the same outcome keep the value. -/
lemma keptUpTo_of_outcome_eq {first second : Traced α} (h : first.outcome = second.outcome) :
    first.KeptUpTo (· = ·) second :=
  fun value hvalue => ⟨value, h ▸ hvalue, rfl⟩

/-- Related values are kept. -/
lemma keptUpTo_pure {R : α → β → Prop} {value : α} {value' : β} (h : R value value') :
    (pure value : Traced α).KeptUpTo R (pure value') := by
  intro result hresult
  obtain rfl := pure_outcome_eq_ok.mp hresult
  exact ⟨value', rfl, h⟩

/-- A value that every value is related to is kept whatever happens before. -/
lemma keptUpTo_any {R : α → β → Prop} (first : Traced α) {value' : β}
    (h : ∀ value, R value value') :
    first.KeptUpTo R (pure value') :=
  fun value _ => ⟨value', rfl, h value⟩

namespace KeptUpTo

variable {R : α → β → Prop} {S : γ → δ → Prop} {first : Traced α} {second : Traced β}

/-- Related values are related in every weaker way. -/
lemma imp {R' : α → β → Prop} (h : first.KeptUpTo R second)
    (himp : ∀ value value', R value value' → R' value value') : first.KeptUpTo R' second := by
  intro value hvalue
  obtain ⟨value', hvalue', hrelated⟩ := h value hvalue
  exact ⟨value', hvalue', himp value value' hrelated⟩

/-- In a sequence both parts have to be kept. -/
lemma bind {next : α → Traced γ} {next' : β → Traced δ} (h : first.KeptUpTo R second)
    (hnext : ∀ value value', R value value' → (next value).KeptUpTo S (next' value')) :
    (first >>= next).KeptUpTo S (second >>= next') := by
  intro result hresult
  obtain ⟨value, hvalue, hlast⟩ := bind_outcome_eq_ok.mp hresult
  obtain ⟨value', hvalue', hrelated⟩ := h value hvalue
  obtain ⟨result', hlast', hresults⟩ := hnext value value' hrelated result hlast
  exact ⟨result', bind_outcome_eq_ok.mpr ⟨value', hvalue', hlast'⟩, hresults⟩

/-- Reports before a computation do not matter. -/
lemma note (notice notice' : Notice) (h : first.KeptUpTo R second) :
    (Traced.note notice >>= fun _ => first).KeptUpTo R
      (Traced.note notice' >>= fun _ => second) := by
  intro value hvalue
  rw [bind_outcome] at hvalue
  obtain ⟨value', hvalue', hrelated⟩ := h value hvalue
  exact ⟨value', bind_outcome_eq_ok.mpr ⟨(), rfl, hvalue'⟩, hrelated⟩

/-- Functions of related values. -/
lemma map {f : α → γ} {g : β → δ} (h : first.KeptUpTo R second)
    (hmap : ∀ value value', R value value' → S (f value) (g value')) :
    (f <$> first).KeptUpTo S (g <$> second) := by
  intro result hresult
  obtain ⟨value, hvalue, rfl⟩ := map_outcome_eq_ok.mp hresult
  obtain ⟨value', hvalue', hrelated⟩ := h value hvalue
  exact ⟨g value', map_outcome_eq_ok.mpr ⟨value', hvalue', rfl⟩, hmap value value' hrelated⟩

end KeptUpTo

/-- Lists of computations of which each is kept are kept. -/
lemma keptUpTo_all {R : α → β → Prop} {computations : List (Traced α)}
    {computations' : List (Traced β)}
    (h : List.Forall₂ (KeptUpTo · R ·) computations computations') :
    (all computations).KeptUpTo (List.Forall₂ R) (all computations') := by
  induction h with
  | nil => exact keptUpTo_pure .nil
  | cons hfirst _ ih => exact hfirst.bind fun value value' hvalue => ih.map fun _ _ => .cons hvalue

/-- A computation for each member of a list, and one for what stands for the member in another
list. -/
lemma keptUpTo_all_map {ε : Type} {R : α → β → Prop} {f : ε → Traced α} {g : ε → Traced β}
    (h : ∀ argument, (f argument).KeptUpTo R (g argument)) (arguments : List ε) :
    (all (arguments.map f)).KeptUpTo (List.Forall₂ R) (all (arguments.map g)) := by
  refine keptUpTo_all ?_
  rw [List.forall₂_map_left_iff, List.forall₂_map_right_iff]
  exact List.forall₂_same.mpr fun argument _ => h argument

/-! ### The same faults -/

/-- Both computations end in related values, or both of them in the same fault. -/
def EndsUpTo (first : Traced α) (R : α → β → Prop) (second : Traced β) : Prop :=
  match first.outcome, second.outcome with
  | .ok value, .ok value' => R value value'
  | .error cause, .error cause' => cause = cause'
  | _, _ => False

/-- A computation ends up to everything that relates each value to itself. -/
lemma endsUpTo_refl {R : α → α → Prop} (h : ∀ value, R value value) (traced : Traced α) :
    traced.EndsUpTo R traced := by
  rw [EndsUpTo]
  cases traced.outcome with
  | ok value => exact h value
  | error cause => rfl

/-- Computations end up to equality exactly when they have the same outcome. -/
lemma endsUpTo_eq_iff {first second : Traced α} :
    first.EndsUpTo (· = ·) second ↔ first.outcome = second.outcome := by
  rw [EndsUpTo]
  cases first.outcome with
  | ok value => cases second.outcome <;> simp
  | error cause => cases second.outcome <;> simp

/-- Related values are what two computations end in. -/
lemma endsUpTo_pure {R : α → β → Prop} {value : α} {value' : β} (h : R value value') :
    (pure value : Traced α).EndsUpTo R (pure value') :=
  h

/-- The same fault is what two computations end in. -/
lemma endsUpTo_fault (R : α → β → Prop) (cause : Fault) :
    (fault cause : Traced α).EndsUpTo R (fault cause) := by
  rw [EndsUpTo]
  rfl

/-- Notices are told in both computations. -/
lemma endsUpTo_note (notice notice' : Notice) :
    (note notice).EndsUpTo (fun _ _ => True) (note notice') :=
  trivial

namespace EndsUpTo

variable {R : α → β → Prop} {S : γ → δ → Prop} {first : Traced α} {second : Traced β}

/-- Related values are related in every weaker way. -/
lemma imp {R' : α → β → Prop} (h : first.EndsUpTo R second)
    (himp : ∀ value value', R value value' → R' value value') : first.EndsUpTo R' second := by
  rw [EndsUpTo] at h ⊢
  cases hfirst : first.outcome with
  | ok value =>
    cases hsecond : second.outcome with
    | ok value' =>
      rw [hfirst, hsecond] at h
      exact himp value value' h
    | error cause => rw [hfirst, hsecond] at h; exact h
  | error cause =>
    cases hsecond : second.outcome with
    | ok value' => rw [hfirst, hsecond] at h; exact h
    | error cause' => rw [hfirst, hsecond] at h; exact h

/-- In a sequence both parts have to end up to their relations. -/
lemma bind {next : α → Traced γ} {next' : β → Traced δ} (h : first.EndsUpTo R second)
    (hnext : ∀ value value', R value value' → (next value).EndsUpTo S (next' value')) :
    (first >>= next).EndsUpTo S (second >>= next') := by
  obtain ⟨notices, outcome⟩ := first
  obtain ⟨notices', outcome'⟩ := second
  cases outcome with
  | ok value =>
    cases outcome' with
    | ok value' => exact hnext value value' h
    | error cause => exact h.elim
  | error cause =>
    cases outcome' with
    | ok value' => exact h.elim
    | error cause' => exact h

/-- Functions of related values. -/
lemma map {f : α → γ} {g : β → δ} (h : first.EndsUpTo R second)
    (hmap : ∀ value value', R value value' → S (f value) (g value')) :
    (f <$> first).EndsUpTo S (g <$> second) := by
  rw [← bind_pure_comp, ← bind_pure_comp]
  exact h.bind fun value value' hrelated => endsUpTo_pure (hmap value value' hrelated)

/-- The values that two computations end in are related. -/
lemma related (h : first.EndsUpTo R second) {value : α} {value' : β}
    (hvalue : first.outcome = .ok value) (hvalue' : second.outcome = .ok value') :
    R value value' := by
  rw [EndsUpTo, hvalue, hvalue'] at h
  exact h

/-- A fault of the first computation is the fault of the second one. -/
lemma fault (h : first.EndsUpTo R second) {cause : Fault} (hfault : first.outcome = .error cause) :
    second.outcome = .error cause := by
  rw [EndsUpTo, hfault] at h
  cases hsecond : second.outcome with
  | ok value => rw [hsecond] at h; exact h.elim
  | error cause' => rw [hsecond] at h; rw [show cause = cause' from h]

end EndsUpTo

/-- Lists of computations of which each two end up to a relation. -/
lemma endsUpTo_all {R : α → β → Prop} {computations : List (Traced α)}
    {computations' : List (Traced β)}
    (h : List.Forall₂ (EndsUpTo · R ·) computations computations') :
    (all computations).EndsUpTo (List.Forall₂ R) (all computations') := by
  induction h with
  | nil => exact endsUpTo_pure .nil
  | cons hfirst _ ih => exact hfirst.bind fun value value' hvalue => ih.map fun _ _ => .cons hvalue

end ReasonBindings.Traced
