import ReasonBindings.Proofs.Traced.Outcome

/-!
# Warnings of computations

`Traced.Reports` says which warnings a traced computation gives when it ends in a value,
and in which order.  Notices of lesser weight do not count.  One rule for each way in which
computations are put together carries this from the parts to the whole; a sequence gives
the warnings of its parts one after another.  What a computation reports when it ends in a
fault is left open, so the rules need not follow the faults.
-/

namespace ReasonBindings.Traced

variable {α β : Type}

/-- The computation gives the warnings, and nothing of more weight, whenever it ends in a value. -/
def Reports (traced : Traced α) (warnings : List Notice) : Prop :=
  ∀ value, traced.outcome = .ok value → traced.shown .warning = warnings

/-- The computation gives no warnings. -/
abbrev Quiet (traced : Traced α) : Prop :=
  traced.Reports []

/-- A value comes without warnings. -/
lemma quiet_pure (value : α) : (pure value : Traced α).Quiet :=
  fun _ _ => rfl

/-- A fault is no value. -/
lemma reports_fault (cause : Fault) (warnings : List Notice) :
    (fault cause : Traced α).Reports warnings :=
  fun _ hvalue => absurd hvalue fault_outcome_ne_ok

/-- An attribute comes without warnings. -/
lemma quiet_present (value? : Option α) : (present value?).Quiet := by
  cases value? with
  | none => exact reports_fault .missingAttribute []
  | some value => exact quiet_pure value

/-- A notice of lesser weight is no warning. -/
lemma quiet_note {notice : Notice} (h : notice.reaches .warning = false) : (note notice).Quiet := by
  intro _ _
  rw [shown, note_notices, List.filter_cons_of_neg (by simp [h]), List.filter_nil]

/-- A notice of that weight is the only warning. -/
lemma reports_note {notice : Notice} (h : notice.reaches .warning = true) :
    (note notice).Reports [notice] := by
  intro _ _
  rw [shown, note_notices, List.filter_cons_of_pos h, List.filter_nil]

/-- What is shown of a sequence is what is shown of its parts. -/
lemma shown_bind {first : Traced α} {value : α} (h : first.outcome = .ok value)
    (next : α → Traced β) (threshold : Level) :
    (first >>= next).shown threshold =
      first.shown threshold ++ (next value).shown threshold := by
  obtain ⟨notices, outcome⟩ := first
  obtain rfl : outcome = .ok value := h
  exact List.filter_append _ _

namespace Reports

variable {traced : Traced α} {warnings : List Notice}

/-- A sequence gives the warnings of its parts one after another. -/
lemma bind {later : List Notice} {next : α → Traced β} (h : traced.Reports warnings)
    (hnext : ∀ value, traced.outcome = .ok value → (next value).Reports later) :
    (traced >>= next).Reports (warnings ++ later) := by
  intro result hresult
  obtain ⟨value, hvalue, hlast⟩ := bind_outcome_eq_ok.mp hresult
  rw [shown_bind hvalue, h value hvalue, hnext value hvalue result hlast]

/-- What follows a computation without warnings gives all of the warnings. -/
lemma bind_quiet {next : α → Traced β} (h : traced.Quiet)
    (hnext : ∀ value, traced.outcome = .ok value → (next value).Reports warnings) :
    (traced >>= next).Reports warnings :=
  h.bind hnext

/-- What is followed by a computation without warnings gives all of the warnings. -/
lemma then_quiet {next : α → Traced β} (h : traced.Reports warnings)
    (hnext : ∀ value, traced.outcome = .ok value → (next value).Quiet) :
    (traced >>= next).Reports warnings := by
  have hbind := h.bind hnext
  rwa [List.append_nil] at hbind

/-- A function of a value gives no warnings of its own. -/
lemma map (f : α → β) (h : traced.Reports warnings) : (f <$> traced).Reports warnings := by
  rw [← bind_pure_comp]
  exact h.then_quiet fun _ _ => quiet_pure _

end Reports

/-- A list of computations gives the warnings of its members one after another. -/
lemma reports_all_map {f : α → Traced β} {warnings : α → List Notice} {arguments : List α}
    (h : ∀ argument ∈ arguments, (f argument).Reports (warnings argument)) :
    (all (arguments.map f)).Reports (arguments.flatMap warnings) := by
  induction arguments with
  | nil => exact quiet_pure []
  | cons argument arguments ih =>
    obtain ⟨hfirst, hrest⟩ := List.forall_mem_cons.mp h
    rw [List.map_cons, all, List.flatMap_cons]
    exact hfirst.bind fun value _ => (ih hrest).map (value :: ·)

/-- A list of computations without warnings gives none. -/
lemma quiet_all_map {f : α → Traced β} {arguments : List α}
    (h : ∀ argument ∈ arguments, (f argument).Quiet) : (all (arguments.map f)).Quiet := by
  have hreports := reports_all_map h
  rwa [List.flatMap_eq_nil_iff.mpr fun _ _ => rfl] at hreports

end ReasonBindings.Traced
