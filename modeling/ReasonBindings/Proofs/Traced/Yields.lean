import ReasonBindings.Proofs.Traced.Outcome

/-!
# Computations that end in a value

`Traced.Yields` says of a traced computation that it ends in a value, and not in a
fault, and that the value has a given property.  One rule for each way in which
computations are put together carries this from the parts of a computation to the
whole: what follows the first part of a sequence has to yield its value for every
value that the first part may end in.
-/

namespace ReasonBindings.Traced

variable {α β : Type}

/-- The computation ends in a value with the given property. -/
def Yields (traced : Traced α) (property : α → Prop) : Prop :=
  ∃ value, traced.outcome = .ok value ∧ property value

/-- The computation ends in some value. -/
abbrev Succeeds (traced : Traced α) : Prop :=
  traced.Yields fun _ => True

/-- A computation succeeds exactly when there is a value that it ends in. -/
lemma succeeds_iff {traced : Traced α} : traced.Succeeds ↔ ∃ value, traced.outcome = .ok value := by
  unfold Succeeds Yields
  simp only [and_true]

/-- A value without notices is what it is. -/
lemma yields_pure {value : α} {property : α → Prop} (h : property value) :
    (pure value : Traced α).Yields property :=
  ⟨value, rfl, h⟩

/-- A value that is there has what every value that is there has. -/
lemma yields_some {value : α} {property : α → Prop} (h : property value) :
    (pure (some value) : Traced (Option α)).Yields (∀ member ∈ ·, property member) :=
  yields_pure fun _ hmember => Option.mem_some.mp hmember ▸ h

/-- A list of one value has what all of its members have. -/
lemma yields_singleton {value : α} {property : α → Prop} (h : property value) :
    (pure [value] : Traced (List α)).Yields (∀ member ∈ ·, property member) :=
  yields_pure (List.forall_mem_singleton.mpr h)

/-- A notice is no fault. -/
lemma succeeds_note (notice : Notice) : (note notice).Succeeds :=
  ⟨(), rfl, trivial⟩

/-- An attribute that is there is found. -/
lemma yields_present {value? : Option α} {value : α} (h : value? = some value) :
    (present value?).Yields (· = value) := by
  rw [h]
  exact yields_pure rfl

namespace Yields

variable {traced : Traced α} {property : α → Prop} {result : β → Prop}

/-- A value with a property has every weaker one. -/
lemma imp {weaker : α → Prop} (h : traced.Yields property)
    (himp : ∀ value, property value → weaker value) : traced.Yields weaker := by
  obtain ⟨value, houtcome, hvalue⟩ := h
  exact ⟨value, houtcome, himp value hvalue⟩

/-- A computation that yields a value succeeds. -/
lemma succeeds (h : traced.Yields property) : traced.Succeeds :=
  h.imp fun _ _ => trivial

/-- In a sequence both parts have to yield their values. -/
lemma bind {next : α → Traced β} (h : traced.Yields property)
    (hnext : ∀ value, property value → (next value).Yields result) :
    (traced >>= next).Yields result := by
  obtain ⟨value, houtcome, hvalue⟩ := h
  obtain ⟨last, hlast, hresult⟩ := hnext value hvalue
  exact ⟨last, bind_outcome_eq_ok.mpr ⟨value, houtcome, hlast⟩, hresult⟩

/-- A function of a value that a computation yields. -/
lemma map {f : α → β} (h : traced.Yields property)
    (hf : ∀ value, property value → result (f value)) : (f <$> traced).Yields result := by
  obtain ⟨value, houtcome, hvalue⟩ := h
  exact ⟨f value, map_outcome_eq_ok.mpr ⟨value, houtcome, rfl⟩, hf value hvalue⟩

end Yields

/-- A computation for each member of a list yields a list of values with the property. -/
lemma yields_all_map {f : α → Traced β} {arguments : List α} {property : β → Prop}
    (h : ∀ argument ∈ arguments, (f argument).Yields property) :
    (all (arguments.map f)).Yields fun values => ∀ value ∈ values, property value := by
  induction arguments with
  | nil => exact yields_pure (by simp)
  | cons argument arguments ih =>
    obtain ⟨hfirst, hrest⟩ := List.forall_mem_cons.mp h
    rw [List.map_cons, all]
    refine hfirst.bind fun value hvalue => ?_
    refine (ih hrest).map fun values hvalues => ?_
    exact List.forall_mem_cons.mpr ⟨hvalue, hvalues⟩

end ReasonBindings.Traced
