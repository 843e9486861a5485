import ReasonBindings.Proofs.Traced.Related

/-!
# Computations that grow

A computation may be replaced by one that ends in a larger value, where the size of a value
is a number.  `Traced.GrowsUnless` names the condition under which nothing changes: if it
holds, the second computation is the first one, with its notices, and if it does not hold,
the value gets larger.  A computation that ends in a fault is replaced by one that ends in the
same fault.

Computations that are put together grow unless none of their parts does, when the size of the
result is the sum of the sizes of the parts.
-/

namespace ReasonBindings.Traced

variable {α β γ : Type}

/-- The second computation is the first one if the condition holds.  Whether or not it does, both
end in the same fault, or the second one ends in a value that is at least as large as that of the
first one, and larger unless the condition holds. -/
structure GrowsUnless (size : α → Nat) (condition : Prop) (first second : Traced α) : Prop where
  same : condition → second = first
  ends : first.EndsUpTo (fun value value' => size value ≤ size value' ∧
    (size value' = size value → condition)) second

namespace GrowsUnless

variable {size : α → Nat} {size' : β → Nat} {condition condition' : Prop}
  {first second : Traced α} {first' second' : Traced β}

/-- A computation that stays as it is does not grow. -/
lemma refl (h : condition) (traced : Traced α) : GrowsUnless size condition traced traced :=
  ⟨fun _ => rfl, endsUpTo_refl (fun _ => ⟨Nat.le_refl _, fun _ => h⟩) traced⟩

/-- The condition may be put in other words. -/
lemma congr (h : GrowsUnless size condition first second) (hiff : condition ↔ condition') :
    GrowsUnless size condition' first second :=
  ⟨fun hcondition => h.same (hiff.mpr hcondition),
    h.ends.imp fun _ _ hsize => ⟨hsize.1, fun heq => hiff.mp (hsize.2 heq)⟩⟩

/-- What follows the same computation may grow. -/
lemma bind_left {before : Traced γ} {next next' : γ → Traced α}
    (h : ∀ value, GrowsUnless size condition (next value) (next' value)) :
    GrowsUnless size condition (before >>= next) (before >>= next') := by
  constructor
  · intro hcondition
    exact bind_congr fun value => (h value).same hcondition
  · have hbefore : before.EndsUpTo (· = ·) before := endsUpTo_refl (fun _ => rfl) before
    refine hbefore.bind fun value value' heq => ?_
    rw [← heq]
    exact (h value).ends

/-- A function that keeps the size of a value keeps the growth. -/
lemma map {f : α → β} (h : GrowsUnless size condition first second)
    (hsize : ∀ value, size' (f value) = size value) :
    GrowsUnless size' condition (f <$> first) (f <$> second) := by
  constructor
  · intro hcondition
    rw [h.same hcondition]
  · refine h.ends.map fun value value' hrelated => ?_
    rw [hsize, hsize]
    exact hrelated

/-- Two computations one after the other grow unless none of them does, when the sizes of their
values are added. -/
lemma both {f : α → β → γ} {size'' : γ → Nat}
    (hsize : ∀ value value', size'' (f value value') = size value + size' value')
    (h : GrowsUnless size condition first second)
    (h' : GrowsUnless size' condition' first' second') :
    GrowsUnless size'' (condition ∧ condition')
      (do let value ← first; let value' ← first'; return f value value')
      (do let value ← second; let value' ← second'; return f value value') := by
  constructor
  · rintro ⟨hcondition, hcondition'⟩
    rw [h.same hcondition, h'.same hcondition']
  · refine h.ends.bind fun value grown hrelated => ?_
    refine h'.ends.bind fun value' grown' hrelated' => ?_
    change size'' (f value value') ≤ size'' (f grown grown') ∧
      (size'' (f grown grown') = size'' (f value value') → condition ∧ condition')
    obtain ⟨hle, hcondition⟩ := hrelated
    obtain ⟨hle', hcondition'⟩ := hrelated'
    rw [hsize, hsize]
    refine ⟨Nat.add_le_add hle hle', fun heq => ⟨hcondition ?_, hcondition' ?_⟩⟩
    · omega
    · omega

/-- The outcome of a computation stays the same exactly if the condition holds or the computation
ends in a fault. -/
lemma outcome_eq_iff (h : GrowsUnless size condition first second) :
    second.outcome = first.outcome ↔ condition ∨ ∃ cause, first.outcome = .error cause := by
  constructor
  · intro heq
    cases hfirst : first.outcome with
    | ok value => exact Or.inl ((h.ends.related hfirst (heq.trans hfirst)).2 rfl)
    | error cause => exact Or.inr ⟨cause, rfl⟩
  · rintro (hcondition | ⟨cause, hfault⟩)
    · rw [h.same hcondition]
    · rw [h.ends.fault hfault, hfault]

end GrowsUnless

/-- The sizes of the values of a list together. -/
def totalSize (size : α → Nat) : List α → Nat
  | [] => 0
  | value :: values => size value + totalSize size values

/-- The sizes of a list are that of the first value and those of the others. -/
lemma totalSize_cons (size : α → Nat) (value : α) (values : List α) :
    totalSize size (value :: values) = size value + totalSize size values := rfl

/-- A list of computations grows unless none of them does, when the sizes of the values are
added. -/
lemma growsUnless_all {ε : Type} {size : α → Nat} {condition : ε → Prop} {f g : ε → Traced α}
    {arguments : List ε}
    (h : ∀ argument ∈ arguments, GrowsUnless size (condition argument) (f argument) (g argument)) :
    GrowsUnless (totalSize size) (∀ argument ∈ arguments, condition argument)
      (all (arguments.map f)) (all (arguments.map g)) := by
  induction arguments with
  | nil => exact .refl (List.forall_mem_nil _) _
  | cons first rest ih =>
    have hrest := ih fun argument hmem => h argument (List.mem_cons_of_mem _ hmem)
    have hboth := GrowsUnless.both (totalSize_cons size) (h first List.mem_cons_self) hrest
    rw [List.map_cons, List.map_cons, all, all]
    simp only [← bind_pure_comp]
    exact hboth.congr List.forall_mem_cons.symm

end ReasonBindings.Traced
