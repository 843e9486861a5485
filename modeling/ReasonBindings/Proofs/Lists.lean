import Mathlib.Data.List.Forall2
import Mathlib.Data.List.Infix
import Mathlib.Tactic.Lemma

/-!
# Lists and related lists

Facts about lists that the theory of bindings uses and that have nothing to do with
bindings.  Many of its results go through two lists whose members are related one by
one, such as declarations and the records that stem from them: what is picked from such
lists, and what is found in them, is related again.
-/

namespace ReasonBindings

variable {α β γ : Type}

/-! ### Picking members -/

/-- What the members give that are picked from a list. -/
lemma flatMap_filter (p : α → Bool) (f : α → List β) (members : List α) :
    (members.filter p).flatMap f =
      members.flatMap fun member => if p member then f member else [] := by
  induction members with
  | nil => rfl
  | cons member members ih =>
    by_cases h : p member = true
    · rw [List.filter_cons_of_pos h, List.flatMap_cons, List.flatMap_cons, if_pos h, ih]
    · rw [List.filter_cons_of_neg h, List.flatMap_cons, if_neg h, ih, List.nil_append]

/-- Two neighbours of which at most one is kept can be swapped. -/
lemma filterMap_swap {f : α → Option β} {first second : α}
    (h : f first = none ∨ f second = none) (rest : List α) :
    (first :: second :: rest).filterMap f = (second :: first :: rest).filterMap f := by
  rcases h with h | h
  · simp only [List.filterMap_cons, h]
  · simp only [List.filterMap_cons, h]

/-- A member counts one when the test holds of it. -/
lemma countP_cons_toNat (test : α → Bool) (member : α) (members : List α) :
    (member :: members).countP test = (test member).toNat + members.countP test := by
  rw [List.countP_cons]
  cases test member with
  | false => simp
  | true => simp [Nat.add_comm]

/-- The beginning of two lists after each other ends in the first one or in the second one. -/
lemma prefix_append_cases {before first second : List α} (h : before <+: first ++ second) :
    before <+: first ∨ ∃ part, before = first ++ part ∧ part <+: second := by
  obtain ⟨after, hwhole⟩ := h
  rcases List.append_eq_append_iff.mp hwhole with ⟨part, rfl, -⟩ | ⟨part, rfl, rfl⟩
  · exact Or.inl (List.prefix_append before part)
  · exact Or.inr ⟨part, rfl, List.prefix_append part after⟩

/-! ### Related lists -/

section

variable {R : α → β → Prop} {first : List α} {second : List β}

/-- A member of the first of two related lists is related to a member of the second one. -/
lemma exists_right_of_mem (h : List.Forall₂ R first second) {member : α} (hmem : member ∈ first) :
    ∃ member' ∈ second, R member member' := by
  induction h with
  | nil => cases hmem
  | cons hfirst _ ih =>
    rcases List.mem_cons.mp hmem with rfl | hrest
    · exact ⟨_, List.mem_cons_self, hfirst⟩
    · obtain ⟨member', hmember', hrelated⟩ := ih hrest
      exact ⟨member', List.mem_cons_of_mem _ hmember', hrelated⟩

/-- A member of the second of two related lists is related to a member of the first one. -/
lemma exists_left_of_mem (h : List.Forall₂ R first second) {member' : β}
    (hmem : member' ∈ second) : ∃ member ∈ first, R member member' :=
  exists_right_of_mem h.flip hmem

/-- Three lists of which the first two and the last two are related are related one by one. -/
lemma forall₂_comp {S : β → γ → Prop} {third : List γ} (hfirst : List.Forall₂ R first second)
    (hsecond : List.Forall₂ S second third) :
    List.Forall₂ (fun member last => ∃ middle, R member middle ∧ S middle last) first third := by
  induction hfirst generalizing third with
  | nil =>
    cases hsecond
    exact .nil
  | cons hhead _ ih =>
    cases hsecond with
    | cons hhead' htail' => exact .cons ⟨_, hhead, hhead'⟩ (ih htail')

variable {test : α → Bool} {test' : β → Bool}

/-- The members of two related lists that pass tests are related when the tests say the same of
related members. -/
lemma forall₂_filter (h : List.Forall₂ R first second)
    (htest : ∀ member member', R member member' → test' member' = test member) :
    List.Forall₂ R (first.filter test) (second.filter test') :=
  List.rel_filter (fun member member' hrelated => by
    change test member = true ↔ test' member' = true
    rw [htest member member' hrelated]) h

/-- What is looked for in two related lists by tests that say the same of related members is found
in both of them or in none. -/
lemma optionRel_find? (h : List.Forall₂ R first second)
    (htest : ∀ member member', R member member' → test' member' = test member) :
    Option.Rel R (first.find? test) (second.find? test') := by
  induction h with
  | nil => exact .none
  | @cons member member' _ _ hfirst _ ih =>
    rw [List.find?_cons, List.find?_cons, htest member member' hfirst]
    cases test member with
    | true => exact .some hfirst
    | false => exact ih

end

/-- What is the same for every value is the same for a value that may be missing. -/
lemma optionRel_refl {R : α → α → Prop} (h : ∀ value, R value value) :
    ∀ value? : Option α, Option.Rel R value? value?
  | none => .none
  | some value => .some (h value)

end ReasonBindings
