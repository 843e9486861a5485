import Mathlib.Tactic.Lemma
import ReasonBindings.Text.UpperCase

/-!
# What case mapping adds to a text

Case mapping leads from letters to letters.  A capitalized text therefore has no
character below the letter A that the text itself does not have: no control
character, blank, digit, bracket, arrow or quote comes in.
-/

namespace ReasonBindings.Text

/-- The character of a valid code point is not below any bound of the code point. -/
lemma le_toNat_ofNat {bound code : Nat} (hcode : bound ≤ code)
    (hvalid : code.isValidChar) : bound ≤ (Char.ofNat code).toNat := by
  rw [Char.ofNat, dif_pos hvalid]
  exact hcode

/-- Every expansion consists of characters from A on. -/
lemma caseExpansions_valid :
    ∀ entry ∈ caseExpansions, ∀ code ∈ entry.2, 0x41 ≤ (Char.ofNat code).toNat := by
  decide +kernel

/-- Every run leads to characters from A on, none of them among the surrogates. -/
lemma caseRuns_valid :
    ∀ run ∈ caseRuns, 0x41 ≤ run.first + run.shift ∧
      (run.last + run.shift < 0xD800 ∨
        0xE000 ≤ run.first + run.shift ∧ run.last + run.shift < 0x110000) := by
  decide +kernel

/-- The upper-case form of a character consists of characters from A on, unless it is the character
itself. -/
lemma mem_upperChar {c d : Char} (h : d ∈ upperChar c) : d = c ∨ 0x41 ≤ d.toNat := by
  unfold upperChar at h
  split at h
  · rename_i codes hfind
    obtain ⟨code, hcode, rfl⟩ := List.mem_map.mp h
    exact Or.inr (caseExpansions_valid _ (List.mem_of_find?_eq_some hfind) code hcode)
  · split at h
    · rename_i run hfind
      obtain ⟨hlow, hhigh⟩ := caseRuns_valid run (List.mem_of_find?_eq_some hfind)
      have hcontains : run.contains c.toNat = true := by
        simpa using List.find?_some hfind
      simp only [CaseRun.contains, Bool.and_eq_true, decide_eq_true_eq] at hcontains
      obtain ⟨⟨hfirst, hlast⟩, -⟩ := hcontains
      rw [List.mem_singleton.mp h]
      right
      refine le_toNat_ofNat (by omega) ?_
      rcases hhigh with hbelow | ⟨habove, hlimit⟩
      · exact Or.inl (by omega)
      · exact Or.inr ⟨by omega, by omega⟩
    · exact Or.inl (List.mem_singleton.mp h)

/-- A character of a capitalized text is one of the text or one from A on. -/
theorem mem_capitalize {text : String} {d : Char} (h : d ∈ (capitalize text).toList) :
    d ∈ text.toList ∨ 0x41 ≤ d.toNat := by
  unfold capitalize at h
  split at h
  · simp at h
  · rename_i c rest htext
    rw [String.toList_ofList, List.mem_append] at h
    rcases h with hfirst | hrest
    · rcases mem_upperChar hfirst with rfl | habove
      · exact Or.inl (htext ▸ List.mem_cons_self)
      · exact Or.inr habove
    · exact Or.inl (htext ▸ List.mem_cons_of_mem c hrest)

end ReasonBindings.Text
