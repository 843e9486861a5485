import Mathlib.Tactic.Lemma
import ReasonBindings.Export
import ReasonBindings.Proofs.Path

/-!
# Headers of exported bindings

Exported bindings may stand below a header of three comments.  A comment ends where it is closed
for the first time, and to close it takes a slash.  Nothing that stands in the header has one: not
the version of the program, not the time, and not the last part of a path.
-/

namespace ReasonBindings

/-! ### Headers -/

/-- The text is a comment, and it is closed at its end and not before. -/
structure IsComment (text : String) : Prop where
  delimited : ∃ inside, text.toList = "/*".toList ++ inside ++ "*/".toList
  closed : ∀ before after, text.toList = "/*".toList ++ before ++ "*/".toList ++ after → after = []

/-- What has no slash in it can stand in a comment. -/
lemma isComment_of_slash_notMem {inside : String} (h : '/' ∉ inside.toList) :
    IsComment ("/*" ++ inside ++ "*/") where
  delimited := ⟨inside.toList, by simp only [String.toList_append]⟩
  closed := by
    intro before after hsplit
    rcases List.eq_nil_or_concat after with hnil | ⟨rest, last, hlast⟩
    · exact hnil
    · -- In front of the last character there is no slash but for the first one.
      have hfront : "/*".toList ++ (inside.toList ++ ['*']) ++ ['/'] =
          "/*".toList ++ (before ++ '*' :: '/' :: rest) ++ [last] := by
        simpa [hlast] using hsplit
      have hinside := List.append_cancel_left (List.append_inj_left' hfront rfl)
      have hslash : '/' ∈ inside.toList ++ ['*'] := by
        rw [hinside]
        simp
      rcases List.mem_append.mp hslash with hmem | hmem
      · exact absurd hmem h
      · exact absurd hmem (by decide)

/-- Three comments, each on a line of its own, and an empty line. -/
def IsHeader (header : String) : Prop :=
  ∃ first second third, IsComment first ∧ IsComment second ∧ IsComment third ∧
    header = first ++ "\n" ++ second ++ "\n" ++ third ++ "\n\n"

/-- A number is written without slashes. -/
lemma slash_notMem_padded (width n : Nat) : '/' ∉ (Moment.padded width n).toList := by
  rw [Moment.padded, String.toList_append, String.toList_ofList, List.mem_append, not_or]
  refine ⟨fun hmem => absurd (List.eq_of_mem_replicate hmem) (by decide), fun hmem => ?_⟩
  have hdigits : '/' ∈ Nat.toDigits 10 n := by
    simpa [Nat.toString_eq_ofList_toDigits] using hmem
  exact absurd (Nat.isDigit_of_mem_toDigits (by decide) (by decide) hdigits) (by decide)

/-- A moment is written without slashes. -/
lemma slash_notMem_time (time : Moment) : '/' ∉ time.text.toList := by
  simp [Moment.text, toString, slash_notMem_padded]

/-- A header is made up of three comments. -/
lemma exportHeader_eq (source : String) (time : Moment) :
    exportHeader source time =
      "/*" ++ (" Generated by " ++ programName ++ " v" ++ programVersion ++ " ") ++ "*/" ++ "\n" ++
        ("/*" ++ (" Generation time: " ++ time.text ++ " ") ++ "*/") ++ "\n" ++
        ("/*" ++ (" Source file: " ++ Path.base source ++ " ") ++ "*/") ++ "\n\n" := by
  unfold exportHeader
  simp only [toString]
  -- The texts of the time and of the path are left closed.
  generalize time.text = when, Path.base source = base
  rw [← String.toList_inj]
  simp only [String.toList_append, programName, programVersion]
  simp

/-- **The header of exported bindings cannot be closed early.**  It consists of three comments,
wherever the bindings come from. -/
theorem isHeader_exportHeader (source : String) (time : Moment) :
    IsHeader (exportHeader source time) := by
  have hprogram :
      '/' ∉ (" Generated by " ++ programName ++ " v" ++ programVersion ++ " ").toList := by
    simp [programName, programVersion]
  have htime : '/' ∉ (" Generation time: " ++ time.text ++ " ").toList := by
    simp [slash_notMem_time]
  have hsource : '/' ∉ (" Source file: " ++ Path.base source ++ " ").toList := by
    simp [Path.slash_notMem_base]
  exact ⟨_, _, _, isComment_of_slash_notMem hprogram, isComment_of_slash_notMem htime,
    isComment_of_slash_notMem hsource, exportHeader_eq source time⟩

/-! ### Formats -/

/-- The text that is exported for bindings: the header comes in front of them if the format asks for
it. -/
def exportedText (bindings format source : String) (time : Moment) : String :=
  if format = "commented" then exportHeader source time ++ bindings else bindings

/-- Every format, known or not, gives a text. -/
lemma formatBindings_outcome (bindings format source : String) (time : Moment) :
    (formatBindings bindings format source time).outcome =
      .ok (exportedText bindings format source time) := by
  rw [formatBindings, exportedText]
  by_cases hcommented : format = "commented"
  · rw [if_pos hcommented, if_pos hcommented]
    rfl
  · rw [if_neg hcommented, if_neg hcommented]
    cases format != "plain" <;> rfl

end ReasonBindings
