import Mathlib.Tactic.Lemma
import ReasonBindings.Layout
import ReasonBindings.Text.Blank

/-!
# Texts on one line

Bindings are printed line by line, and a reader of the printed text sees the lines
again as long as no line has a line feed of its own.  The module collects the texts
without a line feed, shows that the lines of a printed text can be read back, and
that indenting a printed text is the same as indenting its lines before they are
printed.
-/

namespace ReasonBindings.Layout

/-- A text without line feeds. -/
def SingleLine (text : String) : Prop :=
  '\n' ∉ text.toList

instance (text : String) : Decidable (SingleLine text) :=
  inferInstanceAs (Decidable ('\n' ∉ text.toList))

namespace SingleLine

/-- Two texts put together are on one line exactly when both are. -/
@[simp] lemma append_iff {first second : String} :
    SingleLine (first ++ second) ↔ SingleLine first ∧ SingleLine second := by
  simp [SingleLine]

/-- Texts on one line stay so when a text on one line is put between them. -/
lemma intercalate {separator : String} (hseparator : SingleLine separator) :
    ∀ {texts : List String}, (∀ text ∈ texts, SingleLine text) →
      SingleLine (separator.intercalate texts)
  | [], _ => by simp [SingleLine]
  | [text], h => by simpa using h text
  | text :: next :: texts, h => by
    have hrest : SingleLine (separator.intercalate (next :: texts)) :=
      intercalate hseparator fun t ht => h t (List.mem_cons_of_mem _ ht)
    rw [String.intercalate_cons_cons, append_iff, append_iff]
    exact ⟨⟨h text List.mem_cons_self, hseparator⟩, hrest⟩

/-- Indentation does not break a line. -/
lemma indentLine {line : String} (h : SingleLine line) : SingleLine (indentLine line) := by
  unfold Layout.indentLine
  split
  · decide
  · exact append_iff.mpr ⟨by decide, h⟩

/-- Indentation does not break lines. -/
lemma indent {lines : List String} (h : ∀ line ∈ lines, SingleLine line) :
    ∀ line ∈ Layout.indent lines, SingleLine line := by
  intro line hline
  obtain ⟨inner, hinner, rfl⟩ := List.mem_map.mp hline
  exact (h inner hinner).indentLine

/-- The lines of a block are on one line each when its header and the lines of its body are. -/
lemma block {header : String} {blank : Bool} {body : List String} (hheader : SingleLine header)
    (hbody : ∀ line ∈ body, SingleLine line) :
    ∀ line ∈ Layout.block header blank body, SingleLine line := by
  have hopening : SingleLine (opening header) := append_iff.mpr ⟨hheader, by decide⟩
  intro line hline
  simp only [Layout.block, List.mem_cons, List.mem_append, List.not_mem_nil, or_false] at hline
  rcases hline with rfl | ((hblank | hindented) | rfl)
  · exact hopening
  · cases blank with
    | false => simp at hblank
    | true =>
      rw [List.mem_singleton.mp hblank]
      decide
  · exact indent hbody line hindented
  · decide

end SingleLine

/-- The first line is indented first. -/
@[simp] lemma indent_cons (line : String) (lines : List String) :
    indent (line :: lines) = indentLine line :: indent lines := rfl

/-- The text of two lists of lines is the text of the first one followed by that of the second
one. -/
lemma unlines_append (first second : List String) :
    unlines (first ++ second) = unlines first ++ unlines second := by
  induction first with
  | nil => simp
  | cons line lines ih => simp only [List.cons_append, unlines_cons, ih, String.append_assoc]

/-- The characters of printed lines begin with those of the first line and its line feed. -/
lemma toList_unlines_cons (line : String) (lines : List String) :
    (unlines (line :: lines)).toList = line.toList ++ '\n' :: (unlines lines).toList := by
  rw [unlines_cons, String.toList_append, String.toList_append, List.append_assoc]
  rfl

/-! ### Reading lines back -/

/-- The lines of a text, each of them ended by a line feed. -/
def linesOf (text : String) : List String :=
  (Text.pieces '\n' text.toList).dropLast.map String.ofList

/-- The first line of a text is read first. -/
lemma linesOf_append {line : String} (h : SingleLine line) (text : String) :
    linesOf (line ++ "\n" ++ text) = line :: linesOf text := by
  have hpieces : Text.pieces '\n' (line ++ "\n" ++ text).toList =
      line.toList :: Text.pieces '\n' text.toList := by
    rw [String.toList_append, String.toList_append, List.append_assoc]
    exact Text.pieces_append_cons h text.toList
  rw [linesOf, hpieces, List.dropLast_cons_of_ne_nil (Text.pieces_ne_nil _ _), List.map_cons,
    String.ofList_toList, linesOf]

/-- Printed lines are read back. -/
lemma linesOf_unlines {lines : List String} (h : ∀ line ∈ lines, SingleLine line) :
    linesOf (unlines lines) = lines := by
  induction lines with
  | nil => rfl
  | cons line lines ih =>
    rw [unlines_cons, linesOf_append (h line List.mem_cons_self),
      ih fun l hl => h l (List.mem_cons_of_mem _ hl)]

/-! ### Indenting a text -/

/-- The characters of a text with two spaces before every line that is not empty.  The flag tells
whether a line begins at the first of the characters. -/
def indentFrom : Bool → List Char → List Char
  | _, [] => []
  | _, '\n' :: rest => '\n' :: indentFrom true rest
  | true, c :: rest => ' ' :: ' ' :: c :: indentFrom false rest
  | false, c :: rest => c :: indentFrom false rest

/-- The text with two spaces before every line that is not empty. -/
def indentText (text : String) : String :=
  String.ofList (indentFrom true text.toList)

/-- Inside a line nothing is added. -/
lemma indentFrom_false_append {line : List Char} (h : '\n' ∉ line) (rest : List Char) :
    indentFrom false (line ++ rest) = line ++ indentFrom false rest := by
  induction line with
  | nil => rfl
  | cons c line ih =>
    simp only [List.mem_cons, not_or] at h
    rw [List.cons_append, indentFrom, ih h.2, List.cons_append]
    exact fun hc => h.1 hc.symm

/-- A line is indented on its own, and the next line begins behind its line feed. -/
lemma indentFrom_true_append {line : List Char} (h : '\n' ∉ line) (rest : List Char) :
    indentFrom true (line ++ '\n' :: rest) =
      (indentLine (String.ofList line)).toList ++ '\n' :: indentFrom true rest := by
  cases line with
  | nil => rfl
  | cons c line =>
    simp only [List.mem_cons, not_or] at h
    have hne : String.ofList (c :: line) ≠ "" := by simp
    have hafter : indentFrom false ('\n' :: rest) = '\n' :: indentFrom true rest := rfl
    rw [List.cons_append, indentFrom, indentFrom_false_append h.2, hafter, indentLine, if_neg hne,
      String.toList_append, String.toList_ofList]
    · rfl
    · exact fun hc => h.1 hc.symm

/-- Indenting a printed text is printing the indented lines. -/
lemma indentText_unlines {lines : List String} (h : ∀ line ∈ lines, SingleLine line) :
    indentText (unlines lines) = unlines (indent lines) := by
  suffices hchars : indentFrom true (unlines lines).toList = (unlines (indent lines)).toList by
    rw [indentText, hchars, String.ofList_toList]
  induction lines with
  | nil => rfl
  | cons line lines ih =>
    have hline : SingleLine line := h line List.mem_cons_self
    rw [toList_unlines_cons, indentFrom_true_append hline, String.ofList_toList,
      ih fun l hl => h l (List.mem_cons_of_mem _ hl), indent_cons, toList_unlines_cons]

end ReasonBindings.Layout
