/-!
# Line breaks

Text files break lines in three ways: with a line feed, with a carriage return, or
with a carriage return and a line feed.  Texts are read with line feeds only.
-/

namespace ReasonBindings.Text

/-- The text with a line feed for every line break. -/
def unifyNewlines : List Char → List Char
  | [] => []
  | '\r' :: '\n' :: rest => '\n' :: unifyNewlines rest
  | '\r' :: rest => '\n' :: unifyNewlines rest
  | c :: rest => c :: unifyNewlines rest

/-- No carriage return is left. -/
theorem notMem_unifyNewlines (text : List Char) : '\r' ∉ unifyNewlines text := by
  fun_induction unifyNewlines text with
  | case1 => simp
  | case2 rest ih => simpa using ih
  | case3 rest _ ih => simpa using ih
  | case4 c rest _ notReturn ih =>
    simp only [List.mem_cons, not_or]
    exact ⟨fun h => notReturn h.symm, ih⟩

/-- A text without carriage returns stays as it is. -/
theorem unifyNewlines_of_notMem {text : List Char} (h : '\r' ∉ text) :
    unifyNewlines text = text := by
  fun_induction unifyNewlines text with
  | case1 => rfl
  | case2 => simp at h
  | case3 => simp at h
  | case4 c rest _ _ ih =>
    simp only [List.mem_cons, not_or] at h
    rw [ih h.2]

end ReasonBindings.Text
