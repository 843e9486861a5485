/-!
# Blanks and dotted names

Names in a declaration file may be spread over several lines and may have
spaces around their dots.  This module holds the class of blank characters, the
operation that removes them all, and the cut of a text at its dots.
-/

namespace ReasonBindings.Text

/-- The characters that separate words: the control characters from tab to carriage return, the
four information separators, and the space characters of every script. -/
def isBlank (c : Char) : Bool :=
  let n := c.toNat
  (9 ≤ n && n ≤ 13) || (28 ≤ n && n ≤ 32) || n == 0x85 || n == 0xA0 || n == 0x1680 ||
    (0x2000 ≤ n && n ≤ 0x200A) || n == 0x2028 || n == 0x2029 || n == 0x202F || n == 0x205F ||
    n == 0x3000

/-- The text without its blanks. -/
def squeeze (text : List Char) : List Char :=
  text.filter (!isBlank ·)

/-- The pieces between the occurrences of `separator`; there is always at least one. -/
def pieces (separator : Char) : List Char → List (List Char)
  | [] => [[]]
  | c :: rest =>
    if c = separator then [] :: pieces separator rest
    else match pieces separator rest with
      | [] => [[c]]
      | first :: others => (c :: first) :: others

/-- The identifiers of a dotted name: blanks count for nothing and dots separate. -/
def dottedParts (text : String) : List String :=
  (pieces '.' (squeeze text.toList)).map String.ofList

/-- Squeezing distributes over concatenation. -/
theorem squeeze_append (a b : List Char) : squeeze (a ++ b) = squeeze a ++ squeeze b := by
  simp [squeeze]

/-- A cut text has at least one piece. -/
theorem pieces_ne_nil (separator : Char) (text : List Char) : pieces separator text ≠ [] := by
  cases text with
  | nil => simp [pieces]
  | cons c rest =>
    simp only [pieces]
    split
    · simp
    · split <;> simp

/-- A text without the separator is its own only piece. -/
theorem pieces_of_notMem {separator : Char} {text : List Char} (h : separator ∉ text) :
    pieces separator text = [text] := by
  induction text with
  | nil => rfl
  | cons c rest ih =>
    simp only [List.mem_cons, not_or] at h
    simp [pieces, Ne.symm h.1, ih h.2]

/-- The first separator ends the first piece. -/
theorem pieces_append_cons {separator : Char} {first : List Char} (h : separator ∉ first)
    (rest : List Char) :
    pieces separator (first ++ separator :: rest) = first :: pieces separator rest := by
  induction first with
  | nil => simp [pieces]
  | cons c more ih =>
    simp only [List.mem_cons, not_or] at h
    simp [pieces, Ne.symm h.1, ih h.2]

end ReasonBindings.Text
