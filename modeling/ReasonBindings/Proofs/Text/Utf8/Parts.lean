import Mathlib.Tactic.Lemma
import ReasonBindings.Proofs.Text.Utf8.Reading

/-!
# The bytes of texts

The bytes of a text are those of its characters in a row.  They are read back as the
text, and so is each part of the text from its bytes alone: what stands before and after
them plays no role.  An offset into the bytes lies between two characters or inside of
one.  Between characters a *boundary* is found, and only there; a text that is cut
anywhere else is not put together again from the texts of its pieces, since each piece
of a character is read as a replacement character at least.
-/

namespace ReasonBindings.Text

namespace Utf8

/-! ### Bytes of characters in a row -/

/-- The bytes of characters one after another. -/
def encode (text : List Char) : List UInt8 :=
  text.flatMap String.utf8EncodeChar

/-- The bytes of two texts in a row. -/
lemma encode_append (front back : List Char) :
    encode (front ++ back) = encode front ++ encode back :=
  List.flatMap_append

/-- The bytes of a text with a first character. -/
lemma encode_cons (c : Char) (text : List Char) :
    encode (c :: text) = String.utf8EncodeChar c ++ encode text :=
  List.flatMap_cons

/-- Encoded characters are read back. -/
lemma decodeFrom_encode (text : List Char) (rest : List UInt8) :
    decodeFrom none (encode text ++ rest) = text ++ decodeFrom none rest := by
  induction text with
  | nil => rfl
  | cons c text ih =>
    rw [encode_cons, List.append_assoc, decodeFrom_utf8EncodeChar, ih, List.cons_append]

/-- Bytes are not read as nothing. -/
lemma decodeFrom_ne_nil {bytes : List UInt8} (h : bytes ≠ []) : decodeFrom none bytes ≠ [] := by
  intro hnil
  have hreads := reads_iff.mpr hnil
  cases hreads
  exact h rfl

/-- The bytes of a text begin where a character does. -/
lemma atBoundary_encode (text : List Char) : AtBoundary (encode text) := by
  cases text with
  | nil => rintro _ ⟨⟩
  | cons c text =>
    rw [encode_cons]
    cases hbytes : String.utf8EncodeChar c with
    | nil => exact absurd hbytes (utf8EncodeChar_ne_nil c)
    | cons byte bytes =>
      rintro _ ⟨⟩
      exact (isContinuation_of_utf8EncodeChar hbytes).1

/-- An offset into the bytes of a text lies between two characters or inside of one. -/
lemma exists_split (text : List Char) {offset : Nat} (h : offset ≤ (encode text).length) :
    (∃ before after, text = before ++ after ∧ offset = (encode before).length) ∨
    ∃ before c after front back, text = before ++ c :: after ∧
      String.utf8EncodeChar c = front ++ back ∧ front ≠ [] ∧ back ≠ [] ∧
      offset = (encode before).length + front.length := by
  induction text generalizing offset with
  | nil => exact .inl ⟨[], [], rfl, Nat.le_zero.mp h⟩
  | cons c text ih =>
    rcases Nat.lt_or_ge offset (String.utf8EncodeChar c).length with hinside | hbehind
    · by_cases hzero : offset = 0
      · exact .inl ⟨[], c :: text, rfl, hzero⟩
      · refine .inr ⟨[], c, text, (String.utf8EncodeChar c).take offset,
          (String.utf8EncodeChar c).drop offset, rfl, (List.take_append_drop _ _).symm, ?_, ?_, ?_⟩
        · rw [← List.length_pos_iff, List.length_take]
          omega
        · rw [← List.length_pos_iff, List.length_drop]
          omega
        · rw [List.length_take, Nat.min_eq_left (Nat.le_of_lt hinside)]
          exact (Nat.zero_add _).symm
    · have hlength : offset - (String.utf8EncodeChar c).length ≤ (encode text).length := by
        rw [encode_cons, List.length_append] at h
        omega
      rcases ih hlength with ⟨before, after, rfl, hoffset⟩ |
        ⟨before, d, after, front, back, rfl, hbytes, hfront, hback, hoffset⟩
      · refine .inl ⟨c :: before, after, rfl, ?_⟩
        rw [encode_cons, List.length_append]
        omega
      · refine .inr ⟨c :: before, d, after, front, back, rfl, hbytes, hfront, hback, ?_⟩
        rw [encode_cons, List.length_append]
        omega

/-- Inside of a character no other one begins. -/
lemma not_atBoundary_of_utf8EncodeChar {c : Char} {front back : List UInt8}
    (h : String.utf8EncodeChar c = front ++ back) (hfront : front ≠ []) (hback : back ≠ [])
    (rest : List UInt8) : ¬ AtBoundary (back ++ rest) := by
  intro hboundary
  cases front with
  | nil => exact hfront rfl
  | cons first front =>
    cases back with
    | nil => exact hback rfl
    | cons byte back =>
      have hopens : isContinuation byte = false := hboundary byte rfl
      have hcontinues : isContinuation byte = true :=
        (isContinuation_of_utf8EncodeChar h).2 byte (by simp)
      rw [hopens] at hcontinues
      cases hcontinues

/-- The pieces of a text that is cut inside of a character are read as more characters. -/
lemma decodeFrom_split_ne (before after : List Char) (c : Char) {front back : List UInt8}
    (hfront : front ≠ []) (hback : back ≠ []) :
    decodeFrom none (encode before ++ front) ++ decodeFrom none (back ++ encode after) ≠
      before ++ c :: after := by
  intro hsame
  have hafter : decodeFrom none (back ++ encode after) = decodeFrom none back ++ after := by
    rw [(decodeFrom_append (atBoundary_encode after) back).1, ← List.append_nil (encode after),
      decodeFrom_encode, decodeFrom_none_nil, List.append_nil]
  have hlength := congrArg List.length hsame
  have hfront' := List.length_pos_iff.mpr (decodeFrom_ne_nil hfront)
  have hback' := List.length_pos_iff.mpr (decodeFrom_ne_nil hback)
  rw [decodeFrom_encode, hafter] at hlength
  simp only [List.length_append, List.length_cons] at hlength
  omega

end Utf8

/-! ### Parts of a text -/

/-- The bytes of a text. -/
lemma toList_toUTF8 (text : String) : text.toUTF8.toList = Utf8.encode text.toList := by
  rw [byteArray_toList, String.toUTF8_eq_toByteArray, ← String.utf8Encode_toList]
  exact List.toList_data_toByteArray

/-- The size of a text is the number of its bytes. -/
lemma utf8ByteSize_eq (text : String) : text.utf8ByteSize = (Utf8.encode text.toList).length := by
  rw [← toList_toUTF8, byteArray_toList]
  rfl

/-- The bytes of a text in three parts. -/
lemma toList_toUTF8_append (before middle after : String) :
    (before ++ middle ++ after).toUTF8.toList = Utf8.encode before.toList ++
      (Utf8.encode middle.toList ++ Utf8.encode after.toList) := by
  rw [toList_toUTF8, String.toList_append, String.toList_append, Utf8.encode_append,
    Utf8.encode_append, List.append_assoc]

/-- The text of a slice is read from its bytes. -/
lemma toList_slice (source : ByteArray) (start stop : Nat) :
    (slice source start stop).toList =
      Utf8.decodeFrom none ((source.toList.drop start).take (stop - start)) := by
  rw [slice, Utf8.decode, String.toList_ofList, byteArray_toList_extract]

/-- The text of a slice is read from the bytes between those before and after it. -/
lemma toList_slice_of_eq {source : ByteArray} {before part after : List UInt8} {start stop : Nat}
    (hsource : source.toList = before ++ (part ++ after)) (hstart : start = before.length)
    (hstop : stop = start + part.length) :
    (slice source start stop).toList = Utf8.decodeFrom none part := by
  rw [toList_slice, hsource, hstop, Nat.add_sub_cancel_left, hstart, List.drop_left,
    List.take_left]

/-- **Parts of a text.**  The part of a text is the text of its bytes. -/
theorem slice_toUTF8 (before middle after : String) :
    slice (before ++ middle ++ after).toUTF8 before.utf8ByteSize
      (before.utf8ByteSize + middle.utf8ByteSize) = middle := by
  rw [← String.toList_inj, toList_slice_of_eq (toList_toUTF8_append before middle after)
    (utf8ByteSize_eq before) (by rw [utf8ByteSize_eq middle])]
  simpa using Utf8.decodeFrom_encode middle.toList []

/-- **Boundaries of a text.**  The boundaries in the bytes of a text are the places between its
characters. -/
theorem boundary_toUTF8_iff {text : String} {offset : Nat} (h : offset ≤ text.utf8ByteSize) :
    Boundary text.toUTF8 offset ↔
      ∃ before after : String, text = before ++ after ∧ offset = before.utf8ByteSize := by
  rw [boundary_iff, toList_toUTF8]
  constructor
  · intro hboundary
    rw [utf8ByteSize_eq] at h
    rcases Utf8.exists_split text.toList h with ⟨before, after, htext, hoffset⟩ |
      ⟨before, c, after, front, back, htext, hbytes, hfront, hback, hoffset⟩
    · refine ⟨String.ofList before, String.ofList after, ?_, ?_⟩
      · rw [← String.ofList_append, ← htext, String.ofList_toList]
      · rw [utf8ByteSize_eq, String.toList_ofList, hoffset]
    · have hdrop : (Utf8.encode text.toList).drop offset = back ++ Utf8.encode after := by
        rw [htext, Utf8.encode_append, Utf8.encode_cons, hbytes, hoffset,
          List.drop_length_add_append, List.append_assoc, List.drop_left]
      rw [hdrop] at hboundary
      exact absurd hboundary (Utf8.not_atBoundary_of_utf8EncodeChar hbytes hfront hback _)
  · rintro ⟨before, after, rfl, rfl⟩
    rw [String.toList_append, Utf8.encode_append, utf8ByteSize_eq, List.drop_left]
    exact Utf8.atBoundary_encode _

/-- **Cuts in a text.**  A part of a text that is cut in two is put together from the texts of the
pieces exactly when the cut is a boundary. -/
theorem slice_append_slice_iff (before middle after : String) {count : Nat}
    (h : count ≤ middle.utf8ByteSize) :
    slice (before ++ middle ++ after).toUTF8 before.utf8ByteSize (before.utf8ByteSize + count) ++
        slice (before ++ middle ++ after).toUTF8 (before.utf8ByteSize + count)
          (before.utf8ByteSize + middle.utf8ByteSize) = middle ↔
      Boundary (before ++ middle ++ after).toUTF8 (before.utf8ByteSize + count) := by
  have hlow : before.utf8ByteSize ≤ before.utf8ByteSize + count := Nat.le_add_right _ _
  have hhigh : before.utf8ByteSize + count ≤ before.utf8ByteSize + middle.utf8ByteSize :=
    Nat.add_le_add_left h _
  constructor
  · intro hsame
    have hcount : count ≤ (Utf8.encode middle.toList).length := by rwa [← utf8ByteSize_eq]
    rcases Utf8.exists_split middle.toList hcount with ⟨front, back, hmiddle, hoffset⟩ |
      ⟨front, c, back, head, tail, hmiddle, hbytes, hhead, htail, hoffset⟩
    · have hparts : middle = String.ofList front ++ String.ofList back := by
        rw [← String.ofList_append, ← hmiddle, String.ofList_toList]
      rw [boundary_toUTF8_iff (by simp only [String.utf8ByteSize_append]; omega)]
      refine ⟨before ++ String.ofList front, String.ofList back ++ after, ?_, ?_⟩
      · rw [hparts]
        simp only [String.append_assoc]
      · rw [String.utf8ByteSize_append, utf8ByteSize_eq (String.ofList front),
          String.toList_ofList, hoffset]
    · -- inside of a character the pieces are read as more characters
      have hsource : (before ++ middle ++ after).toUTF8.toList = Utf8.encode before.toList ++
          ((Utf8.encode front ++ head) ++
            ((tail ++ Utf8.encode back) ++ Utf8.encode after.toList)) := by
        rw [toList_toUTF8_append, hmiddle, Utf8.encode_append, Utf8.encode_cons, hbytes]
        simp only [List.append_assoc]
      have hcut : before.utf8ByteSize + count =
          before.utf8ByteSize + (Utf8.encode front ++ head).length := by
        rw [hoffset, List.length_append]
      have hstart : before.utf8ByteSize + count =
          (Utf8.encode before.toList ++ (Utf8.encode front ++ head)).length := by
        rw [hcut, utf8ByteSize_eq, ← List.length_append]
      have hstop : before.utf8ByteSize + middle.utf8ByteSize =
          before.utf8ByteSize + count + (tail ++ Utf8.encode back).length := by
        rw [utf8ByteSize_eq middle, hmiddle, Utf8.encode_append, Utf8.encode_cons, hbytes, hoffset]
        simp only [List.length_append, Nat.add_assoc]
      have hleft := toList_slice_of_eq hsource (utf8ByteSize_eq before) hcut
      have hright := toList_slice_of_eq (hsource.trans (List.append_assoc _ _ _).symm) hstart hstop
      apply absurd _ (Utf8.decodeFrom_split_ne front back c hhead htail)
      rw [← hleft, ← hright, ← String.toList_append, hsame, hmiddle]
  · intro hboundary
    rw [← slice_eq_append hlow hhigh hboundary, slice_toUTF8]

end ReasonBindings.Text
