import Mathlib.Tactic.Lemma
import ReasonBindings.Text.Utf8

/-!
# Reading UTF-8 in pieces

A text that is cut where a character begins can be read piece by piece: a byte that
opens a character ends the one before it, finished or not, so what comes before the
cut is read as if nothing followed.  The part of a source between two offsets is
therefore read as its parts one after another, provided that they begin at
*boundaries*, where no byte stands that continues a character.
-/

namespace ReasonBindings.Text

namespace Utf8

/-- A byte that continues a character and opens none. -/
def isContinuation (byte : UInt8) : Bool :=
  0x80 ≤ byte && byte ≤ 0xBF

/-- Inside a character only bytes that continue one may follow. -/
def Pending.Sound (pending : Pending) : Prop :=
  0x80 ≤ pending.low ∧ pending.high ≤ 0xBF

/-- A character is opened at a sound place. -/
lemma sound_of_start {byte : UInt8} {pending : Pending} (h : start byte = .opens pending) :
    pending.Sound := by
  simp only [start] at h
  repeat' split at h
  all_goals first
    | simp only [← Start.opens.inj h, Pending.Sound]; decide
    | cases h

/-- One more byte leaves a sound place. -/
lemma Pending.sound_next (pending : Pending) (byte : UInt8) : (pending.next byte).Sound :=
  ⟨UInt8.le_refl 0x80, UInt8.le_refl 0xBF⟩

/-- What is accepted at a sound place continues a character. -/
lemma Pending.Sound.continues {pending : Pending} (h : pending.Sound) {byte : UInt8}
    (haccepts : pending.accepts byte = true) : isContinuation byte = true := by
  rw [Pending.accepts, Bool.and_eq_true, decide_eq_true_iff, decide_eq_true_iff] at haccepts
  rw [isContinuation, Bool.and_eq_true, decide_eq_true_iff, decide_eq_true_iff]
  exact ⟨UInt8.le_trans h.1 haccepts.1, UInt8.le_trans haccepts.2 h.2⟩

/-- A byte that opens a character is not accepted inside of one. -/
lemma Pending.Sound.accepts_eq_false {pending : Pending} (h : pending.Sound) {byte : UInt8}
    (hbyte : isContinuation byte = false) : pending.accepts byte = false := by
  rw [Bool.eq_false_iff]
  intro haccepts
  rw [h.continues haccepts] at hbyte
  cases hbyte

/-- The first of the bytes, if there is one, opens a character. -/
def AtBoundary (bytes : List UInt8) : Prop :=
  ∀ byte ∈ bytes.head?, isContinuation byte = false

/-- A byte that is not accepted is read as the first one of the next character. -/
lemma decodeFrom_some_of_not_accepts {pending : Pending} {byte : UInt8}
    (h : ¬ pending.accepts byte = true) (rest : List UInt8) :
    decodeFrom (some pending) (byte :: rest) = replacement :: decodeFrom none (byte :: rest) := by
  rw [decodeFrom, decodeFrom, if_neg h]
  cases start byte <;> rfl

/-- A character that is not finished is replaced before the next one begins. -/
lemma decodeFrom_some_of_atBoundary {pending : Pending} (h : pending.Sound) {bytes : List UInt8}
    (hbytes : AtBoundary bytes) :
    decodeFrom (some pending) bytes = replacement :: decodeFrom none bytes := by
  cases bytes with
  | nil => rfl
  | cons byte rest =>
    apply decodeFrom_some_of_not_accepts
    rw [h.accepts_eq_false (hbytes byte rfl)]
    exact Bool.false_ne_true

/-- **Reading in pieces.**  What comes before a boundary is read as if nothing followed. -/
theorem decodeFrom_append {rest : List UInt8} (hrest : AtBoundary rest) (bytes : List UInt8) :
    decodeFrom none (bytes ++ rest) = decodeFrom none bytes ++ decodeFrom none rest ∧
    ∀ pending : Pending, pending.Sound →
      decodeFrom (some pending) (bytes ++ rest) =
        decodeFrom (some pending) bytes ++ decodeFrom none rest := by
  induction bytes with
  | nil => exact ⟨rfl, fun pending hpending => decodeFrom_some_of_atBoundary hpending hrest⟩
  | cons byte bytes ih =>
    obtain ⟨ihnone, ihsome⟩ := ih
    have hnone : decodeFrom none (byte :: (bytes ++ rest)) =
        decodeFrom none (byte :: bytes) ++ decodeFrom none rest := by
      rw [decodeFrom, decodeFrom]
      cases hstart : start byte with
      | char c => exact congrArg (c :: ·) ihnone
      | opens pending => exact ihsome pending (sound_of_start hstart)
      | bad => exact congrArg (replacement :: ·) ihnone
    refine ⟨hnone, fun pending hpending => ?_⟩
    by_cases haccepts : pending.accepts byte = true
    · rw [List.cons_append, decodeFrom, decodeFrom, if_pos haccepts, if_pos haccepts]
      split
      · rw [ihnone, List.cons_append]
      · exact ihsome _ (pending.sound_next byte)
    · rw [List.cons_append, decodeFrom_some_of_not_accepts haccepts,
        decodeFrom_some_of_not_accepts haccepts, hnone, List.cons_append]

end Utf8

/-! ### Parts of a source -/

/-- The list of bytes of an array from an offset on, behind those of a list that is collected. -/
lemma byteArray_toList_loop (bytes : ByteArray) (offset : Nat) (collected : List UInt8) :
    ByteArray.toList.loop bytes offset collected =
      collected.reverse ++ bytes.data.toList.drop offset := by
  fun_induction ByteArray.toList.loop bytes offset collected with
  | case1 offset collected hlt ih =>
    have hbound : offset < bytes.data.toList.length := hlt
    have hbyte : bytes.get! offset = bytes.data.toList[offset] := getElem!_pos bytes.data offset hlt
    rw [ih, List.reverse_cons, List.append_assoc, List.drop_eq_getElem_cons hbound, hbyte]
    rfl
  | case2 offset collected hlt =>
    rw [List.drop_eq_nil_of_le (Nat.le_of_not_lt hlt), List.append_nil]

/-- The bytes of an array in a list. -/
lemma byteArray_toList (bytes : ByteArray) : bytes.toList = bytes.data.toList :=
  byteArray_toList_loop bytes 0 []

/-- The bytes of an array between two offsets. -/
lemma byteArray_toList_extract (bytes : ByteArray) (start stop : Nat) :
    (bytes.extract start stop).toList = (bytes.toList.drop start).take (stop - start) := by
  rw [byteArray_toList, byteArray_toList, ByteArray.data_extract, Array.toList_extract,
    List.extract_eq_take_drop]

/-- The text of a source between two offsets. -/
def slice (source : ByteArray) (start stop : Nat) : String :=
  Utf8.decode (source.extract start stop).toList

/-- A character begins at the offset of the source, or the source ends before it. -/
def Boundary (source : ByteArray) (offset : Nat) : Prop :=
  (source.data[offset]?).all (fun byte => !Utf8.isContinuation byte) = true

instance (source : ByteArray) (offset : Nat) : Decidable (Boundary source offset) :=
  inferInstanceAs (Decidable (_ = true))

/-- The bytes behind a boundary begin where a character does. -/
lemma boundary_iff {source : ByteArray} {offset : Nat} :
    Boundary source offset ↔ Utf8.AtBoundary (source.toList.drop offset) := by
  rw [Boundary, Utf8.AtBoundary, byteArray_toList, List.head?_drop, Array.getElem?_toList]
  cases source.data[offset]? with
  | none => simp
  | some byte => simp

/-- **Parts of a source.**  The text between two offsets is made up of the texts before and after a
boundary between them. -/
theorem slice_eq_append {source : ByteArray} {start middle stop : Nat} (hstart : start ≤ middle)
    (hstop : middle ≤ stop) (hmiddle : Boundary source middle) :
    slice source start stop = slice source start middle ++ slice source middle stop := by
  have hbytes : (source.extract start stop).toList =
      (source.extract start middle).toList ++ (source.extract middle stop).toList := by
    have hextract : source.extract start stop =
        source.extract start middle ++ source.extract middle stop := by
      rw [ByteArray.extract_append_extract, Nat.min_eq_left hstart, Nat.max_eq_right hstop]
    rw [hextract, byteArray_toList, byteArray_toList, byteArray_toList, ByteArray.data_append,
      Array.toList_append]
  have hboundary : Utf8.AtBoundary (source.extract middle stop).toList := by
    rw [byteArray_toList_extract]
    intro byte hbyte
    rw [List.head?_take] at hbyte
    split at hbyte
    · cases hbyte
    · exact boundary_iff.mp hmiddle byte hbyte
  rw [slice, slice, slice, Utf8.decode, Utf8.decode, Utf8.decode, hbytes,
    (Utf8.decodeFrom_append hboundary _).1, String.ofList_append]

end ReasonBindings.Text
