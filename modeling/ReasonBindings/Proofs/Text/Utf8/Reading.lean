import Mathlib.Tactic.Lemma
import ReasonBindings.Proofs.Text.Utf8.Characters

/-!
# Reading with replacement

What a sequence of bytes is read as is told here without a machine.  Where the bytes of
a character stand in front, it is that character.  Where none do, the *unreadable* part
in front is one replacement character: it is the longest beginning of the bytes that
also begins a character, or a single byte where even the first one begins none.  Each
sequence of bytes has exactly one reading of this kind, and it is the one that the
machine gives.
-/

namespace ReasonBindings.Text.Utf8

/-- Some character has bytes that begin with the given ones. -/
def BeginsChar (bytes : List UInt8) : Prop :=
  ∃ c : Char, bytes <+: String.utf8EncodeChar c

/-- A beginning of bytes that begin a character begins it as well. -/
lemma BeginsChar.of_isPrefix {bytes longer : List UInt8} (h : BeginsChar longer)
    (hfront : bytes <+: longer) : BeginsChar bytes := by
  obtain ⟨c, hc⟩ := h
  exact ⟨c, hfront.trans hc⟩

/-- The part in front of the rest belongs to no character, and is as long as a beginning of a
character can be. -/
structure Unreadable (part rest : List UInt8) : Prop where
  ne_nil : part ≠ []
  /-- No character stands in front. -/
  not_char : ∀ c : Char, ¬ String.utf8EncodeChar c <+: part ++ rest
  /-- The part begins a character; only a single byte need not. -/
  begins : BeginsChar part ∨ part.length = 1
  /-- No longer part begins a character. -/
  maximal : ∀ longer, longer <+: part ++ rest → BeginsChar longer → longer.length ≤ part.length

/-- The bytes are read as the characters. -/
inductive Reads : List UInt8 → List Char → Prop
  | nil : Reads [] []
  | char {c : Char} {rest : List UInt8} {text : List Char} : Reads rest text →
    Reads (String.utf8EncodeChar c ++ rest) (c :: text)
  | unreadable {part rest : List UInt8} {text : List Char} : Unreadable part rest →
    Reads rest text → Reads (part ++ rest) (replacement :: text)

/-! ### Places of the machine -/

/-- A machine that has read the bytes of a part stands at the place: what completes the place is
what the part is continued with to a character. -/
structure Pending.Behind (pending : Pending) (part : List UInt8) : Prop where
  sound : pending.Sound
  completes_iff : ∀ {bytes : List UInt8} {c : Char},
    pending.Completes bytes c ↔ String.utf8EncodeChar c = part ++ bytes

/-- A first byte opens the place behind it. -/
lemma behind_of_start {byte : UInt8} {pending : Pending} (h : start byte = .opens pending) :
    pending.Behind [byte] := by
  refine ⟨sound_of_start h, fun {bytes c} => ?_⟩
  rw [List.singleton_append, ← start_completes_iff, h]
  rfl

/-- One more byte leads to the place behind it. -/
lemma Pending.Behind.next {pending : Pending} {part : List UInt8} (h : pending.Behind part)
    {byte : UInt8} (haccepts : pending.accepts byte = true) (hmore : pending.more ≠ 0) :
    (pending.next byte).Behind (part ++ [byte]) := by
  refine ⟨pending.sound_next byte, fun {bytes c} => ?_⟩
  rw [List.append_assoc, List.singleton_append, ← h.completes_iff, Completes, if_neg hmore]
  exact (and_iff_right haccepts).symm

/-- The last byte of a character is accepted behind the other ones. -/
lemma Pending.Behind.exists_char {pending : Pending} {part : List UInt8} (h : pending.Behind part)
    {byte : UInt8} (haccepts : pending.accepts byte = true) (hmore : pending.more = 0) :
    ∃ c, String.utf8EncodeChar c = part ++ [byte] := by
  refine ⟨Char.ofNat (pending.push byte), h.completes_iff.mp ⟨haccepts, ?_⟩⟩
  rw [if_pos hmore]
  exact ⟨rfl, rfl⟩

/-- Behind an accepted byte a character can be completed. -/
lemma Pending.exists_completes_next (pending : Pending) (byte : UInt8) :
    ∃ bytes c, (pending.next byte).Completes bytes c := by
  have hleads := (pending.leads_next_iff byte _).mpr
    (Nat.mul_div_cancel (pending.push byte) (Nat.pow_pos (by decide)))
  exact ⟨_, _, (Pending.completes_iff (pending.sound_next byte)).mpr ⟨_, hleads, rfl, rfl⟩⟩

/-- Behind a part that begins a character, the bytes that are accepted are those with which it still
begins one. -/
lemma Pending.Behind.accepts_iff {pending : Pending} {part : List UInt8} (h : pending.Behind part)
    {byte : UInt8} : pending.accepts byte = true ↔ BeginsChar (part ++ [byte]) := by
  constructor
  · intro haccepts
    by_cases hmore : pending.more = 0
    · obtain ⟨c, hc⟩ := h.exists_char haccepts hmore
      exact ⟨c, hc ▸ List.prefix_refl _⟩
    · obtain ⟨bytes, c, hcompletes⟩ := pending.exists_completes_next byte
      exact ⟨c, bytes, ((h.next haccepts hmore).completes_iff.mp hcompletes).symm⟩
  · rintro ⟨c, bytes, hbytes⟩
    rw [List.append_assoc] at hbytes
    exact (h.completes_iff.mpr hbytes.symm).1

/-- A byte that opens a place begins a character. -/
lemma beginsChar_of_start {byte : UInt8} {pending : Pending} (h : start byte = .opens pending) :
    BeginsChar [byte] := by
  have hlow : pending.accepts pending.low = true := by
    revert h
    fun_cases start byte <;> intro h <;> cases h <;> rfl
  have hbegins := (behind_of_start h).accepts_iff.mp hlow
  exact hbegins.of_isPrefix (List.prefix_append _ _)

/-- A byte that opens no place begins no character. -/
lemma not_beginsChar_of_bad {byte : UInt8} (h : start byte = .bad) : ¬ BeginsChar [byte] := by
  rintro ⟨c, bytes, hbytes⟩
  have hcompletes := start_completes_iff.mpr hbytes.symm
  rw [h] at hcompletes
  exact hcompletes

/-! ### Unreadable parts -/

/-- A part is maximal when it does not begin a character with the byte behind it. -/
lemma length_le_of_isPrefix {part rest : List UInt8}
    (h : ∀ byte ∈ rest.head?, ¬ BeginsChar (part ++ [byte])) {longer : List UInt8}
    (hfront : longer <+: part ++ rest) (hlonger : BeginsChar longer) :
    longer.length ≤ part.length := by
  apply Nat.le_of_not_lt
  intro hlt
  cases rest with
  | nil =>
    rw [List.append_nil] at hfront
    exact Nat.not_lt_of_le hfront.length_le hlt
  | cons byte rest =>
    have hbyte : part ++ [byte] <+: part ++ byte :: rest :=
      ⟨rest, (List.append_cons part byte rest).symm⟩
    have hlength : (part ++ [byte]).length ≤ longer.length := by
      rw [List.length_append, List.length_singleton]
      omega
    apply h byte rfl
    exact hlonger.of_isPrefix (List.prefix_of_prefix_length_le hbyte hfront hlength)

/-- Of two unreadable parts in front of the same bytes, none is longer. -/
lemma Unreadable.length_le {part rest part' rest' : List UInt8} (h : Unreadable part rest)
    (h' : Unreadable part' rest') (hbytes : part ++ rest = part' ++ rest') :
    part.length ≤ part'.length := by
  rcases h.begins with hbegins | hone
  · apply h'.maximal part _ hbegins
    rw [← hbytes]
    exact List.prefix_append _ _
  · rw [hone]
    exact List.length_pos_iff.mpr h'.ne_nil

/-- The unreadable part in front of given bytes is unique. -/
lemma Unreadable.unique {part rest part' rest' : List UInt8} (h : Unreadable part rest)
    (h' : Unreadable part' rest') (hbytes : part ++ rest = part' ++ rest') :
    part = part' ∧ rest = rest' := by
  apply List.append_inj hbytes
  exact Nat.le_antisymm (h.length_le h' hbytes) (h'.length_le h hbytes.symm)

/-- A machine inside a character that is not completed stops behind the unreadable part. -/
lemma Pending.Behind.exists_unreadable {pending : Pending} {part bytes : List UInt8}
    (h : pending.Behind part) (hne : part ≠ []) (hbegins : BeginsChar part)
    (hchar : ∀ c : Char, ¬ String.utf8EncodeChar c <+: part ++ bytes) :
    ∃ front rest, bytes = front ++ rest ∧ Unreadable (part ++ front) rest ∧
      decodeFrom (some pending) bytes = replacement :: decodeFrom none rest := by
  induction bytes generalizing pending part with
  | nil =>
    refine ⟨[], [], rfl, ?_, rfl⟩
    rw [List.append_nil]
    exact ⟨hne, hchar, .inl hbegins, fun _ => length_le_of_isPrefix (by rintro _ ⟨⟩)⟩
  | cons byte bytes ih =>
    by_cases haccepts : pending.accepts byte = true
    · have hmore : pending.more ≠ 0 := by
        intro hmore
        obtain ⟨c, hc⟩ := h.exists_char haccepts hmore
        apply hchar c
        rw [hc]
        exact ⟨bytes, (List.append_cons part byte bytes).symm⟩
      obtain ⟨front, rest, rfl, hunreadable, hdecode⟩ := ih (h.next haccepts hmore) (by simp)
        (h.accepts_iff.mp haccepts) (by rwa [List.append_assoc])
      rw [List.append_assoc] at hunreadable
      refine ⟨byte :: front, rest, rfl, hunreadable, ?_⟩
      rw [decodeFrom, if_pos haccepts, if_neg hmore, hdecode]
    · refine ⟨[], byte :: bytes, rfl, ?_, ?_⟩
      · rw [List.append_nil]
        refine ⟨hne, hchar, .inl hbegins, fun _ => length_le_of_isPrefix ?_⟩
        rintro _ ⟨⟩
        rwa [← h.accepts_iff]
      · exact decodeFrom_some_of_not_accepts haccepts bytes

/-- Where no character stands in front, the machine writes one replacement character for the
unreadable part. -/
lemma exists_unreadable {bytes : List UInt8} (hne : bytes ≠ [])
    (hchar : ∀ c : Char, ¬ String.utf8EncodeChar c <+: bytes) :
    ∃ part rest, bytes = part ++ rest ∧ Unreadable part rest ∧
      decodeFrom none bytes = replacement :: decodeFrom none rest := by
  cases bytes with
  | nil => exact absurd rfl hne
  | cons byte bytes =>
    cases hstart : start byte with
    | char c =>
      apply absurd _ (hchar c)
      rw [utf8EncodeChar_of_start hstart]
      exact List.prefix_append [byte] bytes
    | opens pending =>
      have hbehind := behind_of_start hstart
      obtain ⟨front, rest, rfl, hunreadable, hdecode⟩ := hbehind.exists_unreadable
        (List.cons_ne_nil _ _) (beginsChar_of_start hstart) hchar
      refine ⟨byte :: front, rest, rfl, hunreadable, ?_⟩
      rw [decodeFrom, hstart]
      exact hdecode
    | bad =>
      refine ⟨[byte], bytes, rfl, ⟨List.cons_ne_nil _ _, hchar, .inr rfl, ?_⟩, ?_⟩
      · intro longer
        apply length_le_of_isPrefix
        intro next _ hbegins
        exact not_beginsChar_of_bad hstart (hbegins.of_isPrefix (List.prefix_append _ _))
      · rw [decodeFrom, hstart]

/-! ### Readings -/

/-- The machine reads bytes in the way that is told without it. -/
lemma reads_decodeFrom (bytes : List UInt8) : Reads bytes (decodeFrom none bytes) := by
  induction hlength : bytes.length using Nat.strongRecOn generalizing bytes with
  | ind length ih =>
    by_cases hchar : ∃ c : Char, String.utf8EncodeChar c <+: bytes
    · obtain ⟨c, rest, rfl⟩ := hchar
      rw [decodeFrom_utf8EncodeChar]
      refine .char (ih rest.length ?_ rest rfl)
      have hpos := c.utf8Size_pos
      rw [List.length_append, String.length_utf8EncodeChar] at hlength
      omega
    · by_cases hne : bytes = []
      · subst hne
        exact .nil
      · obtain ⟨part, rest, rfl, hunreadable, hdecode⟩ :=
          exists_unreadable hne (not_exists.mp hchar)
        rw [hdecode]
        refine .unreadable hunreadable (ih rest.length ?_ rest rfl)
        have hpos := List.length_pos_iff.mpr hunreadable.ne_nil
        rw [List.length_append] at hlength
        omega

/-- **Reading with replacement.**  Bytes have exactly one reading, and it is what the machine
reads. -/
theorem reads_iff {bytes : List UInt8} {text : List Char} :
    Reads bytes text ↔ decodeFrom none bytes = text := by
  constructor
  · intro h
    induction h with
    | nil => rfl
    | char _ ih => rw [decodeFrom_utf8EncodeChar, ih]
    | @unreadable part rest _ hunreadable _ ih =>
      have hne : part ++ rest ≠ [] := List.append_ne_nil_of_left_ne_nil hunreadable.ne_nil _
      obtain ⟨part', rest', hbytes, hunreadable', hdecode⟩ :=
        exists_unreadable hne hunreadable.not_char
      obtain ⟨-, rfl⟩ := hunreadable.unique hunreadable' hbytes
      rw [hdecode, ih]
  · rintro rfl
    exact reads_decodeFrom bytes

example : decodeFrom none [0xE2, 0x82, 0x41, 0xED, 0xA0] =
    [replacement, 'A', replacement, replacement] := by decide

end ReasonBindings.Text.Utf8
