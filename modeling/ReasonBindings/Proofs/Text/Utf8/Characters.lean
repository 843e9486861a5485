import Mathlib.Algebra.Group.Nat.Defs
import Mathlib.Tactic.Lemma
import ReasonBindings.Proofs.Text.Utf8

/-!
# Characters and their bytes

The machine that reads UTF-8 knows bounds for the next byte and the bits collected so
far, and nothing about characters; the encoding knows the size of a code point and
nothing about bounds.  Both are brought together here.  A place inside a character
*leads* to the code points whose first bits were read and whose next six bits lie
between the bounds, and a first byte opens a place that leads to a code point exactly
when it is the first byte of that character.  The bytes that *complete* a place are
therefore those that are missing from the encoding of a character, no more and no
less, so that every character is read back from its bytes, whatever follows them.
-/

namespace ReasonBindings.Text.Utf8

/-! ### The encoding -/

/-- The byte for six bits of a code point, in front of so many bytes of the same kind. -/
def trailByte (count code : Nat) : UInt8 :=
  UInt8.ofNat (code / 64 ^ count % 64 + 0x80)

/-- The last bytes of the character with the given code point. -/
def trail : Nat → Nat → List UInt8
  | 0, _ => []
  | count + 1, code => trailByte count code :: trail count code

/-- The byte is the first one of the character with the given code point, and so many bytes stand
behind the second one. -/
inductive Opened (byte : UInt8) (code : Nat) : Nat → Prop
  | two : byte.toNat = code / 64 + 0xC0 → 0x80 ≤ code → code < 0x800 → Opened byte code 0
  | three : byte.toNat = code / 4096 + 0xE0 → 0x800 ≤ code → code < 0x10000 →
    code < 0xD800 ∨ 0xE000 ≤ code → Opened byte code 1
  | four : byte.toNat = code / 262144 + 0xF0 → 0x10000 ≤ code → code < 0x110000 →
    Opened byte code 2

/-- A number below the size of a byte is the value of a byte. -/
lemma toNat_ofNat_of_lt {n : Nat} (h : n < 0x100) : (UInt8.ofNat n).toNat = n :=
  Nat.mod_eq_of_lt h

/-- A byte is known by its value. -/
lemma eq_ofNat_of_toNat_eq {byte : UInt8} {n : Nat} (h : byte.toNat = n) :
    byte = UInt8.ofNat n := by
  rw [← h, UInt8.ofNat_toNat]

/-- Code points are no surrogates and lie in one of the planes. -/
lemma toNat_range (c : Char) : c.toNat < 0xD800 ∨ 0xE000 ≤ c.toNat ∧ c.toNat < 0x110000 := by
  have hvalid : c.toNat < 0xD800 ∨ 0xDFFF < c.toNat ∧ c.toNat < 0x110000 := c.valid
  omega

/-- The bytes of a character by the size of its code point. -/
lemma utf8EncodeChar_eq (c : Char) : String.utf8EncodeChar c =
    if c.toNat ≤ 0x7F then [UInt8.ofNat c.toNat]
    else if c.toNat ≤ 0x7FF then
      [UInt8.ofNat (c.toNat / 64 % 32 + 0xC0), UInt8.ofNat (c.toNat % 64 + 0x80)]
    else if c.toNat ≤ 0xFFFF then
      [UInt8.ofNat (c.toNat / 4096 % 16 + 0xE0), UInt8.ofNat (c.toNat / 64 % 64 + 0x80),
        UInt8.ofNat (c.toNat % 64 + 0x80)]
    else
      [UInt8.ofNat (c.toNat / 262144 % 8 + 0xF0), UInt8.ofNat (c.toNat / 4096 % 64 + 0x80),
        UInt8.ofNat (c.toNat / 64 % 64 + 0x80), UInt8.ofNat (c.toNat % 64 + 0x80)] :=
  rfl

/-- Each character has bytes. -/
lemma utf8EncodeChar_ne_nil (c : Char) : String.utf8EncodeChar c ≠ [] := by
  rw [← List.length_pos_iff, String.length_utf8EncodeChar]
  exact c.utf8Size_pos

/-- A code point below 128 is the value of the only byte. -/
lemma utf8EncodeChar_of_lt {c : Char} (h : c.toNat < 0x80) :
    String.utf8EncodeChar c = [UInt8.ofNat c.toNat] := by
  rw [utf8EncodeChar_eq, if_pos (by omega)]

/-- The bytes of a character that has several of them. -/
lemma utf8EncodeChar_of_opened {c : Char} {byte : UInt8} {more : Nat}
    (h : Opened byte c.toNat more) :
    String.utf8EncodeChar c = byte :: trail (more + 1) c.toNat := by
  rw [utf8EncodeChar_eq]
  cases h with
  | two hbyte hlow hhigh =>
    have hfirst : byte = UInt8.ofNat (c.toNat / 64 % 32 + 0xC0) := eq_ofNat_of_toNat_eq (by omega)
    rw [if_neg (by omega), if_pos (by omega), hfirst]
    simp only [trail, trailByte, Nat.pow_zero, Nat.div_one]
  | three hbyte hlow hhigh =>
    have hfirst : byte = UInt8.ofNat (c.toNat / 4096 % 16 + 0xE0) :=
      eq_ofNat_of_toNat_eq (by omega)
    rw [if_neg (by omega), if_neg (by omega), if_pos (by omega), hfirst]
    simp only [trail, trailByte, Nat.pow_zero, Nat.div_one, Nat.pow_one]
  | four hbyte hlow hhigh =>
    have hfirst : byte = UInt8.ofNat (c.toNat / 262144 % 8 + 0xF0) :=
      eq_ofNat_of_toNat_eq (by omega)
    rw [if_neg (by omega), if_neg (by omega), if_neg (by omega), hfirst]
    simp only [trail, trailByte, Nat.pow_zero, Nat.div_one, Nat.pow_one, Nat.reducePow]

/-- Each character beyond the first 128 has a first byte with others behind it. -/
lemma exists_opened {c : Char} (h : 0x80 ≤ c.toNat) :
    ∃ byte more, Opened byte c.toNat more := by
  have hrange := toNat_range c
  rcases Nat.lt_or_ge c.toNat 0x800 with htwo | hthree
  · exact ⟨_, 0, .two (toNat_ofNat_of_lt (by omega)) h htwo⟩
  rcases Nat.lt_or_ge c.toNat 0x10000 with hthree' | hfour
  · exact ⟨_, 1, .three (toNat_ofNat_of_lt (by omega)) hthree hthree' (by omega)⟩
  · exact ⟨_, 2, .four (toNat_ofNat_of_lt (by omega)) hfour (by omega)⟩

/-- The character of a code point that is no surrogate and lies in one of the planes. -/
lemma toNat_ofNat_of_isScalar {code : Nat}
    (h : code < 0xD800 ∨ 0xE000 ≤ code ∧ code < 0x110000) : (Char.ofNat code).toNat = code := by
  have hvalid : code.isValidChar := by
    change code < 0xD800 ∨ 0xDFFF < code ∧ code < 0x110000
    omega
  rw [Char.ofNat, dif_pos hvalid]
  rfl

/-- The code point of a first byte is that of a character. -/
lemma Opened.toNat_ofNat {byte : UInt8} {code more : Nat} (h : Opened byte code more) :
    (Char.ofNat code).toNat = code := by
  apply toNat_ofNat_of_isScalar
  cases h <;> omega

/-! ### First bytes -/

/-- The bits read so far open the code point, and its next six bits lie between the bounds. -/
structure Pending.Leads (pending : Pending) (code : Nat) : Prop where
  code_eq : code / 64 ^ (pending.more + 1) = pending.code
  low_le : pending.low.toNat ≤ code / 64 ^ pending.more % 64 + 0x80
  le_high : code / 64 ^ pending.more % 64 + 0x80 ≤ pending.high.toNat

/-- A first byte opens no place that leads to the code point of another one. -/
lemma opened_of_leads {byte : UInt8} {pending : Pending} (h : start byte = .opens pending)
    {code : Nat} (hleads : pending.Leads code) : Opened byte code pending.more := by
  obtain ⟨hbits, hlow, hhigh⟩ := hleads
  revert h
  -- the bounds keep out overlong forms, surrogates and what lies beyond the last plane
  fun_cases start byte with
  | case1 | case2 | case10 =>
    intro h
    cases h
  | case3 =>
    intro h
    obtain rfl := Start.opens.inj h
    dsimp only [UInt8.reduceToNat, Nat.reduceAdd, Nat.pow_one] at hbits
    exact .two (by omega) (by omega) (by omega)
  | case4 | case5 | case6 =>
    intro h
    obtain rfl := Start.opens.inj h
    dsimp only [UInt8.reduceToNat, Nat.reduceAdd, Nat.reducePow] at hbits hlow hhigh
    exact .three (by omega) (by omega) (by omega) (by omega)
  | case7 | case8 | case9 =>
    intro h
    obtain rfl := Start.opens.inj h
    dsimp only [UInt8.reduceToNat, Nat.reduceAdd, Nat.reducePow] at hbits hlow hhigh
    exact .four (by omega) (by omega) (by omega)

/-- The first byte of a character opens a place that leads to its code point. -/
lemma exists_leads_of_opened {byte : UInt8} {code more : Nat} (h : Opened byte code more) :
    ∃ pending, start byte = .opens pending ∧ pending.more = more ∧ pending.Leads code := by
  fun_cases start byte with
  | case1 | case2 | case10 => cases h <;> omega
  | case3 =>
    cases h with
    | two =>
      refine ⟨_, rfl, rfl, ?_, ?_, ?_⟩ <;>
        dsimp only [UInt8.reduceToNat, Nat.reduceAdd, Nat.reducePow] <;> omega
    | three => omega
    | four => omega
  | case4 | case5 | case6 =>
    cases h with
    | two => omega
    | three =>
      refine ⟨_, rfl, rfl, ?_, ?_, ?_⟩ <;>
        dsimp only [UInt8.reduceToNat, Nat.reduceAdd, Nat.reducePow] <;> omega
    | four => omega
  | case7 | case8 | case9 =>
    cases h with
    | two => omega
    | three => omega
    | four =>
      refine ⟨_, rfl, rfl, ?_, ?_, ?_⟩ <;>
        dsimp only [UInt8.reduceToNat, Nat.reduceAdd, Nat.reducePow] <;> omega

/-- Values below 128 are characters by themselves. -/
lemma start_of_lt {byte : UInt8} (h : byte.toNat < 0x80) :
    start byte = .char (Char.ofNat byte.toNat) := by
  rw [start, if_pos h]

/-- A byte that is a character by itself is the value of its code point. -/
lemma utf8EncodeChar_of_start {byte : UInt8} {c : Char} (h : start byte = .char c) :
    String.utf8EncodeChar c = [byte] := by
  revert h
  fun_cases start byte with
  | case1 _ hlt =>
    intro h
    obtain rfl := Start.char.inj h
    change byte.toNat < 0x80 at hlt
    change String.utf8EncodeChar (Char.ofNat byte.toNat) = [byte]
    have hcode : (Char.ofNat byte.toNat).toNat = byte.toNat := toNat_ofNat_of_isScalar (by omega)
    rw [utf8EncodeChar_of_lt (by omega), hcode, UInt8.ofNat_toNat]
  | case2 | case3 | case4 | case5 | case6 | case7 | case8 | case9 | case10 =>
    intro h
    cases h

/-! ### Completing a character -/

/-- The bytes are those that are owed at a place, and the character is the one they complete. -/
def Pending.Completes : Pending → List UInt8 → Char → Prop
  | _, [], _ => False
  | pending, byte :: bytes, c => pending.accepts byte = true ∧
    if pending.more = 0 then bytes = [] ∧ Char.ofNat (pending.push byte) = c
    else (pending.next byte).Completes bytes c

/-- The bytes stand behind a first byte, and the character is the one that it opens. -/
def Start.Completes : Start → List UInt8 → Char → Prop
  | .char c, bytes, c' => bytes = [] ∧ c = c'
  | .opens pending, bytes, c => pending.Completes bytes c
  | .bad, _, _ => False

/-- A byte may follow when its value lies between the bounds. -/
lemma Pending.accepts_iff (pending : Pending) (byte : UInt8) : pending.accepts byte = true ↔
    pending.low.toNat ≤ byte.toNat ∧ byte.toNat ≤ pending.high.toNat := by
  rw [accepts, Bool.and_eq_true, decide_eq_true_iff, decide_eq_true_iff, UInt8.le_iff_toNat_le,
    UInt8.le_iff_toNat_le]

/-- The bytes that continue a character are those for six bits. -/
lemma isContinuation_iff {byte : UInt8} :
    isContinuation byte = true ↔ 0x80 ≤ byte.toNat ∧ byte.toNat ≤ 0xBF := by
  rw [isContinuation, Bool.and_eq_true, decide_eq_true_iff, decide_eq_true_iff,
    UInt8.le_iff_toNat_le, UInt8.le_iff_toNat_le]
  rfl

/-- A byte that continues a character adds six bits. -/
lemma Pending.push_eq (pending : Pending) (byte : UInt8) :
    pending.push byte = pending.code * 64 + (byte.toNat - 0x80) :=
  rfl

/-- Behind six bits of a code point the other ones are still to come. -/
lemma div_pow_succ (code count : Nat) : code / 64 ^ (count + 1) = code / 64 ^ count / 64 := by
  rw [Nat.pow_succ, Nat.div_div_eq_div_mul]

/-- A byte may follow and brings in the next bits of a code point when the place leads to the code
point and the byte is the next one of it. -/
lemma Pending.accepts_and_push_iff {pending : Pending} (hsound : pending.Sound) {byte : UInt8}
    {code : Nat} :
    pending.accepts byte = true ∧ pending.push byte = code / 64 ^ pending.more ↔
      pending.Leads code ∧ byte = trailByte pending.more code := by
  have hvalue : (trailByte pending.more code).toNat = code / 64 ^ pending.more % 64 + 0x80 :=
    toNat_ofNat_of_lt (by omega)
  have hcode := div_pow_succ code pending.more
  rw [push_eq]
  constructor
  · rintro ⟨haccepts, hpush⟩
    have hrange := isContinuation_iff.mp (hsound.continues haccepts)
    rw [accepts_iff] at haccepts
    have hbyte : byte.toNat = code / 64 ^ pending.more % 64 + 0x80 := by omega
    exact ⟨⟨by omega, by omega, by omega⟩, eq_ofNat_of_toNat_eq hbyte⟩
  · rintro ⟨⟨hbits, hlow, hhigh⟩, rfl⟩
    rw [accepts_iff, hvalue]
    omega

/-- Behind a byte the place leads to the code points whose first bits are those of the place before
it and of the byte. -/
lemma Pending.leads_next_iff (pending : Pending) (byte : UInt8) (code : Nat) :
    (pending.next byte).Leads code ↔
      code / 64 ^ ((pending.next byte).more + 1) = pending.push byte := by
  constructor
  · intro h
    exact h.code_eq
  · intro h
    refine ⟨h, Nat.le_add_left _ _, Nat.le_of_lt_succ ?_⟩
    exact Nat.add_lt_add_right (Nat.mod_lt _ (by decide)) _

/-- The bytes that complete a place are the last ones of a code point that it leads to. -/
lemma Pending.completes_iff {pending : Pending} (hsound : pending.Sound) {bytes : List UInt8}
    {c : Char} :
    pending.Completes bytes c ↔
      ∃ code, pending.Leads code ∧ bytes = trail (pending.more + 1) code ∧ Char.ofNat code = c := by
  induction bytes generalizing pending with
  | nil =>
    constructor
    · intro h
      cases h
    · rintro ⟨code, -, hnil, -⟩
      cases hnil
  | cons byte bytes ih =>
    have hstep : pending.Completes (byte :: bytes) c ↔ pending.accepts byte = true ∧
        ∃ code, pending.push byte = code / 64 ^ pending.more ∧ bytes = trail pending.more code ∧
          Char.ofNat code = c := by
      refine and_congr_right fun _ => ?_
      by_cases hmore : pending.more = 0
      · rw [if_pos hmore, hmore]
        constructor
        · rintro ⟨rfl, rfl⟩
          exact ⟨_, (Nat.div_one _).symm, rfl, rfl⟩
        · rintro ⟨code, hpush, rfl, rfl⟩
          exact ⟨rfl, congrArg Char.ofNat (hpush.trans (Nat.div_one _))⟩
      · have hnext : (pending.next byte).more + 1 = pending.more :=
          Nat.sub_add_cancel (Nat.pos_of_ne_zero hmore)
        rw [if_neg hmore, ih (pending.sound_next byte)]
        apply exists_congr
        intro code
        rw [leads_next_iff, hnext, eq_comm]
    rw [hstep]
    constructor
    · rintro ⟨haccepts, code, hpush, rfl, rfl⟩
      obtain ⟨hleads, rfl⟩ := (accepts_and_push_iff hsound).mp ⟨haccepts, hpush⟩
      exact ⟨code, hleads, rfl, rfl⟩
    · rintro ⟨code, hleads, htrail, rfl⟩
      obtain ⟨hbyte, rfl⟩ := List.cons.inj htrail
      obtain ⟨haccepts, hpush⟩ := (accepts_and_push_iff hsound).mpr ⟨hleads, hbyte⟩
      exact ⟨haccepts, code, hpush, rfl, rfl⟩

/-- **First bytes and the others.**  Bytes stand behind a first byte that they complete to a
character exactly when they are the bytes of that character. -/
theorem start_completes_iff {byte : UInt8} {bytes : List UInt8} {c : Char} :
    (start byte).Completes bytes c ↔ String.utf8EncodeChar c = byte :: bytes := by
  constructor
  · intro h
    cases hstart : start byte with
    | char c' =>
      rw [hstart] at h
      obtain ⟨rfl, rfl⟩ := h
      exact utf8EncodeChar_of_start hstart
    | opens pending =>
      rw [hstart] at h
      obtain ⟨code, hleads, rfl, rfl⟩ := (Pending.completes_iff (sound_of_start hstart)).mp h
      have hopened := opened_of_leads hstart hleads
      have hcode := hopened.toNat_ofNat
      rw [← hcode] at hopened
      rw [utf8EncodeChar_of_opened hopened, hcode]
    | bad =>
      rw [hstart] at h
      cases h
  · intro h
    rcases Nat.lt_or_ge c.toNat 0x80 with hone | hmore
    · rw [utf8EncodeChar_of_lt hone] at h
      obtain ⟨rfl, rfl⟩ := List.cons.inj h
      have hvalue : (UInt8.ofNat c.toNat).toNat = c.toNat := toNat_ofNat_of_lt (by omega)
      rw [start_of_lt (by omega), hvalue]
      exact ⟨rfl, Char.ofNat_toNat c⟩
    · obtain ⟨first, more, hopened⟩ := exists_opened hmore
      rw [utf8EncodeChar_of_opened hopened] at h
      obtain ⟨rfl, rfl⟩ := List.cons.inj h
      obtain ⟨pending, hstart, rfl, hleads⟩ := exists_leads_of_opened hopened
      rw [hstart]
      exact (Pending.completes_iff (sound_of_start hstart)).mpr
        ⟨_, hleads, rfl, Char.ofNat_toNat c⟩

/-! ### Continuation bytes -/

/-- A byte that continues a character opens none. -/
lemma start_of_isContinuation {byte : UInt8} (h : isContinuation byte = true) :
    start byte = .bad := by
  rw [isContinuation_iff] at h
  rw [start, if_neg (by omega), if_pos (by omega)]

/-- The bytes that complete a sound place continue a character. -/
lemma Pending.Completes.isContinuation {pending : Pending} (hsound : pending.Sound)
    {bytes : List UInt8} {c : Char} (h : pending.Completes bytes c) :
    ∀ byte ∈ bytes, isContinuation byte = true := by
  induction bytes generalizing pending with
  | nil => cases h
  | cons byte bytes ih =>
    obtain ⟨haccepts, hrest⟩ := h
    intro next hnext
    rcases List.mem_cons.mp hnext with rfl | hnext
    · exact hsound.continues haccepts
    · split at hrest
      · obtain ⟨rfl, -⟩ := hrest
        cases hnext
      · exact ih (pending.sound_next byte) hrest next hnext

/-- The first byte of a character opens it, and the other ones continue it. -/
lemma isContinuation_of_utf8EncodeChar {byte : UInt8} {bytes : List UInt8} {c : Char}
    (h : String.utf8EncodeChar c = byte :: bytes) :
    isContinuation byte = false ∧ ∀ next ∈ bytes, isContinuation next = true := by
  have hcompletes := start_completes_iff.mpr h
  constructor
  · apply Bool.of_not_eq_true
    intro hcontinues
    rw [start_of_isContinuation hcontinues] at hcompletes
    exact hcompletes
  · cases hstart : start byte with
    | char c' =>
      rw [hstart] at hcompletes
      obtain ⟨rfl, -⟩ := hcompletes
      intro next hnext
      cases hnext
    | opens pending =>
      rw [hstart] at hcompletes
      exact hcompletes.isContinuation (sound_of_start hstart)
    | bad =>
      rw [hstart] at hcompletes
      cases hcompletes

/-! ### Reading characters -/

/-- The bytes that complete a place are read as the character. -/
lemma Pending.Completes.decodeFrom_eq {pending : Pending} {bytes : List UInt8} {c : Char}
    (h : pending.Completes bytes c) (rest : List UInt8) :
    decodeFrom (some pending) (bytes ++ rest) = c :: decodeFrom none rest := by
  induction bytes generalizing pending with
  | nil => cases h
  | cons byte bytes ih =>
    obtain ⟨haccepts, hbytes⟩ := h
    rw [List.cons_append, decodeFrom, if_pos haccepts]
    split
    case isTrue hmore =>
      rw [if_pos hmore] at hbytes
      obtain ⟨rfl, rfl⟩ := hbytes
      rfl
    case isFalse hmore =>
      rw [if_neg hmore] at hbytes
      exact ih hbytes

/-- **Reading a character.**  The bytes of a character are read as the character. -/
theorem decodeFrom_utf8EncodeChar (c : Char) (rest : List UInt8) :
    decodeFrom none (String.utf8EncodeChar c ++ rest) = c :: decodeFrom none rest := by
  cases hbytes : String.utf8EncodeChar c with
  | nil => exact absurd hbytes (utf8EncodeChar_ne_nil c)
  | cons byte bytes =>
    have hcompletes := start_completes_iff.mpr hbytes
    rw [List.cons_append, decodeFrom]
    cases hstart : start byte with
    | char c' =>
      rw [hstart] at hcompletes
      obtain ⟨rfl, rfl⟩ := hcompletes
      rfl
    | opens pending =>
      rw [hstart] at hcompletes
      exact hcompletes.decodeFrom_eq rest
    | bad =>
      rw [hstart] at hcompletes
      cases hcompletes

end ReasonBindings.Text.Utf8
