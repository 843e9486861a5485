/-!
# Reading UTF-8

Bytes are read by a machine that stands either between characters or inside one.
Inside a character it knows how many continuation bytes are still owed, between
which bounds the next one has to lie, and the code point collected so far.  The
bounds exclude overlong forms, surrogates and code points beyond the last plane,
so every character that the machine completes is a Unicode scalar value.

Two readings share the machine.  `decode` writes one replacement character for
each maximal part that cannot be continued to a character; `firstFlaw` finds the
first such part together with its cause.
-/

namespace ReasonBindings.Text.Utf8

/-- The place of the machine inside a character. -/
structure Pending where
  /-- Continuation bytes owed after the next one. -/
  more : Nat
  /-- The least byte that may follow. -/
  low : UInt8
  /-- The greatest byte that may follow. -/
  high : UInt8
  /-- The code point bits read so far. -/
  code : Nat
deriving Repr, BEq

/-- What one byte does between characters. -/
inductive Start where
  /-- The byte is a whole character. -/
  | char (c : Char)
  /-- The byte opens a longer character. -/
  | opens (pending : Pending)
  /-- The byte opens no character. -/
  | bad

/-- Reads the first byte of a character. -/
def start (byte : UInt8) : Start :=
  let n := byte.toNat
  if n < 0x80 then .char (Char.ofNat n)
  else if n < 0xC2 then .bad
  else if n < 0xE0 then .opens ⟨0, 0x80, 0xBF, n - 0xC0⟩
  else if n = 0xE0 then .opens ⟨1, 0xA0, 0xBF, 0⟩
  else if n = 0xED then .opens ⟨1, 0x80, 0x9F, 13⟩
  else if n < 0xF0 then .opens ⟨1, 0x80, 0xBF, n - 0xE0⟩
  else if n = 0xF0 then .opens ⟨2, 0x90, 0xBF, 0⟩
  else if n < 0xF4 then .opens ⟨2, 0x80, 0xBF, n - 0xF0⟩
  else if n = 0xF4 then .opens ⟨2, 0x80, 0x8F, 4⟩
  else .bad

/-- Whether the byte may follow. -/
def Pending.accepts (pending : Pending) (byte : UInt8) : Bool :=
  pending.low ≤ byte && byte ≤ pending.high

/-- The code point after one more continuation byte. -/
def Pending.push (pending : Pending) (byte : UInt8) : Nat :=
  pending.code * 64 + (byte.toNat - 0x80)

/-- The place after one more continuation byte, when more are owed. -/
def Pending.next (pending : Pending) (byte : UInt8) : Pending :=
  ⟨pending.more - 1, 0x80, 0xBF, pending.push byte⟩

/-- The mark written for a part that is no character. -/
def replacement : Char := '\uFFFD'

/-- Reads bytes from the given place, writing `replacement` for every maximal part that cannot be
continued to a character. -/
def decodeFrom : Option Pending → List UInt8 → List Char
  | none, [] => []
  | some _, [] => [replacement]
  | none, byte :: rest =>
    match start byte with
    | .char c => c :: decodeFrom none rest
    | .opens pending => decodeFrom (some pending) rest
    | .bad => replacement :: decodeFrom none rest
  | some pending, byte :: rest =>
    if pending.accepts byte then
      if pending.more = 0 then Char.ofNat (pending.push byte) :: decodeFrom none rest
      else decodeFrom (some (pending.next byte)) rest
    else
      match start byte with
      | .char c => replacement :: c :: decodeFrom none rest
      | .opens opened => replacement :: decodeFrom (some opened) rest
      | .bad => replacement :: replacement :: decodeFrom none rest

/-- Reads bytes as text; total, with one replacement character for each maximal invalid part. -/
def decode (bytes : List UInt8) : String :=
  String.ofList (decodeFrom none bytes)

/-- Why a part is no character. -/
inductive Cause where
  /-- A byte that opens no character. -/
  | invalidStart
  /-- A byte that does not continue the character before it. -/
  | invalidContinuation
  /-- The bytes end inside a character. -/
  | unexpectedEnd
deriving Repr, BEq, DecidableEq

/-- The wording of a cause. -/
def Cause.message : Cause → String
  | .invalidStart => "invalid start byte"
  | .invalidContinuation => "invalid continuation byte"
  | .unexpectedEnd => "unexpected end of data"

/-- A part of the bytes that is no character. -/
structure Flaw where
  /-- The offset of its first byte. -/
  offset : Nat
  /-- How many bytes it holds, at least one. -/
  length : Nat
  /-- Its first byte. -/
  byte : UInt8
  cause : Cause
deriving Repr, BEq

/-- Finds the first part that is no character.  Inside a character the second argument is the offset
of its first byte with the number of bytes read and that first byte. -/
def firstFlawFrom (offset : Nat) : Option (Pending × Nat × UInt8) → List UInt8 → Option Flaw
  | none, [] => none
  | some (_, length, first), [] => some ⟨offset - length, length, first, .unexpectedEnd⟩
  | none, byte :: rest =>
    match start byte with
    | .char _ => firstFlawFrom (offset + 1) none rest
    | .opens pending => firstFlawFrom (offset + 1) (some (pending, 1, byte)) rest
    | .bad => some ⟨offset, 1, byte, .invalidStart⟩
  | some (pending, length, first), byte :: rest =>
    if pending.accepts byte then
      if pending.more = 0 then firstFlawFrom (offset + 1) none rest
      else firstFlawFrom (offset + 1) (some (pending.next byte, length + 1, first)) rest
    else some ⟨offset - length, length, first, .invalidContinuation⟩

/-- The first part of the bytes that is no character, if there is one. -/
def firstFlaw (bytes : List UInt8) : Option Flaw :=
  firstFlawFrom 0 none bytes

/-- Two lower-case hexadecimal digits. -/
def hexByte (byte : UInt8) : String :=
  let digits := Nat.toDigits 16 byte.toNat
  String.ofList (if digits.length < 2 then '0' :: digits else digits)

/-- The wording of a flaw: one byte is shown, of several only the positions. -/
def Flaw.message (flaw : Flaw) : String :=
  if flaw.length ≤ 1 then
    s!"'utf-8' codec can't decode byte 0x{hexByte flaw.byte} in position {flaw.offset}: " ++
      flaw.cause.message
  else
    let last := flaw.offset + flaw.length - 1
    s!"'utf-8' codec can't decode bytes in position {flaw.offset}-{last}: " ++ flaw.cause.message

/-- No bytes are no text. -/
@[simp] theorem decodeFrom_none_nil : decodeFrom none [] = [] := rfl

/-- An unfinished character is one replacement character. -/
@[simp] theorem decodeFrom_some_nil (pending : Pending) :
    decodeFrom (some pending) [] = [replacement] := rfl

end ReasonBindings.Text.Utf8
