import Mathlib.Data.List.Infix
import Mathlib.Tactic.Lemma
import ReasonBindings.Files.Access

/-!
# File systems

What the commands do to files does not depend on where the files are.  It follows from a
few laws of reading and writing, which are stated here for any *lawful* file system.  Such a
file system is looked at by places.  Different paths may lead to one place, but different
places have different contents, and a path need not lead anywhere.

Writing takes two stages.  First the file is opened, which either fails and then changes nothing
or empties the file.  After that any part of the text may already be in the file when something
keeps the rest from being written, so what is left behind can be less than the text.
-/

namespace ReasonBindings

/-! ### Results -/

/-- A sequence gives a value when both of its parts do. -/
lemma bind_eq_ok_iff {ε α β : Type} {first : Except ε α} {next : α → Except ε β} {result : β} :
    (first >>= next) = .ok result ↔ ∃ value, first = .ok value ∧ next value = .ok result := by
  cases first with
  | error cause =>
    constructor
    · intro h
      cases h
    · rintro ⟨_, hvalue, -⟩
      cases hvalue
  | ok value =>
    constructor
    · exact fun h => ⟨value, rfl, h⟩
    · rintro ⟨_, hvalue, h⟩
      obtain rfl := Except.ok.inj hvalue
      exact h

/-! ### Places -/

/-- A view of the places of a file system and of what is there. -/
class FileView (σ : Type) where
  /-- Where a file or a directory can be. -/
  Place : Type
  /-- What is at a place: nothing, a directory, or a file with certain bytes. -/
  contents? : σ → Place → Option (Option (List UInt8))
  /-- The place that a path leads to. -/
  place? : σ → String → Option Place
  /-- The place of the file that is opened at a path to be written, or why it cannot be opened. -/
  opened : σ → String → Except Obstacle Place

section

variable {σ : Type} [FileView σ]

open FileView

/-- The bytes of the file at a path. -/
def fileAt? (state : σ) (path : String) : Option (List UInt8) :=
  (place? state path).bind fun place => (contents? state place).join

/-- Every place has the same contents. -/
def Unchanged (before after : σ) : Prop :=
  ∀ place : Place σ, contents? after place = contents? before place

/-- The second state is the first one with some bytes as the contents of the file at a path, which
may be a new one; at every other place there is what was there before, and every path leads where
it led. -/
structure Written (before : σ) (path : String) (bytes : List UInt8) (after : σ) : Prop where
  fileAt : fileAt? after path = some bytes
  elsewhere : ∃ place : Place σ, opened before path = .ok place ∧
    contents? after place = some (some bytes) ∧
      ∀ other, other ≠ place → contents? after other = contents? before other
  paths : ∀ other place, place? before other = some place → place? after other = some place

/-- The file that is opened at a path to be written has certain bytes already. -/
def Holds (state : σ) (path : String) (bytes : List UInt8) : Prop :=
  ∃ place : Place σ, opened state path = .ok place ∧ contents? state place = some (some bytes)

/-- Writing changes nothing exactly when the file had the bytes already. -/
lemma Written.unchanged_iff {before after : σ} {path : String} {bytes : List UInt8}
    (h : Written before path bytes after) : Unchanged before after ↔ Holds before path bytes := by
  obtain ⟨place, hopened, hplace, helsewhere⟩ := h.elsewhere
  constructor
  · exact fun hsame => ⟨place, hopened, by rw [← hsame place, hplace]⟩
  · rintro ⟨held, hheld, hbytes⟩ other
    obtain rfl := Except.ok.inj (hopened.symm.trans hheld)
    by_cases hother : other = place
    · rw [hother, hplace, hbytes]
    · exact helsewhere other hother

end

/-! ### Laws -/

/-- The laws of reading and writing. -/
class LawfulFileSystem (σ : Type) [FileSystem σ] [FileView σ] : Prop where
  /-- What is read are the bytes of the file at the path. -/
  fileAt?_of_read {state : σ} {path : String} {bytes : List UInt8} :
    FileSystem.read state path = .ok bytes → fileAt? state path = some bytes
  /-- A file that cannot be opened is not written, and nothing changes. -/
  write_of_closed {state : σ} {path : String} {obstacle : Obstacle} (text : String) :
    FileView.opened state path = .error obstacle →
      FileSystem.write state path text = (.error obstacle, state)
  /-- A file that is opened holds the beginning of the text afterwards, and all of the text if it
  was written. -/
  write_of_opened {state : σ} {path : String} {place : FileView.Place σ} (text : String) :
    FileView.opened state path = .ok place →
      ∃ part, part <+: text.toUTF8.toList ∧
        Written state path part (FileSystem.write state path text).2 ∧
        ((FileSystem.write state path text).1 = .ok () → part = text.toUTF8.toList)

/-! ### Paths -/

/-- The path can be handed to a file system. -/
def IsPath (path : String) : Prop :=
  '\x00' ∉ path.toList

instance (path : String) : Decidable (IsPath path) :=
  inferInstanceAs (Decidable (_ ∉ _))

/-- A file can be opened at the path to be written. -/
def Writable {σ : Type} [FileView σ] (state : σ) (path : String) : Prop :=
  IsPath path ∧ ∃ place, FileView.opened state path = .ok place

namespace LawfulFileSystem

variable {σ : Type} [FileSystem σ] [FileView σ] [LawfulFileSystem σ] {state : σ} {path : String}

/-- **Writing.**  The file cannot be opened and nothing changes, or it gets the whole text, or
something keeps all but the beginning of the text from being written. -/
theorem write_cases (state : σ) (path text : String) :
    (∃ obstacle, FileView.opened state path = .error obstacle ∧
        FileSystem.write state path text = (.error obstacle, state)) ∨
      (∃ after, FileSystem.write state path text = (.ok (), after) ∧
        Written state path text.toUTF8.toList after) ∨
      ∃ obstacle after part, FileSystem.write state path text = (.error obstacle, after) ∧
        part <+: text.toUTF8.toList ∧ Written state path part after := by
  cases hopened : FileView.opened state path with
  | error obstacle => exact Or.inl ⟨obstacle, rfl, write_of_closed text hopened⟩
  | ok place =>
    obtain ⟨part, hpart, hwritten, hwhole⟩ := write_of_opened text hopened
    cases hwrite : FileSystem.write state path text with
    | mk result after =>
      rw [hwrite] at hwritten hwhole
      cases result with
      | error obstacle => exact Or.inr (Or.inr ⟨obstacle, after, part, rfl, hpart, hwritten⟩)
      | ok _ =>
        obtain rfl := hwhole rfl
        exact Or.inr (Or.inl ⟨after, rfl, hwritten⟩)

end LawfulFileSystem

end ReasonBindings
