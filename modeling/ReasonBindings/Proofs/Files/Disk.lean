import Mathlib.Data.List.Basic
import Mathlib.Tactic.Lemma
import Mathlib.Tactic.SplitIfs
import ReasonBindings.Files.Disk
import ReasonBindings.Proofs.Files.System

/-!
# Disks are lawful

A file that is written has the text as its contents, under the path that it was written
at, and at every other place of the disk there is what was there before.  A path may lead
through any directories and back, so the places of a disk are the lists of names that lead
to an entry from the root on: different paths may lead to one place, but different places
hold different entries.

On a disk a text is written as a whole or not at all: what can keep the text out of a file
that was opened is that it has no encoding, and then the file stays empty.
-/

namespace ReasonBindings

namespace Entry

/-! ### Places -/

/-- What a file holds; a directory holds no bytes. -/
def contents? : Entry → Option (List UInt8)
  | file bytes => some bytes
  | directory _ => none

/-- An entry is a directory or holds bytes. -/
lemma isDirectory_iff {entry : Entry} : entry.isDirectory = true ↔ entry.contents? = none := by
  cases entry with
  | file bytes => simp [isDirectory, contents?]
  | directory entries => simp [isDirectory, contents?]

/-- A place below a place is reached through that place. -/
lemma at?_append (entry : Entry) (place below : List String) :
    entry.at? (place ++ below) = (entry.at? place).bind (·.at? below) := by
  induction place generalizing entry with
  | nil => rfl
  | cons name place ih =>
    rw [List.cons_append, at?, at?]
    cases entry.child? name with
    | none => rfl
    | some child => exact ih child

/-- The entry under a name in the directory at a place. -/
lemma at?_concat (entry : Entry) (place : List String) (name : String) :
    entry.at? (place ++ [name]) = (entry.at? place).bind (·.child? name) := by
  rw [at?_append]
  cases entry.at? place with
  | none => rfl
  | some found => cases hchild : found.child? name <;> simp [at?, hchild]

/-- Only a directory has entries under names. -/
lemma isDirectory_of_child? {entry child : Entry} {name : String}
    (h : entry.child? name = some child) : entry.isDirectory = true := by
  cases entry with
  | file bytes => cases h
  | directory entries => rfl

/-- Above an entry there are entries. -/
lemma exists_at?_dropLast {entry found : Entry} {place : List String}
    (h : entry.at? place = some found) : ∃ above, entry.at? place.dropLast = some above := by
  rcases List.eq_nil_or_concat place with rfl | ⟨parent, name, rfl⟩
  · exact ⟨entry, rfl⟩
  · rw [List.concat_eq_append, at?_concat] at h
    obtain ⟨above, habove, -⟩ := Option.bind_eq_some_iff.mp h
    rw [List.concat_eq_append, List.dropLast_concat]
    exact ⟨above, habove⟩

/-- Above an entry there are directories. -/
lemma isDirectory_of_at?_concat {entry found : Entry} {parent : List String} {name : String}
    (h : entry.at? (parent ++ [name]) = some found) :
    ∃ above, entry.at? parent = some above ∧ above.isDirectory = true := by
  rw [at?_concat] at h
  obtain ⟨above, habove, hchild⟩ := Option.bind_eq_some_iff.mp h
  exact ⟨above, habove, isDirectory_of_child? hchild⟩

/-! ### Putting a file at a place -/

/-- There is room for a file under a name in the directory at a place: the directory is there, and
under the name there is no directory. -/
structure HasRoom (entry : Entry) (parent : List String) (name : String) : Prop where
  directory : ∃ above, entry.at? parent = some above ∧ above.isDirectory = true
  vacant : ∀ found, entry.at? (parent ++ [name]) = some found → found.isDirectory = false

/-- An entry under another name is the one that was there. -/
lemma lookup_withEntry_of_ne {name other : String} (h : other ≠ name) (entry : Entry)
    (entries : List (String × Entry)) :
    (withEntry name entry entries).lookup other = entries.lookup other := by
  rw [withEntry, List.lookup_cons, beq_false_of_ne h]
  induction entries with
  | nil => rfl
  | cons first rest ih =>
    obtain ⟨key, value⟩ := first
    by_cases hkey : key = name
    · subst hkey
      simpa [List.lookup_cons, beq_false_of_ne h] using ih
    · simp only [List.filter_cons, bne_iff_ne, ne_eq, hkey, not_false_eq_true, if_true,
        List.lookup_cons]
      cases other == key with
      | true => rfl
      | false => exact ih

/-- What is put below a name is what is under the name afterwards. -/
lemma at?_put_cons (entry new : Entry) (name : String) (place other : List String) :
    (entry.put (name :: place) new).at? (name :: other) =
      (((entry.child? name).getD (directory [])).put place new).at? other := by
  simp [put, at?, child?, withEntry]

/-- What is put below a name leaves the entries under other names alone. -/
lemma at?_put_cons_of_ne {entry : Entry} (hentry : entry.isDirectory = true) (new : Entry)
    {name other : String} (hother : other ≠ name) (place below : List String) :
    (entry.put (name :: place) new).at? (other :: below) = entry.at? (other :: below) := by
  cases entry with
  | file bytes => cases hentry
  | directory list =>
    rw [put, at?, at?, child?, child?, lookup_withEntry_of_ne hother]
    rfl

/-- A directory stays a directory when something is put below a name. -/
lemma contents?_put_cons {entry : Entry} (hentry : entry.isDirectory = true) (new : Entry)
    (name : String) (place : List String) :
    ((entry.put (name :: place) new).at? []).map contents? = (entry.at? []).map contents? := by
  rw [at?, at?, Option.map_some, Option.map_some, isDirectory_iff.mp hentry]
  rfl

/-- No entry is below a file. -/
lemma at?_cons_of_file {entry : Entry} (h : entry.isDirectory = false) (name : String)
    (place : List String) : entry.at? (name :: place) = none := by
  cases entry with
  | file bytes => rfl
  | directory entries => cases h

/-- Below the directory of a room there is room in the directory that comes next. -/
lemma HasRoom.below {entry : Entry} {first : String} {parent : List String} {name : String}
    (h : entry.HasRoom (first :: parent) name) :
    ∃ child, entry.child? first = some child ∧ child.HasRoom parent name := by
  obtain ⟨above, habove, hdirectory⟩ := h.directory
  rw [at?] at habove
  obtain ⟨child, hchild, hbelow⟩ := Option.bind_eq_some_iff.mp habove
  refine ⟨child, hchild, ⟨above, hbelow, hdirectory⟩, fun found hfound => ?_⟩
  refine h.vacant found ?_
  rw [List.cons_append, at?, hchild]
  exact hfound

/-- Where there is room for a file, there is a directory around. -/
lemma HasRoom.isDirectory {entry : Entry} {parent : List String} {name : String}
    (h : entry.HasRoom parent name) : entry.isDirectory = true := by
  cases parent with
  | nil =>
    obtain ⟨above, habove, hdirectory⟩ := h.directory
    obtain rfl := Option.some.inj habove
    exact hdirectory
  | cons first parent =>
    obtain ⟨child, hchild, -⟩ := h.below
    exact isDirectory_of_child? hchild

/-- **Frame.**  When a file is put where there is room for it, at every other place there is what
was there before, a directory or a file with the same bytes. -/
theorem at?_put_of_ne {entry : Entry} {parent : List String} {name : String}
    (h : entry.HasRoom parent name) (bytes : List UInt8) {other : List String}
    (hother : other ≠ parent ++ [name]) :
    ((entry.put (parent ++ [name]) (.file bytes)).at? other).map contents? =
      (entry.at? other).map contents? := by
  induction parent generalizing entry other with
  | nil =>
    cases other with
    | nil => exact contents?_put_cons h.isDirectory _ name []
    | cons key below =>
      by_cases hkey : key = name
      · subst hkey
        cases below with
        | nil => exact absurd rfl hother
        | cons next below =>
          rw [List.nil_append, at?_put_cons, put, at?_cons_of_file rfl, at?]
          cases hchild : entry.child? key with
          | none => rfl
          | some found =>
            have hfile := h.vacant found (by rw [List.nil_append, at?, hchild]; rfl)
            rw [Option.bind_some, at?_cons_of_file hfile]
      · rw [List.nil_append, at?_put_cons_of_ne h.isDirectory _ hkey]
  | cons first parent ih =>
    obtain ⟨child, hchild, hroom⟩ := h.below
    cases other with
    | nil => exact contents?_put_cons h.isDirectory _ first (parent ++ [name])
    | cons key below =>
      by_cases hkey : key = first
      · subst hkey
        rw [List.cons_append, at?_put_cons, hchild, Option.getD_some, at?, hchild]
        exact ih hroom fun hbelow => hother (by rw [hbelow]; rfl)
      · rw [List.cons_append, at?_put_cons_of_ne h.isDirectory _ hkey]

end Entry

namespace Disk

open Entry

/-! ### Following a path -/

/-- A step along a path leads from a directory to the one above or to an entry of it. -/
lemma step_eq_ok_iff {root : Entry} {place next : List String} {name : String} :
    step root place name = .ok next ↔
      ∃ entry, root.at? place = some entry ∧ entry.isDirectory = true ∧
        ((name = ".." ∧ next = place.dropLast) ∨
          (name ≠ ".." ∧ name.utf8ByteSize ≤ nameLimit ∧ (entry.child? name).isSome = true ∧
            next = place ++ [name])) := by
  constructor
  · intro h
    rw [step] at h
    split at h
    case h_1 => cases h
    case h_2 entry hentry =>
      split_ifs at h with hfile hup hlong hchild
      · obtain rfl := Except.ok.inj h
        exact ⟨entry, hentry, by simpa using hfile, Or.inl ⟨hup, rfl⟩⟩
      · obtain rfl := Except.ok.inj h
        exact ⟨entry, hentry, by simpa using hfile, Or.inr ⟨hup, Nat.not_lt.mp hlong, hchild, rfl⟩⟩
  · rintro ⟨entry, hentry, hdirectory, ⟨hup, rfl⟩ | ⟨hup, hsize, hchild, rfl⟩⟩
    · rw [step, hentry]
      simp only [hdirectory, Bool.not_true, Bool.false_eq_true, if_false, if_pos hup]
    · rw [step, hentry]
      simp only [hdirectory, Bool.not_true, Bool.false_eq_true, if_false, if_neg hup,
        if_neg (Nat.not_lt.mpr hsize), if_pos hchild]

/-- A step along a path finds nothing when a directory has no entry under the name. -/
lemma step_eq_notFound_iff {root entry : Entry} {place : List String} {name : String}
    (hentry : root.at? place = some entry) :
    step root place name = .error .notFound ↔
      entry.isDirectory = true ∧ name ≠ ".." ∧ name.utf8ByteSize ≤ nameLimit ∧
        entry.child? name = none := by
  constructor
  · intro h
    rw [step, hentry] at h
    dsimp only at h
    split_ifs at h with hfile hup hlong hchild
    · cases h
    · cases h
    · exact ⟨by simpa using hfile, hup, Nat.not_lt.mp hlong, by simpa using hchild⟩
  · rintro ⟨hdirectory, hup, hsize, hchild⟩
    rw [step, hentry]
    simp only [hdirectory, Bool.not_true, Bool.false_eq_true, if_false, if_neg hup,
      if_neg (Nat.not_lt.mpr hsize), hchild, Option.isSome_none]

/-- Above a directory there are directories. -/
lemma isDirectory_dropLast {root entry : Entry} {place : List String}
    (hentry : root.at? place = some entry) (hdirectory : entry.isDirectory = true) :
    ∃ above, root.at? place.dropLast = some above ∧ above.isDirectory = true := by
  rcases List.eq_nil_or_concat place with rfl | ⟨parent, name, rfl⟩
  · exact ⟨entry, hentry, hdirectory⟩
  · rw [List.concat_eq_append] at hentry ⊢
    rw [List.dropLast_concat]
    exact isDirectory_of_at?_concat hentry

/-- A step along a path leads to an entry. -/
lemma exists_at?_of_step {root : Entry} {place next : List String} {name : String}
    (h : step root place name = .ok next) : ∃ found, root.at? next = some found := by
  obtain ⟨entry, hentry, -, ⟨-, rfl⟩ | ⟨-, -, hchild, rfl⟩⟩ := step_eq_ok_iff.mp h
  · exact exists_at?_dropLast hentry
  · rw [at?_concat, hentry]
    exact Option.isSome_iff_exists.mp hchild

/-- A path leads from an entry to an entry. -/
lemma exists_at?_of_steps {root : Entry} {names place next : List String}
    (hplace : ∃ found, root.at? place = some found)
    (h : names.foldlM (step root) place = .ok next) : ∃ found, root.at? next = some found := by
  induction names generalizing place with
  | nil =>
    obtain rfl := Except.ok.inj h
    exact hplace
  | cons name names ih =>
    rw [List.foldlM_cons, bind_eq_ok_iff] at h
    obtain ⟨middle, hstep, hsteps⟩ := h
    exact ih (exists_at?_of_step hstep) hsteps

/-! ### Where a file is written -/

/-- A file is read at the place that its path leads to. -/
lemma read_eq_ok_iff {disk : Disk} {path : String} {bytes : List UInt8} :
    disk.read path = .ok bytes ↔
      path.utf8ByteSize ≤ pathLimit ∧
        ∃ place, (disk.partsOf path).foldlM (step disk.root) [] = .ok place ∧
          disk.root.at? place = some (.file bytes) := by
  rw [read]
  by_cases hsize : path.utf8ByteSize > pathLimit
  · rw [if_pos hsize]
    constructor
    · intro h
      cases h
    · rintro ⟨hshort, -⟩
      exact absurd hshort (Nat.not_le.mpr hsize)
  · rw [if_neg hsize, bind_eq_ok_iff]
    refine ⟨fun ⟨place, hplace, h⟩ => ⟨Nat.not_lt.mp hsize, place, hplace, ?_⟩,
      fun ⟨_, place, hplace, h⟩ => ⟨place, hplace, by rw [h]; rfl⟩⟩
    split at h
    case h_1 found hfound =>
      obtain rfl := Except.ok.inj h
      exact hfound
    case h_2 | h_3 => cases h

/-- The place of a file that is written: the path leads to a directory with room for the file. -/
structure LeadsTo (disk : Disk) (path : String) (parent : List String) (name : String) : Prop where
  size : path.utf8ByteSize ≤ pathLimit
  parts : ∃ names, disk.partsOf path = names ++ [name] ∧
    names.foldlM (step disk.root) [] = .ok parent
  proper : name ≠ ".." ∧ name.utf8ByteSize ≤ nameLimit
  room : disk.root.HasRoom parent name

/-- A file is written at a place that its path leads to. -/
lemma leadsTo_of_target {disk : Disk} {path : String} {place : List String}
    (h : disk.target path = .ok place) :
    ∃ parent name, place = parent ++ [name] ∧ disk.LeadsTo path parent name := by
  rw [target] at h
  by_cases hsize : path.utf8ByteSize > pathLimit
  · rw [if_pos hsize] at h
    cases h
  rw [if_neg hsize] at h
  dsimp only at h
  split at h
  case h_1 => cases h
  case h_2 name hlast =>
    have hparts : disk.partsOf path = (disk.partsOf path).dropLast ++ [name] :=
      (List.dropLast_append_getLast? name hlast).symm
    obtain ⟨parent, hparent, h⟩ := bind_eq_ok_iff.mp h
    obtain ⟨entry, hentry⟩ := exists_at?_of_steps ⟨disk.root, rfl⟩ hparent
    split at h
    case h_1 found hstep =>
      split_ifs at h with hdirectory
      · cases h
      obtain rfl := Except.ok.inj h
      obtain ⟨entry', hentry', hparent', ⟨-, rfl⟩ | ⟨hup, hlong, -, rfl⟩⟩ := step_eq_ok_iff.mp hstep
      · obtain ⟨above, habove, hdirectory'⟩ := isDirectory_dropLast hentry' hparent'
        exact absurd (by rw [habove]; exact hdirectory') hdirectory
      · refine ⟨parent, name, rfl, Nat.not_lt.mp hsize, ⟨_, hparts, hparent⟩, ⟨hup, hlong⟩,
          ⟨entry', hentry', hparent'⟩, fun file hfile => ?_⟩
        rw [hfile] at hdirectory
        simpa using hdirectory
    case h_2 refusal hstep =>
      split_ifs at h with hmissing
      · obtain rfl := Except.ok.inj h
        subst hmissing
        obtain ⟨hdirectory, hup, hlong, hchild⟩ := (step_eq_notFound_iff hentry).mp hstep
        refine ⟨parent, name, rfl, Nat.not_lt.mp hsize, ⟨_, hparts, hparent⟩, ⟨hup, hlong⟩,
          ⟨entry, hentry, hdirectory⟩, fun file hfile => ?_⟩
        rw [at?_concat, hentry, Option.bind_some, hchild] at hfile
        cases hfile

/-! ### Disks after a file has been written -/

section

variable {root : Entry} {parent : List String} {name : String} (hroom : root.HasRoom parent name)
  (bytes : List UInt8)

include hroom

/-- Directories are still there when a file has been put somewhere. -/
lemma isDirectory_put {place : List String} {entry : Entry} (hentry : root.at? place = some entry)
    (hdirectory : entry.isDirectory = true) :
    ∃ kept, (root.put (parent ++ [name]) (.file bytes)).at? place = some kept ∧
      kept.isDirectory = true := by
  have hplace : place ≠ parent ++ [name] := by
    rintro rfl
    rw [hroom.vacant entry hentry] at hdirectory
    cases hdirectory
  have hkept := at?_put_of_ne hroom bytes hplace
  rw [hentry, Option.map_some, isDirectory_iff.mp hdirectory] at hkept
  obtain ⟨kept, hkept, hcontents⟩ := Option.map_eq_some_iff.mp hkept
  exact ⟨kept, hkept, isDirectory_iff.mpr hcontents⟩

/-- Entries are still there when a file has been put somewhere. -/
lemma isSome_put {place : List String} (hentry : (root.at? place).isSome = true) :
    ((root.put (parent ++ [name]) (.file bytes)).at? place).isSome = true := by
  by_cases hplace : place = parent ++ [name]
  · rw [hplace, at?_put]
    rfl
  · have hkept := congrArg Option.isSome (at?_put_of_ne hroom bytes hplace)
    rw [Option.isSome_map, Option.isSome_map, hentry] at hkept
    exact hkept

/-- A step along a path can still be taken when a file has been put somewhere. -/
lemma step_put {place next : List String} {key : String} (h : step root place key = .ok next) :
    step (root.put (parent ++ [name]) (.file bytes)) place key = .ok next := by
  obtain ⟨entry, hentry, hdirectory, hnext⟩ := step_eq_ok_iff.mp h
  obtain ⟨kept, hkept, hdirectory'⟩ := isDirectory_put hroom bytes hentry hdirectory
  refine step_eq_ok_iff.mpr ⟨kept, hkept, hdirectory', hnext.imp_right ?_⟩
  rintro ⟨hup, hsize, hchild, rfl⟩
  refine ⟨hup, hsize, ?_, rfl⟩
  have hsome : (root.at? (place ++ [key])).isSome = true := by
    rw [at?_concat, hentry, Option.bind_some]
    exact hchild
  have hsome' := isSome_put hroom bytes hsome
  rw [at?_concat, hkept, Option.bind_some] at hsome'
  exact hsome'

/-- A path can still be followed when a file has been put somewhere. -/
lemma steps_put {names place next : List String} (h : names.foldlM (step root) place = .ok next) :
    names.foldlM (step (root.put (parent ++ [name]) (.file bytes))) place = .ok next := by
  induction names generalizing place with
  | nil => exact h
  | cons key names ih =>
    rw [List.foldlM_cons, bind_eq_ok_iff] at h ⊢
    obtain ⟨middle, hstep, hsteps⟩ := h
    exact ⟨middle, step_put hroom bytes hstep, ih hsteps⟩

end

/-! ### Disks as file systems -/

/-- What is at a place of a disk: nothing, a directory, or a file with certain bytes. -/
def contentsAt? (disk : Disk) (place : List String) : Option (Option (List UInt8)) :=
  (disk.root.at? place).map contents?

/-- The place that a path leads to, if it can be encoded and is not too long. -/
def placeAt? (disk : Disk) (path : String) : Option (List String) :=
  if disk.names path ∧ path.utf8ByteSize ≤ pathLimit then
    ((disk.partsOf path).foldlM (step disk.root) []).toOption
  else none

instance : FileView Disk where
  Place := List String
  contents? := contentsAt?
  place? := placeAt?
  opened := openFor

variable {disk : Disk} {path : String}

/-- The place of a path is found by following the path. -/
lemma placeAt?_eq_some_iff {place : List String} :
    disk.placeAt? path = some place ↔ disk.names path = true ∧ path.utf8ByteSize ≤ pathLimit ∧
      (disk.partsOf path).foldlM (step disk.root) [] = .ok place := by
  rw [placeAt?, ← and_assoc]
  split
  case isTrue h =>
    rw [and_iff_right h]
    cases (disk.partsOf path).foldlM (step disk.root) [] with
    | error refusal => simp [Except.toOption]
    | ok found => simp [Except.toOption]
  case isFalse h => exact ⟨fun h => (nomatch h), fun hfound => absurd hfound.1 h⟩

/-- A file is read when its path can be encoded and leads to it. -/
lemma fileSystem_read_eq_ok_iff {bytes : List UInt8} :
    FileSystem.read disk path = .ok bytes ↔ disk.names path = true ∧ disk.read path = .ok bytes := by
  change (if disk.names path then (disk.read path).mapError .refused
    else .error .unencodable : Except Obstacle (List UInt8)) = .ok bytes ↔ _
  cases disk.names path with
  | true => cases disk.read path <;> simp [Except.mapError]
  | false => simp

/-- The bytes of the file at a path are those that are read. -/
lemma fileAt?_eq_some_iff {bytes : List UInt8} :
    fileAt? disk path = some bytes ↔ FileSystem.read disk path = .ok bytes := by
  have hfile : ∀ place, (disk.contentsAt? place).join = some bytes ↔
      disk.root.at? place = some (.file bytes) := by
    intro place
    rw [contentsAt?]
    rcases disk.root.at? place with _ | (held | entries) <;> simp [contents?]
  change ((disk.placeAt? path).bind fun place => (disk.contentsAt? place).join) = some bytes ↔ _
  rw [Option.bind_eq_some_iff, fileSystem_read_eq_ok_iff, read_eq_ok_iff]
  constructor
  · rintro ⟨place, hplace, hbytes⟩
    obtain ⟨hnames, hsize, hsteps⟩ := placeAt?_eq_some_iff.mp hplace
    exact ⟨hnames, hsize, place, hsteps, (hfile place).mp hbytes⟩
  · rintro ⟨hnames, hsize, place, hsteps, hbytes⟩
    exact ⟨place, placeAt?_eq_some_iff.mpr ⟨hnames, hsize, hsteps⟩, (hfile place).mpr hbytes⟩

/-- A file is opened at a path that can be encoded and leads to a place for a file. -/
lemma openFor_eq_ok_iff {place : List String} :
    disk.openFor path = .ok place ↔ disk.names path = true ∧ disk.target path = .ok place := by
  rw [openFor]
  cases disk.names path with
  | true => cases disk.target path <;> simp [Except.mapError]
  | false => simp

/-- A file at a place that a path leads to is found at the path. -/
lemma LeadsTo.read_withFile {parent : List String} {name : String}
    (h : disk.LeadsTo path parent name) (bytes : List UInt8) :
    (disk.withFile (parent ++ [name]) bytes).read path = .ok bytes := by
  obtain ⟨names, hparts, hparent⟩ := h.parts
  have hsteps := steps_put h.room bytes hparent
  obtain ⟨entry, hentry, hdirectory⟩ := h.room.directory
  obtain ⟨kept, hkept, hdirectory'⟩ := isDirectory_put h.room bytes hentry hdirectory
  have hchild : (kept.child? name).isSome = true := by
    have hfile := at?_put disk.root (.file bytes) (parent ++ [name])
    rw [at?_concat, hkept, Option.bind_some] at hfile
    rw [hfile]
    rfl
  have hlast := step_eq_ok_iff.mpr ⟨kept, hkept, hdirectory',
    Or.inr ⟨h.proper.1, h.proper.2, hchild, rfl⟩⟩
  have hpath : (disk.withFile (parent ++ [name]) bytes).partsOf path = disk.partsOf path := rfl
  refine read_eq_ok_iff.mpr ⟨h.size, parent ++ [name], ?_, at?_put _ _ _⟩
  rw [hpath, hparts, List.foldlM_append, bind_eq_ok_iff]
  refine ⟨parent, hsteps, ?_⟩
  rw [List.foldlM_cons, bind_eq_ok_iff]
  exact ⟨parent ++ [name], hlast, rfl⟩

/-- A file that is opened and gets some bytes has them as its contents, and nothing else changes. -/
lemma written_withFile {place : List String} (h : disk.openFor path = .ok place)
    (bytes : List UInt8) : Written disk path bytes (disk.withFile place bytes) := by
  obtain ⟨hnames, htarget⟩ := openFor_eq_ok_iff.mp h
  obtain ⟨parent, name, rfl, hleads⟩ := leadsTo_of_target htarget
  refine ⟨?_, ⟨_, h, ?_, fun other hother => at?_put_of_ne hleads.room _ hother⟩, ?_⟩
  · exact fileAt?_eq_some_iff.mpr (fileSystem_read_eq_ok_iff.mpr
      ⟨hnames, hleads.read_withFile bytes⟩)
  · exact congrArg (Option.map contents?) (at?_put _ _ _)
  · intro other found hfound
    obtain ⟨hother, hsize, hsteps⟩ := placeAt?_eq_some_iff.mp hfound
    exact placeAt?_eq_some_iff.mpr ⟨hother, hsize, steps_put hleads.room bytes hsteps⟩

/-- Where every character can be encoded, every path can. -/
lemma names_of_coding (h : ∀ c, disk.coding c = .text) (path : String) :
    disk.names path = true :=
  List.all_eq_true.mpr fun _ _ => List.all_eq_true.mpr fun c _ => by rw [h]; rfl

/-- Where every character can be encoded, every text can. -/
lemma encodes_of_coding (h : ∀ c, disk.coding c = .text) (text : String) :
    disk.encodes text = true :=
  List.all_eq_true.mpr fun c _ => by rw [h]; rfl

/-- A text that can be encoded is written as a whole, and of any other one nothing is written. -/
lemma write_of_openFor {place : List String} (h : disk.openFor path = .ok place) (text : String) :
    disk.write path text = if disk.encodes text then
        (.ok (), disk.withFile place text.toUTF8.toList)
      else (.error .unencodable, disk.withFile place []) := by
  rw [write, h]

/-- **Disks are lawful.**  What is read is there, and writing changes nothing but the file that was
opened. -/
instance : LawfulFileSystem Disk where
  fileAt?_of_read := fileAt?_eq_some_iff.mpr
  write_of_closed {disk path obstacle} text h := by
    change disk.openFor path = .error obstacle at h
    change disk.write path text = _
    rw [write, h]
  write_of_opened {disk path place} text h := by
    change disk.openFor path = .ok place at h
    change ∃ part, part <+: text.toUTF8.toList ∧ Written disk path part (disk.write path text).2 ∧
      ((disk.write path text).1 = .ok () → part = text.toUTF8.toList)
    rw [write_of_openFor h]
    cases disk.encodes text with
    | true => exact ⟨_, List.prefix_rfl, written_withFile h _, fun _ => rfl⟩
    | false => exact ⟨[], List.nil_prefix, written_withFile h [], fun hdone => (nomatch hdone)⟩

/-! ### Files that are not there -/

/-- A path leads to a directory that has no entry under the last name of the path. -/
structure Vacant (disk : Disk) (path : String) (parent : List String) (name : String) : Prop where
  size : path.utf8ByteSize ≤ pathLimit
  parts : ∃ names, disk.partsOf path = names ++ [name] ∧
    names.foldlM (step disk.root) [] = .ok parent
  missing : step disk.root parent name = .error .notFound

/-- There a file can be written. -/
lemma Vacant.target {disk : Disk} {path : String} {parent : List String} {name : String}
    (h : disk.Vacant path parent name) : disk.target path = .ok (parent ++ [name]) := by
  obtain ⟨names, hparts, hparent⟩ := h.parts
  rw [Disk.target, if_neg (Nat.not_lt.mpr h.size), hparts]
  dsimp only
  rw [List.getLast?_concat, List.dropLast_concat]
  dsimp only
  rw [bind_eq_ok_iff]
  exact ⟨parent, hparent, by rw [h.missing]; rfl⟩

/-- There is no file to be read. -/
lemma Vacant.read_ne_ok {disk : Disk} {path : String} {parent : List String} {name : String}
    (h : disk.Vacant path parent name) (bytes : List UInt8) : disk.read path ≠ .ok bytes := by
  intro hread
  obtain ⟨-, place, hsteps, -⟩ := read_eq_ok_iff.mp hread
  obtain ⟨names, hparts, hparent⟩ := h.parts
  rw [hparts, List.foldlM_append, bind_eq_ok_iff] at hsteps
  obtain ⟨middle, hmiddle, hlast⟩ := hsteps
  obtain rfl := Except.ok.inj (hparent.symm.trans hmiddle)
  rw [List.foldlM_cons, h.missing] at hlast
  cases hlast

/-! ### Files that are put on a disk -/

/-- On the way to what is put at a place there is what is put at the rest of the place. -/
lemma exists_at?_put_append (entry new : Entry) (before names : List String) :
    ∃ inner : Entry, (entry.put (before ++ names) new).at? before = some (inner.put names new) := by
  induction before generalizing entry with
  | nil => exact ⟨entry, rfl⟩
  | cons name before ih =>
    obtain ⟨inner, hinner⟩ := ih ((entry.child? name).getD (.directory []))
    refine ⟨inner, ?_⟩
    rw [List.cons_append, at?_put_cons]
    exact hinner

/-- The names of a place lead to what is put there. -/
lemma steps_to_put (root new : Entry) {names : List String}
    (h : ∀ name ∈ names, name ≠ ".." ∧ name.utf8ByteSize ≤ nameLimit) (before : List String) :
    names.foldlM (step (root.put (before ++ names) new)) before = .ok (before ++ names) := by
  induction names generalizing before with
  | nil =>
    rw [List.append_nil]
    rfl
  | cons name names ih =>
    obtain ⟨⟨hup, hsize⟩, hnames⟩ := List.forall_mem_cons.mp h
    obtain ⟨inner, hinner⟩ := exists_at?_put_append root new before (name :: names)
    have hchild : ((inner.put (name :: names) new).child? name).isSome = true := by
      rw [Entry.put, child?, withEntry, List.lookup_cons_self]
      rfl
    have hstep := step_eq_ok_iff.mpr ⟨_, hinner, rfl, Or.inr ⟨hup, hsize, hchild, rfl⟩⟩
    rw [List.foldlM_cons, bind_eq_ok_iff]
    refine ⟨before ++ [name], hstep, ?_⟩
    have hrest := ih hnames (before ++ [name])
    rwa [List.append_assoc, List.singleton_append] at hrest

/-- A file that is put at a path is read there, if the path and its parts are not too long and never
lead back. -/
lemma read_put (disk : Disk) {path : String} (bytes : List UInt8)
    (hsize : path.utf8ByteSize ≤ pathLimit)
    (hnames : ∀ name ∈ disk.partsOf path, name ≠ ".." ∧ name.utf8ByteSize ≤ nameLimit) :
    (disk.put path (.file bytes)).read path = .ok bytes := by
  have hput : disk.put path (.file bytes) =
      { disk with root := disk.root.put (disk.partsOf path) (.file bytes) } := rfl
  rw [hput]
  exact read_eq_ok_iff.mpr ⟨hsize, disk.partsOf path, steps_to_put disk.root _ hnames [],
    at?_put _ _ _⟩

end Disk

end ReasonBindings
