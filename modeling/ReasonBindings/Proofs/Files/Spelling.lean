import ReasonBindings.Proofs.Files.Disk
import ReasonBindings.Proofs.Path

/-!
# Two spellings of a path

A program may use the path of a file as it is given, or the absolute form of it.  On a disk both
lead to the same place, since a path that does not begin at the root is followed from the current
directory on.  A path that never leads back out of a directory leads to the place that its parts
spell.

Absolute paths are longer, and a path that is too long is refused.  So a file that can be read at
the absolute form of a path can be read at the path itself, but deep down in a disk there may be
files that can be read at paths from the current directory only.
-/

namespace ReasonBindings

open ReasonBindings.Path

namespace Disk

/-! ### Parts -/

/-- The parts of a path without an empty root are those that it is written from. -/
lemma partsOf_write {slashes : Nat} (hslashes : slashes ≤ 2) (hroot : slashes ≠ 0)
    {parts : List (List Char)} (h : ∀ part ∈ parts, IsPart part) (disk : Disk) :
    disk.partsOf (String.ofList (Path.write slashes parts)) = parts.map String.ofList := by
  rw [partsOf, String.toList_ofList, rootSlashes_write hslashes h, properParts_write slashes h,
    if_neg hroot]

/-- The normal form of a path has the same parts. -/
lemma partsOf_normal (disk : Disk) (path : String) :
    disk.partsOf (normal path) = disk.partsOf path := by
  have hparts : ∀ part ∈ properParts path.toList, IsPart part := fun _ => isPart_of_mem_properParts
  rw [partsOf, partsOf, normal, String.toList_ofList, rootSlashes_write (rootSlashes_le _) hparts,
    properParts_write _ hparts]

/-- The current directory is as programs find it: it is a directory, and it has an absolute path
that leads straight to it. -/
structure Regular (disk : Disk) : Prop where
  isPath : IsPath disk.directory
  rooted : rootSlashes disk.directory.toList = 1
  direct : IsDirect disk.directory
  present : ∃ entry, disk.root.at? (disk.partsOf "") = some entry ∧ entry.isDirectory = true

variable {disk : Disk} {path : String}

/-- The absolute form of a direct path has the same parts. -/
lemma partsOf_absolute (hdisk : disk.Regular) (h : IsDirect path) :
    disk.partsOf (absolute disk.directory path) = disk.partsOf path := by
  by_cases hroot : rootSlashes path.toList = 0
  · rw [absolute_of_relative hdisk.direct h hroot, partsOf_write (rootSlashes_le _)
      (by rw [hdisk.rooted]; exact Nat.one_ne_zero) fun part hpart =>
        (List.mem_append.mp hpart).elim isPart_of_mem_properParts isPart_of_mem_properParts,
      partsOf, if_pos hroot]
  · rw [absolute_of_rooted h hroot, partsOf_normal]

/-! ### Places -/

/-- Names that never lead back out of a directory spell the place that they lead to. -/
lemma place_of_steps {root : Entry} {names place next : List String} (hdirect : ".." ∉ names)
    (h : names.foldlM (step root) place = .ok next) : next = place ++ names := by
  induction names generalizing place with
  | nil =>
    obtain rfl := Except.ok.inj h
    exact (List.append_nil _).symm
  | cons name names ih =>
    obtain ⟨hname, hnames⟩ := List.ne_and_not_mem_of_not_mem_cons hdirect
    rw [List.foldlM_cons, bind_eq_ok_iff] at h
    obtain ⟨middle, hstep, hsteps⟩ := h
    obtain ⟨_, -, -, ⟨hup, -⟩ | ⟨-, -, -, rfl⟩⟩ := step_eq_ok_iff.mp hstep
    · exact absurd hup.symm hname
    · rw [ih hnames hsteps, List.append_assoc, List.singleton_append]

/-- The parts of a direct path never lead back. -/
lemma dots_notMem_partsOf (hdisk : disk.Regular) (h : IsDirect path) :
    ".." ∉ disk.partsOf path := by
  have hdots : ∀ {parts : List (List Char)}, ['.', '.'] ∉ parts →
      ".." ∉ parts.map String.ofList := by
    intro parts hparts hmem
    obtain ⟨part, hpart, hwritten⟩ := List.mem_map.mp hmem
    refine hparts ?_
    rw [← String.toList_ofList (l := part), hwritten] at hpart
    exact hpart
  rw [partsOf]
  split
  · exact hdots fun hmem => (List.mem_append.mp hmem).elim hdisk.direct h
  · exact hdots h

/-- A file that is read at a direct path is at the place that the parts of the path spell. -/
lemma at?_partsOf_of_read (hdisk : disk.Regular) (h : IsDirect path) {bytes : List UInt8}
    (hread : disk.read (normal path) = .ok bytes) :
    disk.root.at? (disk.partsOf path) = some (.file bytes) := by
  obtain ⟨-, place, hsteps, hfile⟩ := read_eq_ok_iff.mp hread
  rw [partsOf_normal] at hsteps
  obtain rfl := place_of_steps (dots_notMem_partsOf hdisk h) hsteps
  exact hfile

/-- The current directory is no file. -/
lemma properParts_ne_nil_of_file (hdisk : disk.Regular) {bytes : List UInt8}
    (hfile : disk.root.at? (disk.partsOf path) = some (.file bytes))
    (hroot : rootSlashes path.toList = 0) : properParts path.toList ≠ [] := by
  intro hnil
  have hhere : disk.partsOf path = disk.partsOf "" := by
    rw [partsOf, if_pos hroot, hnil]
    rfl
  obtain ⟨entry, hentry, hdirectory⟩ := hdisk.present
  rw [hhere, hentry] at hfile
  obtain rfl := Option.some.inj hfile
  cases hdirectory

/-! ### Reading -/

/-- A file is read under any other path that has the same parts and is not too long. -/
lemma read_of_partsOf_eq {other : String} {bytes : List UInt8} (h : disk.read path = .ok bytes)
    (hparts : disk.partsOf other = disk.partsOf path) (hsize : other.utf8ByteSize ≤ pathLimit) :
    disk.read other = .ok bytes := by
  obtain ⟨-, place, hsteps, hfile⟩ := read_eq_ok_iff.mp h
  exact read_eq_ok_iff.mpr ⟨hsize, place, by rw [hparts]; exact hsteps, hfile⟩

/-- A file that is read at the absolute form of a direct path is read at the path itself. -/
lemma read_of_read_absolute (hdisk : disk.Regular) (h : IsDirect path) {bytes : List UInt8}
    (hread : disk.read (absolute disk.directory path) = .ok bytes) :
    disk.read (normal path) = .ok bytes := by
  obtain ⟨hsize, place, hsteps, hfile⟩ := read_eq_ok_iff.mp hread
  rw [partsOf_absolute hdisk h] at hsteps
  have hplace := place_of_steps (dots_notMem_partsOf hdisk h) hsteps
  rw [hplace] at hfile
  have hlast := properParts_ne_nil_of_file hdisk hfile
  refine read_of_partsOf_eq hread ?_ (Nat.le_trans (size_normal_le hdisk.direct h hlast) hsize)
  rw [partsOf_absolute hdisk h, partsOf_normal]

/-- **Two spellings.**  A file is read at the absolute form of a direct path exactly when it is read
at the path itself and the absolute form is not too long. -/
theorem read_absolute_eq_ok_iff (hdisk : disk.Regular) (h : IsDirect path) {bytes : List UInt8} :
    disk.read (absolute disk.directory path) = .ok bytes ↔
      disk.read (normal path) = .ok bytes ∧
        (absolute disk.directory path).utf8ByteSize ≤ pathLimit := by
  constructor
  · exact fun hread => ⟨read_of_read_absolute hdisk h hread, (read_eq_ok_iff.mp hread).1⟩
  · rintro ⟨hread, hsize⟩
    refine read_of_partsOf_eq hread ?_ hsize
    rw [partsOf_absolute hdisk h, partsOf_normal]

/-- The current directory is not read as a file. -/
lemma read_dot (hdisk : disk.Regular) (bytes : List UInt8) : disk.read "." ≠ .ok bytes := by
  intro hread
  rw [← normal_empty] at hread
  have hfile := at?_partsOf_of_read hdisk (by decide) hread
  exact properParts_ne_nil_of_file hdisk hfile (by decide) (by decide)

end Disk

/-! ### Where programs run -/

/-- Programs run in the directory of the file system: its path leads straight to a directory, and a
file has a second spelling that begins there, unless this is longer than paths can be. -/
structure Situated {σ : Type} [FileSystem σ] (state : σ) (directory : String) (limit : Nat) :
    Prop where
  isPath : IsPath directory
  direct : IsDirect directory
  spelled : ∀ path bytes, IsDirect path →
    (FileSystem.read state (absolute directory path) = .ok bytes ↔
      FileSystem.read state (normal path) = .ok bytes ∧
        (absolute directory path).utf8ByteSize ≤ limit)
  noFile : ∀ bytes, FileSystem.read state "." ≠ .ok bytes

/-- Programs run in the current directory of a disk. -/
theorem Disk.Regular.situated {disk : Disk} (h : disk.Regular) :
    Situated disk disk.directory Disk.pathLimit where
  isPath := h.isPath
  direct := h.direct
  spelled path bytes hpath := by
    have hnames : disk.names (absolute disk.directory path) = disk.names (normal path) := by
      rw [Disk.names, Disk.names, Disk.partsOf_absolute h hpath, Disk.partsOf_normal]
    rw [Disk.fileSystem_read_eq_ok_iff, Disk.fileSystem_read_eq_ok_iff, hnames,
      Disk.read_absolute_eq_ok_iff h hpath, and_assoc]
  noFile bytes hread := Disk.read_dot h bytes (Disk.fileSystem_read_eq_ok_iff.mp hread).2

/-- A file that can be read has the same module name under both spellings. -/
lemma Situated.moduleName_absolute {σ : Type} [FileSystem σ] {state : σ} {directory path : String}
    {limit : Nat} (h : Situated state directory limit) (hpath : IsDirect path) {bytes : List UInt8}
    (hread : FileSystem.read state (normal path) = .ok bytes) :
    moduleName (absolute directory path) = moduleName (normal path) := by
  refine Path.moduleName_absolute h.direct hpath fun hroot hnil => h.noFile bytes ?_
  have hdot : normal path = "." := by
    rw [normal, hroot, hnil]
    rfl
  rw [← hdot]
  exact hread

end ReasonBindings
