import Mathlib.Data.List.Basic
import Mathlib.Tactic.Lemma
import ReasonBindings.Path

/-!
# Normal and absolute paths

A path is written from its root and its parts.  Read again, a written path has that root and
those parts, provided that the parts are proper and have no slashes in them, which parts of
paths never do.  So normal and absolute paths are in normal form, and two paths with the same
root and the same parts are the same path when they are written.

Paths have no characters but those they are made of, slashes and dots.
-/

namespace ReasonBindings.Path

open Text

/-! ### Pieces -/

/-- The characters of a piece are among those of the text. -/
lemma mem_of_mem_pieces {separator c : Char} {piece : List Char} {text : List Char}
    (hpiece : piece ∈ pieces separator text) (hc : c ∈ piece) : c ∈ text := by
  induction text generalizing piece with
  | nil =>
    obtain rfl := List.mem_singleton.mp hpiece
    exact hc
  | cons d rest ih =>
    rw [pieces] at hpiece
    split at hpiece
    · rcases List.mem_cons.mp hpiece with rfl | hpiece
      · cases hc
      · exact List.mem_cons_of_mem _ (ih hpiece hc)
    · split at hpiece
      · rename_i hnone
        exact absurd hnone (pieces_ne_nil _ _)
      · rename_i first others hpieces
        rw [hpieces] at ih
        rcases List.mem_cons.mp hpiece with rfl | hpiece
        · rcases List.mem_cons.mp hc with rfl | hc
          · exact List.mem_cons_self
          · exact List.mem_cons_of_mem _ (ih List.mem_cons_self hc)
        · exact List.mem_cons_of_mem _ (ih (List.mem_cons_of_mem _ hpiece) hc)

/-- No piece has the separator in it. -/
lemma notMem_of_mem_pieces {separator : Char} {piece : List Char} {text : List Char}
    (hpiece : piece ∈ pieces separator text) : separator ∉ piece := by
  induction text generalizing piece with
  | nil =>
    obtain rfl := List.mem_singleton.mp hpiece
    exact List.not_mem_nil
  | cons d rest ih =>
    rw [pieces] at hpiece
    split at hpiece
    · rcases List.mem_cons.mp hpiece with rfl | hpiece
      · exact List.not_mem_nil
      · exact ih hpiece
    · rename_i hd
      split at hpiece
      · rename_i hnone
        exact absurd hnone (pieces_ne_nil _ _)
      · rename_i first others hpieces
        rw [hpieces] at ih
        rcases List.mem_cons.mp hpiece with rfl | hpiece
        · rintro hmem
          rcases List.mem_cons.mp hmem with rfl | hmem
          · exact hd rfl
          · exact ih List.mem_cons_self hmem
        · exact ih (List.mem_cons_of_mem _ hpiece)

/-- Texts without the separator are the pieces of what they are joined to. -/
lemma pieces_intercalate {separator : Char} {parts : List (List Char)} (hparts : parts ≠ [])
    (h : ∀ part ∈ parts, separator ∉ part) :
    pieces separator ([separator].intercalate parts) = parts := by
  induction parts with
  | nil => exact absurd rfl hparts
  | cons first rest ih =>
    have hfirst : separator ∉ first := h first List.mem_cons_self
    cases rest with
    | nil =>
      rw [List.intercalate_singleton]
      exact pieces_of_notMem hfirst
    | cons second others =>
      rw [List.intercalate_cons_cons, List.append_assoc, List.singleton_append,
        pieces_append_cons hfirst,
        ih (List.cons_ne_nil second others) fun part hpart => h part (List.mem_cons_of_mem _ hpart)]

/-! ### Parts -/

/-- A text that can be a proper part of a path. -/
structure IsPart (part : List Char) : Prop where
  proper : isProper part = true
  noSlash : '/' ∉ part

/-- The proper parts of a path are such texts. -/
lemma isPart_of_mem_properParts {path part : List Char} (h : part ∈ properParts path) :
    IsPart part :=
  ⟨(List.mem_filter.mp h).2, notMem_of_mem_pieces (List.mem_filter.mp h).1⟩

/-- A slash in front of a path adds no part. -/
lemma properParts_slash (path : List Char) : properParts ('/' :: path) = properParts path := by
  rw [properParts, rawParts, pieces, if_pos rfl, List.filter_cons_of_neg (by decide)]
  rfl

/-- Slashes in front of a path add no parts. -/
lemma properParts_slashes (slashes : Nat) (path : List Char) :
    properParts (List.replicate slashes '/' ++ path) = properParts path := by
  induction slashes with
  | zero => rfl
  | succ slashes ih => rw [List.replicate_succ, List.cons_append, properParts_slash, ih]

/-- Parts with slashes between them are the parts of what they make up. -/
lemma properParts_join {parts : List (List Char)} (h : ∀ part ∈ parts, IsPart part) :
    properParts (join parts) = parts := by
  cases parts with
  | nil => rfl
  | cons first rest =>
    rw [properParts, rawParts, join, pieces_intercalate (List.cons_ne_nil first rest)
      fun part hpart => (h part hpart).noSlash]
    exact List.filter_eq_self.mpr fun part hpart => (h part hpart).proper

/-- Parts are written behind the slashes of their root. -/
lemma write_of_ne_nil (slashes : Nat) {parts : List (List Char)} (h : parts ≠ []) :
    write slashes parts = List.replicate slashes '/' ++ join parts := by
  rw [write, List.isEmpty_eq_false_iff.mpr h, Bool.and_false, if_neg Bool.false_ne_true]

/-- A written path has the parts that it was written from. -/
lemma properParts_write (slashes : Nat) {parts : List (List Char)}
    (h : ∀ part ∈ parts, IsPart part) : properParts (write slashes parts) = parts := by
  rw [write]
  split
  · rename_i hempty
    rw [Bool.and_eq_true, List.isEmpty_iff] at hempty
    rw [hempty.2]
    rfl
  · rw [properParts_slashes, properParts_join h]

/-! ### Roots -/

/-- A root is written with at most two slashes. -/
lemma rootSlashes_le (path : List Char) : rootSlashes path ≤ 2 := by
  unfold rootSlashes
  split <;> decide

/-- What is put together from parts does not begin with a slash. -/
lemma takeWhile_join {parts : List (List Char)} (h : ∀ part ∈ parts, IsPart part) :
    (join parts).takeWhile (· = '/') = [] := by
  cases parts with
  | nil => rfl
  | cons first rest =>
    obtain ⟨hproper, hslash⟩ := h first List.mem_cons_self
    cases first with
    | nil => cases hproper
    | cons c part =>
      have hjoin : ∃ others, join ((c :: part) :: rest) = c :: others := by
        cases rest with
        | nil => exact ⟨part, by rw [join, List.intercalate_singleton]⟩
        | cons second others => exact ⟨_, by rw [join, List.intercalate_cons_cons]; rfl⟩
      obtain ⟨others, hothers⟩ := hjoin
      have hc : c ≠ '/' := fun hc => hslash (hc ▸ List.mem_cons_self)
      rw [hothers, List.takeWhile_cons_of_neg (by simpa using hc)]

/-- A written path has the root that it was written from. -/
lemma rootSlashes_write {slashes : Nat} (hslashes : slashes ≤ 2) {parts : List (List Char)}
    (h : ∀ part ∈ parts, IsPart part) : rootSlashes (write slashes parts) = slashes := by
  rw [write]
  split
  · rename_i hempty
    rw [Bool.and_eq_true, decide_eq_true_iff] at hempty
    rw [hempty.1]
    rfl
  · have hroot : ((List.replicate slashes '/' ++ join parts).takeWhile (· = '/')).length =
        slashes := by
      rw [List.takeWhile_append_of_pos (by simp), takeWhile_join h, List.append_nil,
        List.length_replicate]
    rw [rootSlashes, hroot]
    rcases slashes with _ | _ | _ | slashes
    · rfl
    · rfl
    · rfl
    · omega

/-! ### Normal forms -/

/-- A written path is in normal form. -/
lemma normal_write {slashes : Nat} (hslashes : slashes ≤ 2) {parts : List (List Char)}
    (h : ∀ part ∈ parts, IsPart part) :
    normal (String.ofList (write slashes parts)) = String.ofList (write slashes parts) := by
  rw [normal, String.toList_ofList, rootSlashes_write hslashes h, properParts_write slashes h]

/-- A path in normal form stays as it is. -/
@[simp] lemma normal_normal (path : String) : normal (normal path) = normal path :=
  normal_write (rootSlashes_le _) fun _ => isPart_of_mem_properParts

/-- Resolving leaves out parts and adds none. -/
lemma mem_of_mem_resolve {parts : List (List Char)} {part : List Char} (h : part ∈ resolve parts) :
    part ∈ parts := by
  have hfold : ∀ {rest directory : List (List Char)}, part ∈ rest.foldl enter directory →
      part ∈ directory ∨ part ∈ rest := by
    intro rest
    induction rest with
    | nil => exact fun h => Or.inl h
    | cons first rest ih =>
      intro directory hmem
      rcases ih hmem with hdirectory | hrest
      · rw [enter] at hdirectory
        split at hdirectory
        · exact Or.inl (List.mem_of_mem_drop hdirectory)
        · rcases List.mem_cons.mp hdirectory with rfl | hdirectory
          · exact Or.inr List.mem_cons_self
          · exact Or.inl hdirectory
      · exact Or.inr (List.mem_cons_of_mem _ hrest)
  rw [resolve, List.mem_reverse] at h
  exact (hfold h).resolve_left List.not_mem_nil

/-- An absolute path is written from parts of the directory and of the path. -/
lemma exists_absolute (directory path : String) :
    ∃ slashes ≤ 2, ∃ parts, absolute directory path = String.ofList (write slashes parts) ∧
      ∀ part ∈ parts, part ∈ properParts directory.toList ∨ part ∈ properParts path.toList := by
  rw [absolute]
  split
  · refine ⟨_, rootSlashes_le _, _, rfl, fun part hpart => ?_⟩
    exact List.mem_append.mp (mem_of_mem_resolve hpart)
  · exact ⟨_, rootSlashes_le _, _, rfl, fun part hpart => Or.inr (mem_of_mem_resolve hpart)⟩

/-- An absolute path is in normal form. -/
@[simp] lemma normal_absolute (directory path : String) :
    normal (absolute directory path) = absolute directory path := by
  obtain ⟨slashes, hslashes, parts, hwritten, hparts⟩ := exists_absolute directory path
  rw [hwritten]
  refine normal_write hslashes fun part hpart => ?_
  exact (hparts part hpart).elim isPart_of_mem_properParts isPart_of_mem_properParts

/-! ### Characters -/

/-- What is put together from parts has the characters of the parts and slashes. -/
lemma mem_join {parts : List (List Char)} {c : Char} (h : c ∈ join parts) :
    c = '/' ∨ ∃ part ∈ parts, c ∈ part := by
  induction parts with
  | nil => cases h
  | cons first rest ih =>
    cases rest with
    | nil =>
      rw [join, List.intercalate_singleton] at h
      exact Or.inr ⟨first, List.mem_cons_self, h⟩
    | cons second others =>
      rw [join, List.intercalate_cons_cons, List.append_assoc] at h
      rcases List.mem_append.mp h with h | h
      · exact Or.inr ⟨first, List.mem_cons_self, h⟩
      rcases List.mem_append.mp h with h | h
      · exact Or.inl (List.mem_singleton.mp h)
      · obtain hslash | ⟨part, hpart, hmem⟩ := ih h
        · exact Or.inl hslash
        · exact Or.inr ⟨part, List.mem_cons_of_mem _ hpart, hmem⟩

/-- A written path has the characters of its parts, slashes and dots. -/
lemma mem_write {slashes : Nat} {parts : List (List Char)} {c : Char}
    (h : c ∈ write slashes parts) : c = '.' ∨ c = '/' ∨ ∃ part ∈ parts, c ∈ part := by
  rw [write] at h
  split at h
  · exact Or.inl (List.mem_singleton.mp h)
  · refine Or.inr ?_
    rcases List.mem_append.mp h with h | h
    · exact Or.inl (List.eq_of_mem_replicate h)
    · exact mem_join h

/-- The proper parts of a path have characters of the path. -/
lemma mem_of_mem_properParts {path part : List Char} (h : part ∈ properParts path) {c : Char}
    (hc : c ∈ part) : c ∈ path :=
  mem_of_mem_pieces (List.mem_filter.mp h).1 hc

section

variable {c : Char} (hdot : c ≠ '.') (hslash : c ≠ '/')

include hdot hslash

/-- A character that is not in the parts of a path is not in the path that is written. -/
lemma notMem_write {slashes : Nat} {parts : List (List Char)} (h : ∀ part ∈ parts, c ∉ part) :
    c ∉ write slashes parts := by
  intro hmem
  obtain rfl | rfl | ⟨part, hpart, hc⟩ := mem_write hmem
  · exact hdot rfl
  · exact hslash rfl
  · exact h part hpart hc

/-- A normal path has no further characters. -/
lemma notMem_normal {path : String} (h : c ∉ path.toList) : c ∉ (normal path).toList := by
  rw [normal, String.toList_ofList]
  exact notMem_write hdot hslash fun part hpart hc => h (mem_of_mem_properParts hpart hc)

/-- An absolute path has characters of the directory and of the path only. -/
lemma notMem_absolute {directory path : String} (hdirectory : c ∉ directory.toList)
    (hpath : c ∉ path.toList) : c ∉ (absolute directory path).toList := by
  obtain ⟨slashes, -, parts, hwritten, hparts⟩ := exists_absolute directory path
  rw [hwritten, String.toList_ofList]
  refine notMem_write hdot hslash fun part hpart hc => ?_
  rcases hparts part hpart with hpart | hpart
  · exact hdirectory (mem_of_mem_properParts hpart hc)
  · exact hpath (mem_of_mem_properParts hpart hc)

end

/-- A path without its ending has characters of the path only. -/
lemma mem_of_mem_stem {c : Char} {path : List Char} (h : c ∈ stem path) : c ∈ path := by
  rw [stem] at h
  cases hstem : stem? path with
  | none => simpa [hstem] using h
  | some found =>
    rw [hstem, Option.getD_some] at h
    obtain ⟨ending, -, hending⟩ := List.exists_of_findSome?_eq_some hstem
    rw [dropEnding?] at hending
    split at hending
    · obtain rfl := Option.some.inj hending
      exact List.mem_of_mem_take h
    · cases hending

/-! ### Direct paths -/

/-- The path leads into directories only and never back out of one. -/
def IsDirect (path : String) : Prop :=
  ['.', '.'] ∉ properParts path.toList

instance (path : String) : Decidable (IsDirect path) :=
  inferInstanceAs (Decidable (_ ∉ _))

/-- Where nothing leads back, there is nothing to resolve. -/
lemma resolve_of_notMem {parts : List (List Char)} (h : ['.', '.'] ∉ parts) :
    resolve parts = parts := by
  have hfold : ∀ directory : List (List Char), parts.foldl enter directory =
      parts.reverse ++ directory := by
    induction parts with
    | nil => exact fun _ => rfl
    | cons part parts ih =>
      obtain ⟨hpart, hparts⟩ := List.ne_and_not_mem_of_not_mem_cons h
      intro directory
      rw [List.foldl_cons, enter, if_neg hpart.symm, ih hparts, List.reverse_cons,
        List.append_assoc, List.singleton_append]
  rw [resolve, hfold, List.append_nil, List.reverse_reverse]

/-- The absolute form of a direct path that begins at the root is its normal form. -/
lemma absolute_of_rooted {path : String} (h : IsDirect path) (hroot : rootSlashes path.toList ≠ 0)
    (directory : String) : absolute directory path = normal path := by
  rw [absolute]
  rw [if_neg hroot, resolve_of_notMem h]
  rfl

/-- The absolute form of a direct path that begins at a direct directory has the parts of both. -/
lemma absolute_of_relative {directory path : String} (hdirectory : IsDirect directory)
    (h : IsDirect path) (hroot : rootSlashes path.toList = 0) :
    absolute directory path = String.ofList (write (rootSlashes directory.toList)
      (properParts directory.toList ++ properParts path.toList)) := by
  rw [absolute]
  rw [if_pos hroot, resolve_of_notMem fun hmem => (List.mem_append.mp hmem).elim hdirectory h]

/-! ### Last parts -/

/-- The last part does not depend on slashes in front. -/
lemma lastPart_slashes (slashes : Nat) (path : List Char) :
    lastPart (List.replicate slashes '/' ++ path) = lastPart path := by
  induction slashes with
  | zero => rfl
  | succ slashes ih =>
    rw [List.replicate_succ, List.cons_append, lastPart, rawParts, pieces, if_pos rfl,
      List.getLastD_cons]
    exact ih

/-- The last part of a written path is the last one it was written from. -/
lemma lastPart_write (slashes : Nat) {parts : List (List Char)} (hparts : parts ≠ [])
    (h : ∀ part ∈ parts, IsPart part) : lastPart (write slashes parts) = parts.getLastD [] := by
  rw [write_of_ne_nil slashes hparts, lastPart_slashes, lastPart, rawParts, join,
    pieces_intercalate hparts fun part hpart => (h part hpart).noSlash]

/-- The text after the last slash has no slash. -/
lemma slash_notMem_base (path : String) : '/' ∉ (base path).toList := by
  rw [base, String.toList_ofList, lastPart, List.getLastD_eq_getLast?]
  cases hlast : (rawParts path.toList).getLast? with
  | none => exact List.not_mem_nil
  | some last => exact notMem_of_mem_pieces (List.mem_of_getLast? hlast)

/-- The absolute form of a direct path stands for a module of the same name. -/
lemma moduleName_absolute {directory path : String} (hdirectory : IsDirect directory)
    (h : IsDirect path) (hparts : rootSlashes path.toList = 0 → properParts path.toList ≠ []) :
    moduleName (absolute directory path) = moduleName (normal path) := by
  by_cases hroot : rootSlashes path.toList = 0
  · have hlast := hparts hroot
    rw [absolute_of_relative hdirectory h hroot, normal, moduleName, moduleName,
      String.toList_ofList, String.toList_ofList,
      lastPart_write _ hlast fun _ => isPart_of_mem_properParts,
      lastPart_write _ (List.append_ne_nil_of_right_ne_nil _ hlast) fun part hpart =>
        (List.mem_append.mp hpart).elim isPart_of_mem_properParts isPart_of_mem_properParts]
    rw [List.getLastD_eq_getLast?, List.getLast?_append_of_ne_nil _ hlast,
      List.getLastD_eq_getLast?]
  · rw [absolute_of_rooted h hroot]

/-! ### Lengths -/

/-- Two lists of parts are written with a slash between them. -/
lemma join_append {before parts : List (List Char)} (hbefore : before ≠ []) (hparts : parts ≠ []) :
    join (before ++ parts) = join before ++ '/' :: join parts := by
  unfold join
  induction before with
  | nil => exact absurd rfl hbefore
  | cons first before ih =>
    cases before with
    | nil =>
      obtain ⟨second, others, rfl⟩ := List.exists_cons_of_ne_nil hparts
      rw [List.singleton_append, List.intercalate_cons_cons, List.intercalate_singleton,
        List.append_assoc]
      rfl
    | cons second before =>
      have hrest := ih (List.cons_ne_nil second before)
      rw [List.cons_append] at hrest
      rw [List.cons_append, List.cons_append, List.intercalate_cons_cons, hrest,
        List.intercalate_cons_cons, List.append_assoc, List.append_assoc, List.append_assoc]

/-- The absolute form of a direct path that begins at a direct directory stands below that
directory. -/
lemma absolute_eq_append {directory path : String} (hdirectory : IsDirect directory)
    (h : IsDirect path) (hroot : rootSlashes path.toList = 0)
    (hbefore : properParts directory.toList ≠ []) (hparts : properParts path.toList ≠ []) :
    absolute directory path = normal directory ++ "/" ++ normal path := by
  rw [absolute_of_relative hdirectory h hroot, normal, normal, hroot, write_of_ne_nil _ hbefore,
    write_of_ne_nil _ hparts, write_of_ne_nil _ (List.append_ne_nil_of_right_ne_nil _ hparts),
    join_append hbefore hparts, ← String.toList_inj]
  simp only [String.toList_append, String.toList_ofList]
  simp

/-- The absolute form of a direct path is not shorter than its normal form. -/
lemma size_normal_le {directory path : String} (hdirectory : IsDirect directory)
    (h : IsDirect path) (hparts : rootSlashes path.toList = 0 → properParts path.toList ≠ []) :
    (normal path).utf8ByteSize ≤ (absolute directory path).utf8ByteSize := by
  by_cases hroot : rootSlashes path.toList = 0
  · by_cases hbefore : properParts directory.toList = []
    · have hlast := hparts hroot
      rw [absolute_of_relative hdirectory h hroot, normal, hroot, hbefore, List.nil_append,
        write_of_ne_nil _ hlast, write_of_ne_nil _ hlast, String.ofList_append,
        String.ofList_append, String.utf8ByteSize_append, String.utf8ByteSize_append]
      exact Nat.add_le_add_right (Nat.zero_le _) _
    · rw [absolute_eq_append hdirectory h hroot hbefore (hparts hroot), String.utf8ByteSize_append]
      exact Nat.le_add_left _ _
  · exact Nat.le_of_eq (congrArg String.utf8ByteSize (absolute_of_rooted h hroot directory).symm)

/-- A text of one character, repeated, is as long as its repetitions. -/
lemma size_replicate (n : Nat) (c : Char) :
    (String.ofList (List.replicate n c)).utf8ByteSize = n * c.utf8Size := by
  induction n with
  | zero =>
    rw [Nat.zero_mul]
    rfl
  | succ n ih =>
    rw [List.replicate_succ', String.ofList_append, String.utf8ByteSize_append, ih, Nat.succ_mul]
    exact congrArg _ String.utf8ByteSize_singleton

/-- The length of a path through directories with the same name. -/
lemma size_join_replicate (depth : Nat) (part last : List Char) :
    (String.ofList (join (List.replicate depth part ++ [last]))).utf8ByteSize =
      depth * ((String.ofList part).utf8ByteSize + 1) + (String.ofList last).utf8ByteSize := by
  have hslash : (String.ofList ['/']).utf8ByteSize = 1 := rfl
  induction depth with
  | zero =>
    rw [List.replicate_zero, List.nil_append, join, List.intercalate_singleton, Nat.zero_mul,
      Nat.zero_add]
  | succ depth ih =>
    have hrest := List.append_ne_nil_of_right_ne_nil (List.replicate depth part)
      (List.cons_ne_nil last [])
    rw [List.replicate_succ, List.cons_append, ← List.singleton_append,
      join_append (List.cons_ne_nil part []) hrest, join, List.intercalate_singleton,
      ← List.singleton_append, String.ofList_append, String.ofList_append,
      String.utf8ByteSize_append, String.utf8ByteSize_append, ih, hslash, Nat.succ_mul]
    omega

end ReasonBindings.Path
