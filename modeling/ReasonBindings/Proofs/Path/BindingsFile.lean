import ReasonBindings.Proofs.Path

/-!
# The default output

The bindings of a declaration file are written beside it by default, under the name of the module
that the file describes.  That name comes off the last part of the path, the name of the output
off the whole path, which is brought into normal form afterwards.  An ending has no slash, so it
is an ending of the path exactly when it is one of the last part, and both names agree; this also
holds when the last part is empty, a single dot or nothing but an ending.

The input and its default output lie in the same directory.  They are different files, because
what follows the stem is `.re` in the one case and nothing or an ending of declaration files in
the other.
-/

namespace ReasonBindings.Path

open Text

/-! ### Last parts -/

/-- The pieces of a text make up the text. -/
lemma intercalate_pieces (separator : Char) (text : List Char) :
    [separator].intercalate (pieces separator text) = text := by
  induction text with
  | nil => rfl
  | cons c rest ih =>
    obtain ⟨first, others, hpieces⟩ := List.exists_cons_of_ne_nil (pieces_ne_nil separator rest)
    rw [hpieces] at ih
    rw [pieces, hpieces]
    split
    · rename_i hc
      rw [List.intercalate_cons_cons, ih, hc]
      rfl
    · cases others with
      | nil =>
        rw [List.intercalate_singleton] at ih ⊢
        rw [ih]
      | cons second others =>
        rw [List.intercalate_cons_cons] at ih ⊢
        rw [List.cons_append, List.cons_append, ih]

/-- What has no separator in it goes to the last piece. -/
lemma pieces_append {separator : Char} {ending : List Char} (h : separator ∉ ending)
    (text : List Char) :
    pieces separator (text ++ ending) =
      (pieces separator text).dropLast ++ [(pieces separator text).getLastD [] ++ ending] := by
  induction text with
  | nil => exact pieces_of_notMem h
  | cons c rest ih =>
    obtain ⟨first, others, hpieces⟩ := List.exists_cons_of_ne_nil (pieces_ne_nil separator rest)
    rw [hpieces] at ih
    rw [List.cons_append, pieces, pieces, ih, hpieces]
    by_cases hc : c = separator
    · rw [if_pos hc, if_pos hc]
      rfl
    · rw [if_neg hc, if_neg hc]
      cases others with
      | nil => rfl
      | cons second others => rfl

/-- The directory of a path: the parts before the last one. -/
def parentParts (path : List Char) : List (List Char) :=
  (rawParts path).dropLast

/-- What has no slash in it goes to the last part of a path. -/
lemma rawParts_append {ending : List Char} (h : '/' ∉ ending) (path : List Char) :
    rawParts (path ++ ending) = parentParts path ++ [lastPart path ++ ending] :=
  pieces_append h path

/-- The parts of a path are those of its directory and the last one. -/
lemma rawParts_eq (path : List Char) : rawParts path = parentParts path ++ [lastPart path] := by
  have hparts := rawParts_append List.not_mem_nil path
  rwa [List.append_nil, List.append_nil] at hparts

/-- What has no slash in it makes the last part longer. -/
lemma lastPart_append {ending : List Char} (h : '/' ∉ ending) (path : List Char) :
    lastPart (path ++ ending) = lastPart path ++ ending := by
  rw [lastPart, rawParts_append h, List.getLastD_concat]

/-- A path ends in its last part. -/
lemma lastPart_isSuffix (path : List Char) : lastPart path <:+ path := by
  have hpath : join (parentParts path ++ [lastPart path]) = path := by
    rw [← rawParts_eq]
    exact intercalate_pieces '/' path
  by_cases hparent : parentParts path = []
  · rw [hparent, List.nil_append, join, List.intercalate_singleton] at hpath
    exact hpath.symm ▸ List.suffix_rfl
  · have hlast : join [lastPart path] = lastPart path := List.intercalate_singleton
    rw [join_append hparent (List.cons_ne_nil _ _), hlast, ← List.concat_append] at hpath
    exact ⟨_, hpath⟩

/-! ### Stems -/

/-- No ending of declaration files has a slash. -/
lemma slash_notMem_ending {ending : String} (h : ending ∈ declarationEndings) :
    '/' ∉ ending.toList := by
  revert ending
  decide

/-- An ending comes off a path exactly when it comes off the last part of the path. -/
lemma dropEnding?_lastPart {ending : List Char} (h : '/' ∉ ending) (path : List Char) :
    dropEnding? ending (lastPart path) = (dropEnding? ending path).map lastPart := by
  by_cases hpath : ending <:+ path
  · obtain ⟨start, rfl⟩ := hpath
    rw [lastPart_append h, dropEnding?_append, dropEnding?_append, Option.map_some]
  · have hlast : ¬ ending <:+ lastPart path := fun hlast =>
      hpath (hlast.trans (lastPart_isSuffix path))
    rw [dropEnding?, dropEnding?, if_neg (List.isSuffixOf_iff_suffix.not.mpr hpath),
      if_neg (List.isSuffixOf_iff_suffix.not.mpr hlast), Option.map_none]

/-- The stem of the last part is the last part of the stem. -/
lemma stem?_lastPart (path : List Char) : stem? (lastPart path) = (stem? path).map lastPart := by
  have hendings : ∀ endings : List String, (∀ ending ∈ endings, '/' ∉ ending.toList) →
      endings.findSome? (fun ending => dropEnding? ending.toList (lastPart path)) =
        (endings.findSome? fun ending => dropEnding? ending.toList path).map lastPart := by
    intro endings h
    induction endings with
    | nil => rfl
    | cons ending endings ih =>
      obtain ⟨hending, hendings⟩ := List.forall_mem_cons.mp h
      rw [List.findSome?_cons, List.findSome?_cons, dropEnding?_lastPart hending, ih hendings]
      cases dropEnding? ending.toList path <;> rfl
  exact hendings declarationEndings fun _ => slash_notMem_ending

/-- The stem of the last part is the last part of the stem. -/
lemma stem_lastPart (path : List Char) : stem (lastPart path) = lastPart (stem path) := by
  rw [stem, stem, stem?_lastPart]
  cases stem? path <;> rfl

/-- A path consists of its stem and an ending of declaration files, or of its stem alone. -/
lemma exists_stem_append (path : List Char) :
    ∃ ending, path = stem path ++ ending ∧
      (ending = [] ∨ ∃ text ∈ declarationEndings, ending = text.toList) := by
  rw [stem]
  cases hstem : stem? path with
  | none => exact ⟨[], (List.append_nil path).symm, Or.inl rfl⟩
  | some found =>
    obtain ⟨text, htext, hdrop⟩ := List.exists_of_findSome?_eq_some hstem
    rw [dropEnding?] at hdrop
    split at hdrop
    · rename_i hsuffix
      obtain ⟨start, rfl⟩ := List.isSuffixOf_iff_suffix.mp hsuffix
      obtain rfl := Option.some.inj hdrop
      refine ⟨text.toList, ?_, Or.inr ⟨text, htext, rfl⟩⟩
      rw [Option.getD_some, List.length_append, Nat.add_sub_cancel, List.take_left]
    · cases hdrop

/-! ### The default output -/

/-- The ending of files with bindings. -/
def bindingsEnding : List Char := ".re".toList

/-- No ending of declaration files is that of files with bindings. -/
lemma bindingsEnding_ne {ending : String} (h : ending ∈ declarationEndings) :
    bindingsEnding ≠ ending.toList := by
  revert ending
  decide

/-- With the ending of files with bindings, each last part is a proper one. -/
lemma isPart_bindingsEnding (path : List Char) : IsPart (lastPart path ++ bindingsEnding) where
  proper := by
    have hlast : (lastPart path ++ bindingsEnding).getLast? = some 'e' := by
      rw [List.getLast?_append]
      rfl
    rw [isProper, Bool.and_eq_true, Bool.not_eq_true', List.isEmpty_eq_false_iff, bne_iff_ne]
    refine ⟨fun hempty => ?_, fun hdot => ?_⟩
    · rw [hempty] at hlast
      cases hlast
    · rw [hdot] at hlast
      exact absurd hlast (by decide)
  noSlash := by
    have hlast : '/' ∉ lastPart path := by
      simpa [base] using slash_notMem_base (String.ofList path)
    rw [List.mem_append, not_or]
    exact ⟨hlast, by decide⟩

/-- The proper parts of a path with the ending of files with bindings are those of its directory and
the last part with that ending. -/
lemma properParts_bindingsEnding (path : List Char) :
    properParts (path ++ bindingsEnding) =
      (parentParts path).filter isProper ++ [lastPart path ++ bindingsEnding] := by
  rw [properParts, rawParts_append (by decide), List.filter_append,
    List.filter_singleton, (isPart_bindingsEnding path).proper]
  rfl

/-- The default output has other proper parts than the input. -/
lemma properParts_stem_ne (path : List Char) :
    properParts (stem path ++ bindingsEnding) ≠ properParts path := by
  intro hsame
  obtain ⟨ending, hpath, hending⟩ := exists_stem_append path
  have hslash : '/' ∉ ending := by
    rcases hending with rfl | ⟨text, htext, rfl⟩
    · exact List.not_mem_nil
    · exact slash_notMem_ending htext
  have hinput : properParts path = (parentParts (stem path)).filter isProper ++
      [lastPart (stem path) ++ ending].filter isProper := by
    conv_lhs => rw [hpath, properParts, rawParts_append hslash, List.filter_append]
  -- both have the directory of the stem in front, so the last parts would be the same
  rw [properParts_bindingsEnding, hinput, List.append_cancel_left_eq] at hsame
  have hmem : lastPart (stem path) ++ bindingsEnding ∈ [lastPart (stem path) ++ ending] :=
    List.mem_of_mem_filter (hsame ▸ List.mem_singleton_self _)
  have hendings : bindingsEnding = ending := List.append_cancel_left (List.mem_singleton.mp hmem)
  rcases hending with rfl | ⟨text, htext, rfl⟩
  · cases hendings
  · exact bindingsEnding_ne htext hendings

/-- The default output is written from its root and its proper parts. -/
lemma bindingsFile_eq (path : String) :
    bindingsFile path = String.ofList (write (rootSlashes (stem path.toList ++ bindingsEnding))
      (properParts (stem path.toList ++ bindingsEnding))) := by
  rw [bindingsFile, normal, String.toList_ofList]
  rfl

/-- **The default output.**  The last part of the file that the bindings are written to by default
is the name of the module followed by `.re`, and the file is never the input. -/
theorem bindingsFile_beside_input (path : String) :
    base (bindingsFile path) = moduleName path ++ ".re" ∧ bindingsFile path ≠ normal path := by
  have hproper : ∀ text : List Char, ∀ part ∈ properParts text, IsPart part :=
    fun _ _ => isPart_of_mem_properParts
  have hparts := properParts_bindingsEnding (stem path.toList)
  constructor
  · have hne : properParts (stem path.toList ++ bindingsEnding) ≠ [] := by
      rw [hparts]
      exact List.append_ne_nil_of_right_ne_nil _ (List.cons_ne_nil _ _)
    rw [bindingsFile_eq, base, String.toList_ofList, lastPart_write _ hne (hproper _), hparts,
      List.getLastD_concat, moduleName, stem_lastPart, String.ofList_append]
    rfl
  · intro hsame
    rw [bindingsFile_eq, normal] at hsame
    have hwritten := congrArg properParts (String.ofList_injective hsame)
    rw [properParts_write _ (hproper _), properParts_write _ (hproper _)] at hwritten
    exact properParts_stem_ne path.toList hwritten

example : bindingsFile "types//./.d.ts" = "types/.re" := by decide

example : bindingsFile "types/lib.d.ts/" = "types/lib.d.ts/.re" := by decide

end ReasonBindings.Path
