import Mathlib.Algebra.GroupWithZero.Nat
import ReasonBindings.Proofs.ParseTree.DottedNamespaces
import ReasonBindings.Proofs.Text.Utf8

/-!
# Dotted names

The name of a type, of a value or of a namespace may be dotted: identifiers with dots
between them, and around the identifiers and the dots white space and comments.  It is
taken from the text of its node, which is cut at the dots when its blanks are gone.

So the names are the identifiers exactly when the text between the tokens is blank and no
identifier has a dot or a blank in it.  A comment is not blank: its text becomes a part of
the name, and its dots are dots of the name.
-/

namespace ReasonBindings

open Syntax

namespace Text

/-! ### Parts and gaps -/

/-- A text consists of parts with dots between them; the gaps are what stands in front of and behind
each part, other than the dots. -/
inductive Spells : List String → List (List Char) → List Char → Prop
  | last {part : String} {before after : List Char} :
    Spells [part] [before, after] (before ++ part.toList ++ after)
  | dot {part : String} {parts : List String} {before after text : List Char}
    {gaps : List (List Char)} : Spells parts gaps text →
    Spells (part :: parts) (before :: after :: gaps) (before ++ part.toList ++ after ++ '.' :: text)

/-- With blanks in its gaps a text is a dotted name. -/
lemma Spells.writesName {parts : List String} {gaps : List (List Char)} {text : List Char}
    (h : Spells parts gaps text) (hparts : ∀ part ∈ parts, IsNamePart part)
    (hgaps : ∀ gap ∈ gaps, Blank gap) : WritesName parts text := by
  induction h with
  | last =>
    exact .last (hparts _ List.mem_cons_self) (hgaps _ List.mem_cons_self)
      (hgaps _ (List.mem_cons_of_mem _ List.mem_cons_self))
  | dot _ ih =>
    obtain ⟨hpart, hothers⟩ := List.forall_mem_cons.mp hparts
    obtain ⟨hbefore, hrest⟩ := List.forall_mem_cons.mp hgaps
    obtain ⟨hafter, hrest⟩ := List.forall_mem_cons.mp hrest
    exact .dot hpart hbefore hafter (ih hothers hrest)

/-- The characters of a text that are no blanks are those of the parts, those of the gaps, and the
dots. -/
lemma Spells.length_squeeze {parts : List String} {gaps : List (List Char)} {text : List Char}
    (h : Spells parts gaps text) :
    (squeeze text).length + 1 = (parts.map fun part => (squeeze part.toList).length).sum +
      (gaps.map fun gap => (squeeze gap).length).sum + parts.length := by
  induction h with
  | last =>
    simp only [squeeze_append, List.length_append, List.map_cons, List.map_nil, List.sum_cons,
      List.sum_nil, List.length_cons, List.length_nil]
    omega
  | @dot part parts before after text gaps _ ih =>
    have hdot : squeeze ('.' :: text) = '.' :: squeeze text := List.filter_cons_of_pos (by decide)
    simp only [squeeze_append, hdot, List.length_append, List.map_cons, List.sum_cons,
      List.length_cons]
    omega

/-- A cut text loses its separators, of which there is one less than pieces. -/
lemma sum_length_pieces (separator : Char) (text : List Char) :
    ((pieces separator text).map List.length).sum + (pieces separator text).length =
      text.length + 1 := by
  induction text with
  | nil => rfl
  | cons c rest ih =>
    rw [pieces]
    split
    · simp only [List.map_cons, List.sum_cons, List.length_cons, List.length_nil]
      omega
    · cases hpieces : pieces separator rest with
      | nil => exact absurd hpieces (pieces_ne_nil separator rest)
      | cons first others =>
        rw [hpieces] at ih
        simp only [List.map_cons, List.sum_cons, List.length_cons] at ih ⊢
        omega

/-- The pieces of a text have its characters, but no separators. -/
lemma mem_of_mem_pieces {separator : Char} {text : List Char} :
    ∀ piece ∈ pieces separator text, ∀ c ∈ piece, c ∈ text ∧ c ≠ separator := by
  induction text with
  | nil => simp [pieces]
  | cons head rest ih =>
    rw [pieces]
    split
    · intro piece hpiece c hc
      rcases List.mem_cons.mp hpiece with rfl | hpiece
      · cases hc
      · exact (ih piece hpiece c hc).imp_left (List.mem_cons_of_mem head)
    · rename_i hhead
      cases hpieces : pieces separator rest with
      | nil => exact absurd hpieces (pieces_ne_nil separator rest)
      | cons first others =>
        rw [hpieces] at ih
        obtain ⟨hfirst, hothers⟩ := List.forall_mem_cons.mp ih
        intro piece hpiece c hc
        rcases List.mem_cons.mp hpiece with rfl | hpiece
        · rcases List.mem_cons.mp hc with rfl | hc
          · exact ⟨List.mem_cons_self, hhead⟩
          · exact (hfirst c hc).imp_left (List.mem_cons_of_mem head)
        · exact (hothers piece hpiece c hc).imp_left (List.mem_cons_of_mem head)

/-- The parts that a text is cut into have neither dots nor blanks. -/
lemma isNamePart_of_mem_dottedParts {text part : String} (h : part ∈ dottedParts text) :
    IsNamePart part := by
  obtain ⟨piece, hpiece, rfl⟩ := List.mem_map.mp h
  intro c hc
  rw [String.toList_ofList] at hc
  obtain ⟨hmem, hdot⟩ := mem_of_mem_pieces piece hpiece c hc
  have hblank := (List.mem_filter.mp hmem).2
  exact ⟨hdot, by simpa using hblank⟩

/-- Only the part is left of a part. -/
lemma squeeze_of_isNamePart {part : String} (h : IsNamePart part) :
    squeeze part.toList = part.toList := by
  have hnothing : Blank [] := fun _ hc => nomatch hc
  simpa using squeeze_part h hnothing hnothing

/-- A text of which nothing is left is blank. -/
lemma blank_of_squeeze_eq_nil {text : List Char} (h : (squeeze text).length = 0) : Blank text := by
  intro c hc
  have hnone := List.filter_eq_nil_iff.mp (List.eq_nil_of_length_eq_zero h) c hc
  simpa using hnone

/-- **Cutting at the dots.**  A text is cut into the parts that it consists of exactly when these
have no dots and blanks, and there are only blanks in the gaps. -/
theorem dottedParts_eq_iff {parts : List String} {gaps : List (List Char)} {text : String}
    (h : Spells parts gaps text.toList) :
    dottedParts text = parts ↔
      (∀ part ∈ parts, IsNamePart part) ∧ ∀ gap ∈ gaps, Blank gap := by
  constructor
  · intro hparts
    have hnames : ∀ part ∈ parts, IsNamePart part := fun part hmem =>
      isNamePart_of_mem_dottedParts (hparts ▸ hmem)
    refine ⟨hnames, fun gap hgap => ?_⟩
    -- The parts take up all characters that are not blank, so nothing is left for the gaps.
    have hlengths : (parts.map fun part => (squeeze part.toList).length).sum + parts.length =
        (squeeze text.toList).length + 1 := by
      have hpieces : pieces '.' (squeeze text.toList) = parts.map String.toList := by
        rw [← hparts, dottedParts, List.map_map]
        simp [Function.comp_def]
      have hsum := sum_length_pieces '.' (squeeze text.toList)
      rw [hpieces, List.map_map, List.length_map] at hsum
      rw [← hsum]
      refine congrArg (fun lengths : List Nat => lengths.sum + _) ?_
      refine List.map_congr_left fun part hmem => ?_
      rw [squeeze_of_isNamePart (hnames part hmem), Function.comp_apply]
    have hgaps : (gaps.map fun gap => (squeeze gap).length).sum = 0 := by
      have hsqueeze := h.length_squeeze
      omega
    refine blank_of_squeeze_eq_nil ?_
    exact List.sum_eq_zero_iff_forall_eq_nat.mp hgaps _ (List.mem_map_of_mem hgap)
  · rintro ⟨hparts, hgaps⟩
    exact dottedParts_of_writesName (h.writesName hparts hgaps)

end Text

/-! ### Tokens -/

mutual

/-- The nodes of a tree that have no children, in the order of the source. -/
def Tree.leaves : Tree → List Tree
  | tree@(.node _ _ _ _ _ _ children) => if children.isEmpty then [tree] else leavesOf children

/-- The leaves of the trees of a list. -/
def leavesOf : List Tree → List Tree
  | [] => []
  | tree :: trees => tree.leaves ++ leavesOf trees

end

namespace Tree

variable {source : ByteArray}

/-- The leaves of a tree that are no comments. -/
def tokens (tree : Tree) : List Tree :=
  tree.leaves.filter (·.kind != "comment")

/-- The tokens are the given identifiers with dots between them. -/
inductive Alternates (source : ByteArray) : List Tree → List Tree → Prop
  | last {identifier : Tree} : identifier.isPart = true →
    Alternates source [identifier] [identifier]
  | dot {identifier dot : Tree} {identifiers tokens : List Tree} : identifier.isPart = true →
    dot.text source = "." → Alternates source identifiers tokens →
    Alternates source (identifier :: identifiers) (identifier :: dot :: tokens)

/-- The tokens stand one after another between two offsets of the source, and each of them begins
and ends between characters. -/
def Placed (source : ByteArray) (start stop : Nat) : List Tree → Prop
  | [] => start ≤ stop
  | token :: tokens => start ≤ token.start ∧ token.start ≤ token.stop ∧
    Text.Boundary source token.start ∧ Text.Boundary source token.stop ∧
    Placed source token.stop stop tokens

instance decidablePlaced (source : ByteArray) (stop : Nat) :
    ∀ (start : Nat) (tokens : List Tree), Decidable (Placed source start stop tokens)
  | start, [] => inferInstanceAs (Decidable (start ≤ stop))
  | start, token :: tokens =>
    have := decidablePlaced source stop token.stop tokens
    inferInstanceAs (Decidable (start ≤ token.start ∧ token.start ≤ token.stop ∧
      Text.Boundary source token.start ∧ Text.Boundary source token.stop ∧
      Placed source token.stop stop tokens))

/-- The texts between two offsets that stand in front of, between and behind the tokens. -/
def gaps (source : ByteArray) (start stop : Nat) : List Tree → List (List Char)
  | [] => [(Text.slice source start stop).toList]
  | token :: tokens =>
    (Text.slice source start token.start).toList :: gaps source token.stop stop tokens

/-- The tokens of a tree are the given identifiers with dots between them. -/
structure IsDottedName (source : ByteArray) (identifiers : List Tree) (tree : Tree) : Prop where
  alternates : Alternates source identifiers tree.tokens
  placed : Placed source tree.start tree.stop tree.tokens

/-- No identifier has a dot or a blank in it, and there are only blanks between the tokens. -/
def HasBlankGaps (source : ByteArray) (identifiers : List Tree) (tree : Tree) : Prop :=
  (∀ identifier ∈ identifiers, Text.IsNamePart (identifier.text source)) ∧
  ∀ gap ∈ gaps source tree.start tree.stop tree.tokens, Text.Blank gap

/-- Placed tokens end in front of the place where they have to. -/
lemma Placed.le {start stop : Nat} {tokens : List Tree} (h : Placed source start stop tokens) :
    start ≤ stop := by
  induction tokens generalizing start with
  | nil => exact h
  | cons token tokens ih =>
    obtain ⟨hstart, htoken, -, -, hrest⟩ := h
    exact Nat.le_trans hstart (Nat.le_trans htoken (ih hrest))

/-- The text between two offsets is what stands in front of the first token, the token, and the text
behind it. -/
lemma Placed.slice_eq {start stop : Nat} {token : Tree} {tokens : List Tree}
    (h : Placed source start stop (token :: tokens)) :
    Text.slice source start stop = Text.slice source start token.start ++ token.text source ++
      Text.slice source token.stop stop := by
  obtain ⟨hstart, htoken, hbegins, hends, hrest⟩ := h
  rw [Text.slice_eq_append hstart (Nat.le_trans htoken hrest.le) hbegins,
    Text.slice_eq_append htoken hrest.le hends, ← String.append_assoc]
  rfl

/-- The text of placed tokens consists of the texts of the identifiers and the gaps. -/
lemma Alternates.spells {identifiers tokens : List Tree}
    (h : Alternates source identifiers tokens) {start stop : Nat}
    (hplaced : Placed source start stop tokens) :
    Text.Spells (identifiers.map (text source)) (gaps source start stop tokens)
      (Text.slice source start stop).toList := by
  induction h generalizing start with
  | last =>
    rw [hplaced.slice_eq, String.toList_append, String.toList_append]
    exact .last
  | @dot identifier sign _ _ _ hsign _ ih =>
    have hrest := hplaced.2.2.2.2
    have hinner := ih hrest.2.2.2.2
    have htext : (Text.slice source start stop).toList =
        (Text.slice source start identifier.start).toList ++ (identifier.text source).toList ++
          (Text.slice source identifier.stop sign.start).toList ++
          '.' :: (Text.slice source sign.stop stop).toList := by
      rw [hplaced.slice_eq, hrest.slice_eq, hsign]
      simp
    rw [htext]
    exact .dot hinner

/-- The text of a dotted name is cut into its identifiers exactly when its gaps are blank. -/
lemma IsDottedName.dottedParts_eq_iff {identifiers : List Tree} {tree : Tree}
    (h : tree.IsDottedName source identifiers) :
    tree.dottedParts source = identifiers.map (text source) ↔
      tree.HasBlankGaps source identifiers := by
  have hspells := h.alternates.spells h.placed
  refine (@Text.dottedParts_eq_iff _ _ (tree.text source) hspells).trans ?_
  rw [List.forall_mem_map]
  rfl

end Tree

/-! ### Chains of names -/

namespace Syntax.Node

/-- The identifiers of a dotted name, from left to right. -/
def identifiers : Node → List String
  | .text _ _ content => [content]
  | .qualifiedName _ left right | .propertyAccess _ left right =>
    left.identifiers ++ right.identifiers
  | _ => []

/-- The identifiers of the names of declarations that are the bodies of each other, from the
outermost one inwards. -/
def declaredIdentifiers : Node → List String
  | .namespaceDecl _ name body => name.identifiers ++ body.declaredIdentifiers
  | _ => []

/-- Identifiers that are added on the right stand behind the others. -/
lemma identifiers_foldl {add : Node → String → Node}
    (hadd : ∀ left part, (add left part).identifiers = left.identifiers ++ [part]) (left : Node)
    (others : List String) :
    (others.foldl add left).identifiers = left.identifiers ++ others := by
  induction others generalizing left with
  | nil => exact (List.append_nil _).symm
  | cons part others ih =>
    rw [List.foldl_cons, ih, hadd, List.append_assoc]
    rfl

/-- A dotted type name has the identifiers that it is made of. -/
lemma identifiers_dottedTypeName (line : Line) (first : String) (others : List String) :
    (dottedTypeName line first others).identifiers = first :: others :=
  identifiers_foldl (fun _ _ => rfl) _ others

/-- A dotted value expression has the identifiers that it is made of. -/
lemma identifiers_dottedExpression (line : Line) (first : String) (others : List String) :
    (dottedExpression line first others).identifiers = first :: others :=
  identifiers_foldl (fun _ _ => rfl) _ others

/-- Namespaces in each other around a body that is none have the names that they are made of. -/
lemma declaredIdentifiers_nestNamespaces (line : Line) {body : Node}
    (hbody : body.declaredIdentifiers = []) (names : List String) :
    (Reading.nestNamespaces line body (names.map (identifier line))).declaredIdentifiers =
      names := by
  induction names with
  | nil => exact hbody
  | cons name others ih =>
    cases others with
    | nil =>
      rw [List.map_singleton, Reading.nestNamespaces, declaredIdentifiers, hbody]
      rfl
    | cons second rest =>
      rw [List.map_cons, Reading.nestNamespaces, declaredIdentifiers, ih]
      · rfl
      · exact List.cons_ne_nil _ _

end Syntax.Node

/-! ### Names that are read -/

namespace Tree

variable {source : ByteArray}

/-- A dotted name has a first part. -/
lemma exists_dottedParts_eq_cons (source : ByteArray) (tree : Tree) :
    ∃ first others, tree.dottedParts source = first :: others := by
  refine List.exists_cons_of_ne_nil fun hnil => ?_
  exact Text.pieces_ne_nil _ _ (List.map_eq_nil_iff.mp hnil)

/-- The type name that a node is read as has the given identifiers exactly when the text of the node
is cut into these. -/
lemma typeName_eq_iff {tree : Tree} {first : String} {others : List String} :
    tree.typeName source = .dottedTypeName tree.line first others ↔
      tree.dottedParts source = first :: others := by
  obtain ⟨head, tail, hparts⟩ := exists_dottedParts_eq_cons source tree
  have hname : tree.typeName source = .dottedTypeName tree.line head tail := by
    rw [typeName, hparts]
  rw [hname, hparts]
  constructor
  · intro h
    rw [← Node.identifiers_dottedTypeName tree.line head tail, h, Node.identifiers_dottedTypeName]
  · intro h
    rw [(List.cons.inj h).1, (List.cons.inj h).2]

/-- The value expression that a node is read as has the given identifiers exactly when the text of
the node is cut into these. -/
lemma expressionName_eq_iff {tree : Tree} {first : String} {others : List String} :
    tree.expressionName source = .dottedExpression tree.line first others ↔
      tree.dottedParts source = first :: others := by
  obtain ⟨head, tail, hparts⟩ := exists_dottedParts_eq_cons source tree
  have hname : tree.expressionName source = .dottedExpression tree.line head tail := by
    rw [expressionName, hparts]
  rw [hname, hparts]
  constructor
  · intro h
    rw [← Node.identifiers_dottedExpression tree.line head tail, h,
      Node.identifiers_dottedExpression]
  · intro h
    rw [(List.cons.inj h).1, (List.cons.inj h).2]

/-- The declarations that a namespace with a body is read as have the given names exactly when the
text of its name is cut into these. -/
lemma namespace_eq_iff {tree name : Tree} {body? : Option Tree} {statements : List Node}
    (hkind : tree.kind = "internal_module" ∨ tree.kind = "module")
    (hname : tree.child? "name" = some name) (hstring : name.kind ≠ "string")
    (hbody : tree.child? "body" = body?) (hheld : (heldBy source body?).outcome = .ok statements)
    {names : List String} :
    (tree.reading source).statement.outcome = .ok [Reading.nestNamespaces tree.line
        (bodyNode body? statements) (names.map (Node.identifier tree.line))] ↔
      name.dottedParts source = names := by
  have hinnermost : (bodyNode body? statements).declaredIdentifiers = [] := by
    cases body? <;> rfl
  rw [statement_of_namespace hkind hname hstring hbody, Traced.map_outcome, hheld]
  constructor
  · intro h
    have hnested := (List.cons.inj (Except.ok.inj h)).1
    rw [← Node.declaredIdentifiers_nestNamespaces tree.line hinnermost (name.dottedParts source),
      hnested, Node.declaredIdentifiers_nestNamespaces tree.line hinnermost]
  · rintro rfl
    rfl

/-- **Dotted names have the identifiers of their tokens.**  A node whose tokens are identifiers with
dots between them is read as the type name and as the value expression with the texts of the
identifiers, and a namespace of that name as declarations with these names in each other, exactly
when there are only blanks between the tokens and no identifier has a dot or a blank in it. -/
theorem dottedName_iff {tree first : Tree} {others : List Tree}
    (h : tree.IsDottedName source (first :: others)) :
    (tree.typeName source =
        .dottedTypeName tree.line (first.text source) (others.map (text source)) ↔
      tree.HasBlankGaps source (first :: others)) ∧
    (tree.expressionName source =
        .dottedExpression tree.line (first.text source) (others.map (text source)) ↔
      tree.HasBlankGaps source (first :: others)) ∧
    ∀ (outer : Tree) (body? : Option Tree) (statements : List Node),
      outer.kind = "internal_module" ∨ outer.kind = "module" →
      outer.child? "name" = some tree → tree.kind ≠ "string" → outer.child? "body" = body? →
      (heldBy source body?).outcome = .ok statements →
      ((outer.reading source).statement.outcome = .ok [Reading.nestNamespaces outer.line
          (bodyNode body? statements)
          (((first :: others).map (text source)).map (Node.identifier outer.line))] ↔
        tree.HasBlankGaps source (first :: others)) := by
  have hparts := h.dottedParts_eq_iff
  rw [List.map_cons] at hparts
  refine ⟨typeName_eq_iff.trans hparts, expressionName_eq_iff.trans hparts, ?_⟩
  intro outer body? statements hkind hname hstring hbody hheld
  exact (namespace_eq_iff hkind hname hstring hbody hheld).trans hparts

/-- The tree of an identifier of one letter at the given offset of the source. -/
def letterTree (kind field : String) (start row : Nat) : Tree :=
  .node kind true (some field) start (start + 1) row []

/-- The tree of the name of a namespace with the two identifiers, perhaps with comments between the
first one and the dot. -/
def letterName (first : Tree) (comments : List Tree) (dot : Nat) (second : Tree) : Tree :=
  .node "nested_identifier" true (some "name") first.start second.stop first.row
    (first :: comments ++ [.node "." false none dot (dot + 1) 0 [], second])

/-- The tree of a namespace with the given name and an empty body right behind it. -/
def namespaceTree (name : Tree) (row : Nat) : Tree :=
  .node "internal_module" true none 0 (name.stop + 2) 0
    [name, .node "statement_block" true (some "body") name.stop (name.stop + 2) row []]

/-- A source text with a dotted name on two lines. -/
def spacedSource : String := "namespace A .\nB\x7b\x7d"

/-- The first identifier of the name. -/
def firstLetter : Tree := letterTree "identifier" "object" 10 0

/-- The second identifier of the name, on the second line. -/
def secondLetter : Tree := letterTree "property_identifier" "property" 14 1

/-- The name of the namespace in the source text. -/
def spacedName : Tree := letterName firstLetter [] 12 secondLetter

/-- Spaces and line ends between the tokens leave the names as they are. -/
theorem dottedName_spacedName :
    spacedName.IsDottedName spacedSource.toUTF8 [firstLetter, secondLetter] ∧
    spacedName.typeName spacedSource.toUTF8 = .dottedTypeName (some 1) "A" ["B"] ∧
    spacedName.expressionName spacedSource.toUTF8 = .dottedExpression (some 1) "A" ["B"] ∧
    ((spacedName.namespaceTree 1).reading spacedSource.toUTF8).statement.outcome =
      .ok [.namespaceDecl (some 1) (.identifier (some 1) "A")
        (.namespaceDecl (some 1) (.identifier (some 1) "B") (.block (some 2) []))] := by
  have hfirst : firstLetter.text spacedSource.toUTF8 = "A" := by with_unfolding_all rfl
  have hsecond : secondLetter.text spacedSource.toUTF8 = "B" := by with_unfolding_all rfl
  have hname : spacedName.IsDottedName spacedSource.toUTF8 [firstLetter, secondLetter] := by
    refine ⟨.dot rfl ?_ (.last rfl), ?_⟩
    · with_unfolding_all rfl
    · with_unfolding_all decide
  have hgaps : spacedName.HasBlankGaps spacedSource.toUTF8 [firstLetter, secondLetter] := by
    have htexts : gaps spacedSource.toUTF8 spacedName.start spacedName.stop spacedName.tokens =
        [[], [' '], ['\n'], []] := by with_unfolding_all rfl
    refine ⟨?_, by rw [htexts]; decide⟩
    simp only [List.forall_mem_cons, hfirst, hsecond]
    decide
  obtain ⟨htype, hexpression, hnamespace⟩ := dottedName_iff hname
  have hstatement :=
    hnamespace (spacedName.namespaceTree 1) _ [] (Or.inl rfl) rfl (by decide) rfl rfl
  simp only [List.map_cons, List.map_nil, hfirst, hsecond] at htype hexpression hstatement
  exact ⟨hname, htype.mpr hgaps, hexpression.mpr hgaps, hstatement.mpr hgaps⟩

/-- A source text with a dotted name that has a comment in it. -/
def commentedSource : String := "namespace A/*b.c*/.B\x7b\x7d"

/-- The second identifier of the name, behind the comment. -/
def remoteLetter : Tree := letterTree "property_identifier" "property" 19 0

/-- The name with the comment in it. -/
def commentedName : Tree :=
  letterName firstLetter [.node "comment" true none 11 18 0 []] 18 remoteLetter

/-- A comment in a name becomes a part of it: the identifiers are `A` and `B`, but the type is
called `A/*b.c*/.B`, and so are the namespaces. -/
theorem typeName_commentedName :
    commentedName.IsDottedName commentedSource.toUTF8 [firstLetter, remoteLetter] ∧
    firstLetter.text commentedSource.toUTF8 = "A" ∧
    remoteLetter.text commentedSource.toUTF8 = "B" ∧
    commentedName.typeName commentedSource.toUTF8 = .dottedTypeName (some 1) "A/*b" ["c*/", "B"] ∧
    commentedName.typeName commentedSource.toUTF8 ≠ .dottedTypeName (some 1) "A" ["B"] ∧
    ((commentedName.namespaceTree 0).reading commentedSource.toUTF8).statement.outcome =
      .ok [.namespaceDecl (some 1) (.identifier (some 1) "A/*b")
        (.namespaceDecl (some 1) (.identifier (some 1) "c*/")
          (.namespaceDecl (some 1) (.identifier (some 1) "B") (.block (some 1) [])))] := by
  have htype : commentedName.typeName commentedSource.toUTF8 =
      .dottedTypeName (some 1) "A/*b" ["c*/", "B"] := by with_unfolding_all rfl
  refine ⟨⟨.dot rfl ?_ (.last rfl), ?_⟩, ?_, ?_, htype, ?_, ?_⟩
  · with_unfolding_all rfl
  · with_unfolding_all decide
  · with_unfolding_all rfl
  · with_unfolding_all rfl
  · rw [htype]
    intro hsame
    have hnames := congrArg Node.identifiers hsame
    rw [Node.identifiers_dottedTypeName, Node.identifiers_dottedTypeName] at hnames
    exact absurd hnames (by decide)
  · with_unfolding_all rfl

end Tree

end ReasonBindings
