import ReasonBindings.Proofs.Namespace
import ReasonBindings.Proofs.ParseTree.Copies

/-!
# Dotted namespaces

A namespace with a dotted name stands for namespaces in each other, one for each part of the
name, which could be written one by one, each in the block of the one before.  The two ways to
write them are read by different rules: the dotted name is cut at its dots, and the
declarations that it stands for are the bodies of each other, while a namespace in a block is
one of the statements of the block.

Both enclose the statements of the innermost body, so they add the same chain of modules, in
which every module but the last one holds the next one and nothing else.  The innermost bodies
stand in different places of two sources and are copies of each other, so they are read as the
same statements but for lines, and lines do not show in a module.
-/

namespace ReasonBindings

open Model Syntax

/-! ### Dotted names -/

namespace Text

/-- There are only blanks in a text. -/
def Blank (text : List Char) : Prop :=
  ∀ c ∈ text, isBlank c = true

instance (text : List Char) : Decidable (Blank text) :=
  List.decidableBAll (fun c => isBlank c = true) text

/-- A part of a dotted name has neither dots nor blanks in it. -/
def IsNamePart (part : String) : Prop :=
  ∀ c ∈ part.toList, c ≠ '.' ∧ isBlank c = false

instance (part : String) : Decidable (IsNamePart part) :=
  List.decidableBAll (fun c => c ≠ '.' ∧ isBlank c = false) part.toList

/-- A text is the dotted name with the given parts, of which there is at least one, with any blanks
around the parts. -/
inductive WritesName : List String → List Char → Prop
  | last {part : String} {before after : List Char} : IsNamePart part → Blank before →
    Blank after → WritesName [part] (before ++ part.toList ++ after)
  | dot {part : String} {parts : List String} {before after text : List Char} :
    IsNamePart part → Blank before → Blank after → WritesName parts text →
    WritesName (part :: parts) (before ++ part.toList ++ after ++ '.' :: text)

/-- A dotted name has a part. -/
lemma WritesName.ne_nil {parts : List String} {text : List Char} (h : WritesName parts text) :
    parts ≠ [] := by
  cases h <;> exact List.cons_ne_nil _ _

/-- Nothing is left of blanks. -/
lemma squeeze_of_blank {text : List Char} (h : Blank text) : squeeze text = [] := by
  rw [squeeze, List.filter_eq_nil_iff]
  intro c hmem
  rw [h c hmem]
  decide

/-- Only the part is left of a part between blanks. -/
lemma squeeze_part {part : String} (h : IsNamePart part) {before after : List Char}
    (hbefore : Blank before) (hafter : Blank after) :
    squeeze (before ++ part.toList ++ after) = part.toList := by
  have hpart : squeeze part.toList = part.toList := by
    rw [squeeze, List.filter_eq_self]
    intro c hmem
    rw [(h c hmem).2]
    rfl
  rw [squeeze_append, squeeze_append, squeeze_of_blank hbefore, squeeze_of_blank hafter, hpart,
    List.nil_append, List.append_nil]

/-- The pieces of a dotted name are its parts. -/
lemma pieces_of_writesName {parts : List String} {text : List Char} (h : WritesName parts text) :
    pieces '.' (squeeze text) = parts.map String.toList := by
  have notMem : ∀ {part : String}, IsNamePart part → '.' ∉ part.toList :=
    fun hpart hmem => (hpart '.' hmem).1 rfl
  induction h with
  | last hpart hbefore hafter =>
    rw [squeeze_part hpart hbefore hafter, pieces_of_notMem (notMem hpart)]
    rfl
  | @dot part parts before after text hpart hbefore hafter _ ih =>
    have hdot : squeeze ('.' :: text) = '.' :: squeeze text := List.filter_cons_of_pos (by decide)
    rw [squeeze_append, squeeze_part hpart hbefore hafter, hdot, pieces_append_cons (notMem hpart),
      ih, List.map_cons]

/-- **Dotted names.**  A dotted name is cut into its parts, whatever blanks are around them. -/
theorem dottedParts_of_writesName {parts : List String} {text : String}
    (h : WritesName parts text.toList) : dottedParts text = parts := by
  rw [dottedParts, pieces_of_writesName h, List.map_map]
  simp [Function.comp_def]

end Text

/-! ### Trees of namespaces -/

namespace Tree

/-- The tree is the given one, possibly with constructs around it that hold nothing else. -/
inductive Wraps (inner : Tree) : Tree → Prop
  | itself : Wraps inner inner
  | wrapper {tree part : Tree} : tree.kind ∈ wrapperKinds → tree.parts = [part] →
    Wraps inner part → Wraps inner tree

/-- The given tree is the only statement that a tree holds. -/
def Holds (inner tree : Tree) : Prop :=
  ∃ part, tree.parts = [part] ∧ inner.Wraps part

/-- The tree is a namespace, the name of which is written with the given parts, with a body or
without one. -/
structure IsNamespace (source : ByteArray) (parts : List String) (body? : Option Tree)
    (tree : Tree) : Prop where
  kind : tree.kind = "internal_module" ∨ tree.kind = "module"
  name : ∃ name, tree.child? "name" = some name ∧ name.kind ≠ "string" ∧
    Text.WritesName parts (name.text source).toList
  body : tree.child? "body" = body?

/-- The tree is a namespace with the first of the given names, the body of which holds a namespace
with the second one, and so on.  The last one has the given body, if there is one. -/
inductive NestsNamespaces (source : ByteArray) (body? : Option Tree) : List String → Tree → Prop
  | innermost {name : String} {tree : Tree} : tree.IsNamespace source [name] body? →
    NestsNamespaces source body? [name] tree
  | around {name : String} {names : List String} {tree block inner : Tree} :
    tree.IsNamespace source [name] (some block) → inner.Holds block →
    NestsNamespaces source body? names inner → NestsNamespaces source body? (name :: names) tree

variable {source : ByteArray}

/-! ### Readings -/

/-- What a single part contributes is what the tree contributes. -/
lemma gather_singleton {tree part : Tree} (h : tree.parts = [part])
    (view : Reading → Traced (List Node)) :
    Reading.gather (childReadings source tree.children) view = view (part.reading source) := by
  rw [Reading.gather, Reading.parts_childReadings, h]
  simp [Traced.all, Reading.childOf]

/-- A namespace is read as nested declarations. -/
lemma statement_of_namespaceKind {tree : Tree}
    (h : tree.kind = "internal_module" ∨ tree.kind = "module") :
    (tree.reading source).statement =
      (do return [← Reading.namespaceOf source tree (childReadings source tree.children)]) := by
  rw [Tree.reading_eq]
  change Reading.statementOf source tree (childReadings source tree.children) = _
  rcases h with hkind | hkind
  · simp only [Reading.statementOf, hkind]
  · simp only [Reading.statementOf, hkind]

/-- Around a single statement nothing is added to it. -/
lemma statement_of_wraps {inner tree : Tree} (h : inner.Wraps tree) :
    (tree.reading source).statement = (inner.reading source).statement := by
  induction h with
  | itself => rfl
  | @wrapper tree part hkind hparts _ ih =>
    rw [statement_of_wrapper hkind, ← ih]
    exact gather_singleton hparts Reading.statement

/-- The statements of a tree are those of the only one that it holds. -/
lemma statements_of_holds {inner tree : Tree} (h : inner.Holds tree) :
    tree.statements source = (inner.reading source).statement := by
  obtain ⟨part, hparts, hwraps⟩ := h
  rw [statements, Tree.reading_eq, ← statement_of_wraps hwraps]
  exact gather_singleton hparts Reading.statement

/-- The statements in the body of a namespace. -/
def heldBy (source : ByteArray) : Option Tree → Traced (List Node)
  | none => pure []
  | some body => body.statements source

/-- The body of a namespace with the given statements in it. -/
def bodyNode : Option Tree → List Node → Node
  | none, _ => .absent
  | some body, statements => .block body.line statements

/-- A body has the statements that are in it. -/
lemma bodyStatements_bodyNode {body? : Option Tree} {statements : List Node}
    (h : (heldBy source body?).outcome = .ok statements) :
    (bodyNode body? statements).bodyStatements = statements := by
  cases body? with
  | none => exact Except.ok.inj h
  | some body => rfl

/-- A namespace whose name is no string is read as nested declarations around its body, one for
each part of the name. -/
lemma statement_of_namespace {tree name : Tree} {body? : Option Tree}
    (hkind : tree.kind = "internal_module" ∨ tree.kind = "module")
    (hname : tree.child? "name" = some name) (hstring : name.kind ≠ "string")
    (hbody : tree.child? "body" = body?) :
    (tree.reading source).statement = (fun statements => [Reading.nestNamespaces tree.line
      (bodyNode body? statements) ((name.dottedParts source).map (Node.identifier tree.line))]) <$>
        heldBy source body? := by
  have hnames : Reading.namespaceNames source tree =
      (name.dottedParts source).map (Node.identifier tree.line) := by
    rw [Reading.namespaceNames, hname]
    simp only [if_neg hstring]
  rw [statement_of_namespaceKind hkind, Reading.namespaceOf, Reading.child?_childReadings, hbody,
    hnames]
  cases body? with
  | none => rfl
  | some body =>
    simp only [Option.map_some, Traced.bind_assoc, Traced.pure_bind, ← Traced.bind_pure_comp]
    rfl

/-- A namespace is read as nested declarations around its body. -/
lemma IsNamespace.statement {parts : List String} {body? : Option Tree} {tree : Tree}
    (h : tree.IsNamespace source parts body?) :
    (tree.reading source).statement = (fun statements => [Reading.nestNamespaces tree.line
      (bodyNode body? statements) (parts.map (Node.identifier tree.line))]) <$>
        heldBy source body? := by
  obtain ⟨hkind, ⟨name, hname, hstring, hparts⟩, hbody⟩ := h
  rw [statement_of_namespace hkind hname hstring hbody, dottedParts,
    Text.dottedParts_of_writesName hparts]

/-! ### Namespaces around a body -/

/-- The tree is read as namespaces of the given names around the statements of the body. -/
def EnclosesBody (source : ByteArray) (names : List String) (body? : Option Tree) (tree : Tree) :
    Prop :=
  ∃ around : List Node → List Node,
    (tree.reading source).statement.outcome = (heldBy source body?).outcome.map around ∧
    ∀ statements, (heldBy source body?).outcome = .ok statements →
      Encloses names (around statements) statements

/-- Declarations in each other enclose the statements of the innermost body. -/
lemma encloses_nestNamespaces (line : Line) (body : Node) {names : List String} (h : names ≠ []) :
    Encloses names [Reading.nestNamespaces line body (names.map (Node.identifier line))]
      body.bodyStatements := by
  induction names with
  | nil => exact absurd rfl h
  | cons name others ih =>
    cases others with
    | nil => exact .around rfl .none
    | cons second rest =>
      have hrest := ih (List.cons_ne_nil second rest)
      have hnested : ∃ first next, Reading.nestNamespaces line body
          ((second :: rest).map (Node.identifier line)) = .namespaceDecl line first next := by
        cases rest with
        | nil => exact ⟨_, _, rfl⟩
        | cons third others => exact ⟨_, _, rfl⟩
      obtain ⟨first, next, heq⟩ := hnested
      rw [heq] at hrest
      refine .around rfl ?_
      rw [heq]
      exact hrest

/-- A namespace with a dotted name encloses the statements of its body. -/
lemma IsNamespace.enclosesBody {names : List String} {body? : Option Tree} {tree : Tree}
    (h : tree.IsNamespace source names body?) : tree.EnclosesBody source names body? := by
  have hnames : names ≠ [] := by
    obtain ⟨_, _, _, hwritten⟩ := h.name
    exact hwritten.ne_nil
  refine ⟨_, congrArg Traced.outcome h.statement, fun statements hstatements => ?_⟩
  have hencloses := encloses_nestNamespaces tree.line (bodyNode body? statements) hnames
  rw [bodyStatements_bodyNode hstatements] at hencloses
  exact hencloses

/-- Namespaces in blocks enclose the statements of the innermost body. -/
lemma NestsNamespaces.enclosesBody {names : List String} {body? : Option Tree} {tree : Tree}
    (h : tree.NestsNamespaces source body? names) : tree.EnclosesBody source names body? := by
  induction h with
  | innermost hnamespace => exact hnamespace.enclosesBody
  | @around name names tree block inner hnamespace hholds _ ih =>
    obtain ⟨around, hinner, hencloses⟩ := ih
    refine ⟨fun statements => [.namespaceDecl tree.line (.identifier tree.line name)
      (.block block.line (around statements))], ?_, fun statements hstatements => ?_⟩
    · rw [hnamespace.statement, Traced.map_outcome, heldBy, statements_of_holds hholds, hinner]
      cases (heldBy source body?).outcome <;> rfl
    · exact .around rfl (hencloses statements hstatements)

end Tree

/-! ### Chains of modules -/

namespace Model

/-- The modules around a module: each of the names is that of the next one further in. -/
def Module.within (owner : String) : List String → Module → Module
  | [], module => module
  | name :: names, module => { name := owner, modules := [Module.within name names module] }

/-- Modules of the given names stand in each other.  Each of them but the last one holds the next
one and nothing else. -/
inductive Module.IsChain : List String → Module → Prop
  | last {module : Module} : IsChain [module.name] module
  | around {name : String} {names : List String} {inner : Module} : inner.IsChain names →
    IsChain (name :: names) { name := name, modules := [inner] }

/-- The modules around a module that has the last of the names are a chain. -/
lemma Module.isChain_within {owner : String} {names : List String} {module : Module}
    (h : module.name = names.getLastD owner) :
    (module.within owner names).IsChain (owner :: names) := by
  induction names generalizing owner with
  | nil =>
    obtain rfl : module.name = owner := h
    exact .last
  | cons name names ih =>
    rw [List.getLastD_cons] at h
    exact .around (ih h)

/-- Statements inside of namespaces add the modules of the namespaces around what they add to the
innermost of them. -/
lemma statementsOf_encloses {names : List String} {outer statements : List Node}
    (h : Encloses names outer statements) (scope : Scope) (owner : String) :
    (statementsOf scope owner outer).outcome =
      (statementsOf scope (names.getLastD owner) statements).outcome.map
        (Module.within owner names) := by
  induction h generalizing scope owner with
  | @none statements =>
    change _ = Except.map id _
    rw [Except.map_id]
    rfl
  | @around line nameNode body name names statements hname _ ih =>
    have hscope : (scope.enter (.namespaceDecl line nameNode body)).SameNames scope :=
      Scope.SameNames.of_noTypeParameters rfl scope
    rw [statementsOf_namespaceDecl_outcome hname, ih, statementsOf_congr hscope,
      List.getLastD_cons]
    cases (statementsOf scope (names.getLastD name) statements).outcome <;> rfl

end Model

/-! ### Dotted and nested namespaces -/

namespace Tree

/-- What the statements that a tree is read as add to a module. -/
def added (source : ByteArray) (scope : Scope) (owner : String) (tree : Tree) : Traced Module := do
  statementsOf scope owner (← (tree.reading source).statement)

/-- The record of the file with the given tree. -/
def fileRecord (source : ByteArray) (path : String) (name : Option String) (root : Tree) :
    Traced Module := do
  fileOf (.sourceFile (some 1) path (← root.statements source)) name

/-- The bindings of the file with the given tree. -/
def fileBindings (source : ByteArray) (path : String) (name : Option String) (root : Tree) :
    Traced String := do
  bindingsOf (.sourceFile (some 1) path (← root.statements source)) name

variable {source source' : ByteArray}

/-- Namespaces around a body add the modules of the namespaces around what the body adds. -/
lemma EnclosesBody.added_outcome {names : List String} {body? : Option Tree} {tree : Tree}
    (h : tree.EnclosesBody source names body?) (scope : Scope) (owner : String) :
    (tree.added source scope owner).outcome =
      (Module.within owner names <$> do
        statementsOf scope (names.getLastD owner) (← heldBy source body?)).outcome := by
  obtain ⟨around, hstatement, hencloses⟩ := h
  rw [added, Traced.bind_outcome, hstatement, Traced.map_outcome, Traced.bind_outcome]
  cases hheld : (heldBy source body?).outcome with
  | error cause => rfl
  | ok statements => exact statementsOf_encloses (hencloses statements hheld) scope owner

/-- A body and its copy add the same to a module. -/
lemma added_outcome_of_copies {body? body?' : Option Tree}
    (h : Option.Rel (IsCopy source source') body? body?') (scope : Scope) (owner : String) :
    (do statementsOf scope owner (← heldBy source body?) : Traced Module).outcome =
      (do statementsOf scope owner (← heldBy source' body?') : Traced Module).outcome := by
  have hheld : (heldBy source body?).EndsUpTo (List.Forall₂ Node.SameButLines)
      (heldBy source' body?') := by
    cases h with
    | none => exact Traced.endsUpTo_pure .nil
    | some hcopy => exact hcopy.statements
  refine Traced.endsUpTo_eq_iff.mp (hheld.bind fun statements statements' hstatements => ?_)
  exact Traced.endsUpTo_eq_iff.mpr (statementsOf_sameButLines hstatements scope owner)

/-- Namespaces around a body add a chain of modules. -/
lemma EnclosesBody.isChain {names : List String} {body? : Option Tree} {tree : Tree}
    (h : tree.EnclosesBody source names body?) (hnames : names ≠ []) {scope : Scope}
    {owner : String} {module : Module}
    (hadded : (tree.added source scope owner).outcome = .ok module) :
    ∃ inner, module = { name := owner, modules := [inner] } ∧ inner.IsChain names := by
  obtain ⟨name, others, rfl⟩ := List.exists_cons_of_ne_nil hnames
  rw [h.added_outcome, Traced.map_outcome_eq_ok] at hadded
  obtain ⟨innermost, hinnermost, rfl⟩ := hadded
  obtain ⟨statements, -, hbuilt⟩ := Traced.bind_outcome_eq_ok.mp hinnermost
  have hname : innermost.name = others.getLastD name := by
    rw [name_of_statementsOf hbuilt, List.getLastD_cons]
  exact ⟨_, rfl, Module.isChain_within hname⟩

/-- The record of a file is what the only statement that its tree holds adds to the library. -/
lemma fileRecord_of_holds {tree root : Tree} (h : tree.Holds root) (path : String)
    (name : Option String) :
    (root.fileRecord source path name).outcome =
      (tree.added source Scope.empty (libraryName path name)).outcome := by
  rw [fileRecord, added, Traced.bind_outcome, Traced.bind_outcome, statements_of_holds h]
  exact bind_congr fun statements => fileOf_outcome_eq (some 1) path statements name

/-- The bindings of a file are those of its record. -/
lemma fileBindings_outcome (path : String) (name : Option String) (root : Tree) :
    (root.fileBindings source path name).outcome =
      (root.fileRecord source path name).outcome.map Module.text := by
  have hbindings : root.fileBindings source path name =
      root.fileRecord source path name >>= Module.print := by
    rw [fileBindings, fileRecord, Traced.bind_assoc]
    rfl
  rw [hbindings]
  exact Traced.bind_outcome_eq_map fun module _ => rfl

/-- **Dotted namespaces are nested ones.**  A namespace with a dotted name, whatever blanks are
around its parts, adds the same modules as namespaces of the names of the parts that are written in
the blocks of each other around a copy of the body, if there is one.  The innermost module is what
the statements of the body add to a module of the last name, and the others are a chain around it,
each module of which holds the next one and nothing else.  A file with the one has the record and
the bindings of a file with the other, and one of them has none when the other has none. -/
theorem dotted_eq_nested {names : List String} {body? body?' : Option Tree} {dotted nested : Tree}
    (hdotted : dotted.IsNamespace source names body?)
    (hnested : nested.NestsNamespaces source' body?' names)
    (hbodies : Option.Rel (IsCopy source source') body? body?') :
    (∀ scope owner,
      (dotted.added source scope owner).outcome = (nested.added source' scope owner).outcome ∧
      (dotted.added source scope owner).outcome = (Module.within owner names <$> do
        statementsOf scope (names.getLastD owner) (← heldBy source body?)).outcome ∧
      ∀ module, (dotted.added source scope owner).outcome = .ok module →
        ∃ inner, module = { name := owner, modules := [inner] } ∧ inner.IsChain names) ∧
    ∀ root root' path name, dotted.Holds root → nested.Holds root' →
      (root.fileRecord source path name).outcome = (root'.fileRecord source' path name).outcome ∧
      (root.fileBindings source path name).outcome =
        (root'.fileBindings source' path name).outcome := by
  have hnames : names ≠ [] := by
    obtain ⟨_, _, _, hwritten⟩ := hdotted.name
    exact hwritten.ne_nil
  have hadded : ∀ scope owner, (dotted.added source scope owner).outcome =
      (nested.added source' scope owner).outcome := by
    intro scope owner
    rw [hdotted.enclosesBody.added_outcome, hnested.enclosesBody.added_outcome, Traced.map_outcome,
      Traced.map_outcome, added_outcome_of_copies hbodies]
  refine ⟨fun scope owner => ⟨hadded scope owner, ?_, fun module hmodule => ?_⟩, ?_⟩
  · exact hdotted.enclosesBody.added_outcome scope owner
  · exact hdotted.enclosesBody.isChain hnames hmodule
  · intro root root' path name hroot hroot'
    have hrecord : (root.fileRecord source path name).outcome =
        (root'.fileRecord source' path name).outcome := by
      rw [fileRecord_of_holds hroot, fileRecord_of_holds hroot', hadded]
    exact ⟨hrecord, by rw [fileBindings_outcome, fileBindings_outcome, hrecord]⟩

/-- A source text with a namespace that has a dotted name on two lines. -/
def dottedSource : String := "namespace A .\nB{function f()}"

/-- A source text with the namespaces that it stands for. -/
def nestedSource : String := "namespace A{namespace B{function f()}}"

/-- The tree of the block of the innermost namespace, at the given place. -/
def functionBlock (start row : Nat) : Tree :=
  .node "statement_block" true (some "body") start (start + 14) row
    [.node "function_signature" true none (start + 1) (start + 13) row
      [.node "identifier" true (some "name") (start + 10) (start + 11) row [],
        .node "formal_parameters" true (some "parameters") (start + 11) (start + 13) row []]]

/-- The tree of the namespace with a dotted name. -/
def dottedTree : Tree :=
  .node "internal_module" true none 0 29 0
    [.node "nested_identifier" true (some "name") 10 15 0 [], functionBlock 15 1]

/-- The tree of the inner namespace. -/
def innerTree : Tree :=
  .node "internal_module" true none 12 37 0
    [.node "identifier" true (some "name") 22 23 0 [], functionBlock 23 0]

/-- The tree of the block around the inner namespace. -/
def outerBlock : Tree :=
  .node "statement_block" true (some "body") 11 38 0
    [.node "expression_statement" true none 12 37 0 [innerTree]]

/-- The tree of the outer namespace. -/
def nestedTree : Tree :=
  .node "internal_module" true none 0 38 0
    [.node "identifier" true (some "name") 10 11 0 [], outerBlock]

/-- The tree of a file with a single statement. -/
def fileTree (stop : Nat) (statement : Tree) : Tree :=
  .node "program" true none 0 stop 0 [.node "expression_statement" true none 0 stop 0 [statement]]

/-- The file with the dotted name has the record and the bindings of the file with the nested
namespaces. -/
theorem dotted_eq_nested_sample :
    dottedTree.IsNamespace dottedSource.toUTF8 ["A", "B"] (some (functionBlock 15 1)) ∧
    nestedTree.NestsNamespaces nestedSource.toUTF8 (some (functionBlock 23 0)) ["A", "B"] ∧
    (functionBlock 15 1).IsCopy dottedSource.toUTF8 nestedSource.toUTF8 (functionBlock 23 0) ∧
    dottedTree.Holds (fileTree 29 dottedTree) ∧ nestedTree.Holds (fileTree 38 nestedTree) ∧
    ((fileTree 29 dottedTree).fileRecord dottedSource.toUTF8 "lib.d.ts" none).outcome =
      ((fileTree 38 nestedTree).fileRecord nestedSource.toUTF8 "lib.d.ts" none).outcome ∧
    ((fileTree 29 dottedTree).fileBindings dottedSource.toUTF8 "lib.d.ts" none).outcome =
      ((fileTree 38 nestedTree).fileBindings nestedSource.toUTF8 "lib.d.ts" none).outcome := by
  have hdotted : dottedTree.IsNamespace dottedSource.toUTF8 ["A", "B"]
      (some (functionBlock 15 1)) := by
    refine ⟨Or.inl rfl, ⟨_, rfl, by decide, ?_⟩, rfl⟩
    have htext : (Tree.node "nested_identifier" true (some "name") 10 15 0 []).text
        dottedSource.toUTF8 = "A .\nB" := by with_unfolding_all rfl
    rw [htext]
    exact @Text.WritesName.dot "A" ["B"] [] [' '] ['\n', 'B'] (by decide) (by decide) (by decide)
      (@Text.WritesName.last "B" ['\n'] [] (by decide) (by decide) (by decide))
  have hinner : innerTree.IsNamespace nestedSource.toUTF8 ["B"] (some (functionBlock 23 0)) := by
    refine ⟨Or.inl rfl, ⟨_, rfl, by decide, ?_⟩, rfl⟩
    have htext : (Tree.node "identifier" true (some "name") 22 23 0 []).text
        nestedSource.toUTF8 = "B" := by with_unfolding_all rfl
    rw [htext]
    exact @Text.WritesName.last "B" [] [] (by decide) (by decide) (by decide)
  have houter : nestedTree.IsNamespace nestedSource.toUTF8 ["A"] (some outerBlock) := by
    refine ⟨Or.inl rfl, ⟨_, rfl, by decide, ?_⟩, rfl⟩
    have htext : (Tree.node "identifier" true (some "name") 10 11 0 []).text
        nestedSource.toUTF8 = "A" := by with_unfolding_all rfl
    rw [htext]
    exact @Text.WritesName.last "A" [] [] (by decide) (by decide) (by decide)
  have hnested : nestedTree.NestsNamespaces nestedSource.toUTF8 (some (functionBlock 23 0))
      ["A", "B"] :=
    .around houter ⟨_, rfl, .wrapper (by decide) rfl .itself⟩ (.innermost hinner)
  have hbodies : (functionBlock 15 1).IsCopy dottedSource.toUTF8 nestedSource.toUTF8
      (functionBlock 23 0) := by
    refine .node ?_ (.cons (.node ?_ (.cons (.node ?_ .nil) (.cons (.node ?_ .nil) .nil))) .nil)
    all_goals with_unfolding_all rfl
  have hroot : dottedTree.Holds (fileTree 29 dottedTree) :=
    ⟨_, rfl, .wrapper (by decide) rfl .itself⟩
  have hroot' : nestedTree.Holds (fileTree 38 nestedTree) :=
    ⟨_, rfl, .wrapper (by decide) rfl .itself⟩
  have hfiles := (dotted_eq_nested hdotted hnested (.some hbodies)).2
  exact ⟨hdotted, hnested, hbodies, hroot, hroot', hfiles _ _ "lib.d.ts" none hroot hroot'⟩

end Tree

end ReasonBindings
