import Mathlib.Algebra.Ring.Nat
import ReasonBindings.Proofs.Model.Sentinel
import ReasonBindings.Model.Print

/-!
# Counting printed lines

Every line of printed bindings is of one of few kinds: it declares an external value, it
opens or closes the block of a module, it declares the abstract type of a block, or it is
empty.  A test of lines that sees no more than the kind, and that does not see the
indentation, counts the same lines in a block as in its body, up to the first and the
last line of the block.  So the number of lines of a kind is a sum over the records of a
module, and by the way in which records stem from declarations it is a sum over the
declarations, through all namespaces.
-/

namespace ReasonBindings

open Layout Syntax

/-! ### Kinds of lines -/

namespace Layout

/-- The characters of a line behind the spaces that it begins with. -/
def unindented (line : String) : List Char :=
  line.toList.dropWhile (· = ' ')

/-- The line declares an external value. -/
def declaresExternal (line : String) : Bool :=
  decide ("external ".toList <+: unindented line)

/-- The line opens the block of a module. -/
def opensModule (line : String) : Bool :=
  decide ("let module".toList <+: unindented line)

/-- The line closes a block. -/
def closesBlock (line : String) : Bool :=
  decide (unindented line = closing.toList)

/-- Indentation is not part of what is behind it. -/
lemma unindented_indentLine (line : String) : unindented (indentLine line) = unindented line := by
  unfold indentLine
  split
  · rename_i hempty
    rw [hempty]
  · have hspaces : indentation.toList = [' ', ' '] := rfl
    rw [unindented, String.toList_append, hspaces]
    rfl

/-- A line that begins with a letter is not indented. -/
lemma unindented_of_head {line : String} {c : Char} {rest : List Char}
    (h : line.toList = c :: rest) (hc : c ≠ ' ') : unindented line = c :: rest := by
  rw [unindented, h, List.dropWhile_cons_of_neg (by simpa using hc)]

end Layout

namespace Model

/-- A test of lines that does not see the indentation and sees no more of a printed line than
whether it declares an external value, opens a block or closes one. -/
structure KindTest (test : String → Bool) (declares opens closes : Bool) : Prop where
  indented : ∀ line, test (indentLine line) = test line
  blank : test "" = false
  type : test "type t;" = false
  external : ∀ line, "external ".toList <+: line.toList → test line = declares
  opening : ∀ name, test (opening (moduleHeader name)) = opens
  closing : test closing = closes

/-- What the opening line of a module begins with. -/
lemma toList_opening (name : String) : ∃ rest,
    (opening (moduleHeader name)).toList = "let module".toList ++ rest := by
  refine ⟨" ".toList ++ name.toList ++ " = \x7b".toList, ?_⟩
  have hwords : "let module ".toList = "let module".toList ++ " ".toList := rfl
  rw [Layout.opening, moduleHeader, String.toList_append, String.toList_append, hwords]
  simp only [List.append_assoc]

/-- Lines that declare external values are told apart by their first word. -/
lemma kindTest_declaresExternal : KindTest declaresExternal true false false := by
  have other : ∀ {line : String} {c : Char} {rest : List Char}, line.toList = c :: rest →
      c ≠ ' ' → c ≠ 'e' → declaresExternal line = false := by
    intro line c rest hline hspace hletter
    rw [declaresExternal, unindented_of_head hline hspace, decide_eq_false_iff_not]
    exact fun hprefix => hletter (List.cons_prefix_cons.mp hprefix).1.symm
  refine ⟨fun line => ?_, by decide, by decide, fun line hline => ?_, fun name => ?_, by decide⟩
  · rw [declaresExternal, unindented_indentLine]
    rfl
  · obtain ⟨rest, hrest⟩ := hline
    rw [declaresExternal, unindented_of_head hrest.symm (by decide), decide_eq_true_iff]
    exact List.prefix_append "external ".toList rest
  · obtain ⟨rest, hrest⟩ := toList_opening name
    exact other hrest (by decide) (by decide)

/-- Lines that open the block of a module are told apart by their first words. -/
lemma kindTest_opensModule : KindTest opensModule false true false := by
  refine ⟨fun line => ?_, by decide, by decide, fun line hline => ?_, fun name => ?_, by decide⟩
  · rw [opensModule, unindented_indentLine]
    rfl
  · obtain ⟨rest, hrest⟩ := hline
    rw [opensModule, unindented_of_head hrest.symm (by decide), decide_eq_false_iff_not]
    exact fun hprefix => absurd (List.cons_prefix_cons.mp hprefix).1 (by decide)
  · obtain ⟨rest, hrest⟩ := toList_opening name
    rw [opensModule, unindented_of_head hrest (by decide), decide_eq_true_iff]
    exact List.prefix_append "let module".toList rest

/-- Lines that close a block are told apart by being nothing else. -/
lemma kindTest_closesBlock : KindTest closesBlock false false true := by
  have other : ∀ {line : String} {c : Char} {rest : List Char}, line.toList = c :: rest →
      c ≠ ' ' → c ≠ '\x7d' → closesBlock line = false := by
    intro line c rest hline hspace hbrace
    rw [closesBlock, unindented_of_head hline hspace, decide_eq_false_iff_not]
    exact fun hwhole => hbrace (List.cons.inj hwhole).1
  refine ⟨fun line => ?_, by decide, by decide, fun line hline => ?_, fun name => ?_, by decide⟩
  · rw [closesBlock, unindented_indentLine]
    rfl
  · obtain ⟨rest, hrest⟩ := hline
    exact other hrest.symm (by decide) (by decide)
  · obtain ⟨rest, hrest⟩ := toList_opening name
    exact other hrest (by decide) (by decide)

/-! ### Lines of records -/

/-- The binding of a variable declares an external value. -/
lemma Variable.prefix_line (value : Variable) : "external ".toList <+: value.line.toList := by
  unfold line
  simp only [String.toList_append, List.append_assoc]
  exact List.prefix_append _ _

/-- The binding of a method declares an external value. -/
lemma Method.prefix_line (method : Method) (library : String) :
    "external ".toList <+: (method.line library).toList := by
  unfold line
  simp only [String.toList_append, List.append_assoc]
  exact List.prefix_append _ _

/-- The binding that sets a property declares an external value. -/
lemma Property.prefix_setter (property : Property) :
    "external ".toList <+: property.setter.toList := by
  have hword : "external ".toList <+: "external set".toList := by decide
  unfold setter
  generalize Text.capitalize property.name = capital
  simp only [String.toList_append, List.append_assoc]
  exact hword.trans (List.prefix_append _ _)

/-- The binding that gets a property declares an external value. -/
lemma Property.prefix_getter (property : Property) :
    "external ".toList <+: property.getter.toList := by
  have hword : "external ".toList <+: "external get".toList := by decide
  unfold getter
  generalize Text.capitalize property.name = capital
  simp only [String.toList_append, List.append_assoc]
  exact hword.trans (List.prefix_append _ _)

section

variable {test : String → Bool} {declares opens closes : Bool}
  (ht : KindTest test declares opens closes)

include ht

/-- As many indented lines are counted as lines without indentation. -/
lemma KindTest.countP_indent (lines : List String) :
    (indent lines).countP test = lines.countP test := by
  rw [indent, List.countP_map]
  exact List.countP_congr fun line _ => by rw [Function.comp_apply, ht.indented]

/-- In a block the lines of its body are counted, and its first and its last line. -/
lemma KindTest.countP_block (name : String) (blank : Bool) (body : List String) :
    (block (moduleHeader name) blank body).countP test =
      body.countP test + (opens.toNat + closes.toNat) := by
  have hblank : (if blank then [""] else []).countP test = 0 := by
    cases blank with
    | false => rfl
    | true => simp [ht.blank]
  rw [block, countP_cons_toNat, ht.opening, List.countP_append, List.countP_append, hblank,
    ht.countP_indent, countP_cons_toNat, ht.closing, List.countP_nil]
  omega

/-- Lines that declare external values count one each, or all of them zero. -/
lemma KindTest.countP_map {α : Type} {print : α → String}
    (h : ∀ record, "external ".toList <+: (print record).toList) (records : List α) :
    (records.map print).countP test = records.length * declares.toNat := by
  induction records with
  | nil => simp
  | cons record records ih =>
    rw [List.map_cons, countP_cons_toNat, ht.external _ (h record), ih, List.length_cons,
      Nat.succ_mul, Nat.add_comm]

/-- A property has two lines that declare external values. -/
lemma KindTest.countP_properties (properties : List Property) :
    (properties.flatMap Property.lines).countP test = 2 * properties.length * declares.toNat := by
  induction properties with
  | nil => simp
  | cons property properties ih =>
    rw [List.flatMap_cons, List.countP_append, ih, Property.lines, countP_cons_toNat,
      countP_cons_toNat, countP_cons_toNat, ht.external _ property.prefix_setter,
      ht.external _ property.prefix_getter, ht.blank, List.countP_nil, List.length_cons,
      Nat.mul_succ, Nat.add_mul, Nat.two_mul declares.toNat]
    simp only [Bool.toNat_false]
    omega

/-- In the block of an interface the bindings of its methods are counted, two for each property, and
the first and the last line. -/
lemma KindTest.countP_interface (interface : Interface) (library : String) :
    (interface.lines library ++ [""]).countP test =
      (interface.methods.length + 2 * interface.properties.length) * declares.toNat +
        (opens.toNat + closes.toNat) := by
  have htype : "type " ++ TypeText.instanceType ++ ";" = "type t;" := rfl
  rw [List.countP_append, countP_cons_toNat, ht.blank, List.countP_nil, Interface.lines,
    ht.countP_block, Interface.bodyLines, htype, countP_cons_toNat, countP_cons_toNat, ht.type,
    ht.blank, List.countP_append, ht.countP_map (Method.prefix_line · library),
    ht.countP_properties, Nat.add_mul]
  simp only [Bool.toNat_false]
  omega

end

/-! ### Statements at any depth -/

mutual

/-- The statements in the body of a namespace, at any depth. -/
def bodyWithin : Node → List Node
  | .block _ statements => allStatements statements
  | node@(.namespaceDecl _ _ body) => node :: bodyWithin body
  | _ => []

/-- Statements, each of them followed by those that it holds, at any depth. -/
def allStatements : List Node → List Node
  | [] => []
  | node@(.namespaceDecl _ _ body) :: nodes => node :: (bodyWithin body ++ allStatements nodes)
  | node :: nodes => node :: allStatements nodes

end

/-- The body of a namespace holds its statements. -/
lemma bodyWithin_eq (body : Node) : bodyWithin body = allStatements body.bodyStatements := by
  cases body with
  | namespaceDecl =>
    rw [bodyWithin, Node.bodyStatements, allStatements, allStatements, List.append_nil]
  | _ => rfl

/-- A statement without a body holds no others. -/
lemma allStatements_simple {node : Node} (h : node.body? = none) (nodes : List Node) :
    allStatements (node :: nodes) = node :: allStatements nodes := by
  cases node with
  | namespaceDecl => cases h
  | _ => rw [allStatements]; exact fun _ _ _ hnode => nomatch hnode

/-- The number of bindings of an interface: one for each method, two for each property, and one for
the maker unless it is a class. -/
def Shape.bindingCount (shape : Shape) : Nat :=
  shape.members.countP Node.declaresMethod + 2 * shape.members.countP Node.declaresProperty +
    match shape.kind with
    | .classLike => 0
    | .interfaceLike => 1

/-- The number of bindings of statements, apart from the statements that they hold: one for each
variable and for each function, and those of the interfaces. -/
def ownBindings (statements : List Node) : Nat :=
  (statements.flatMap Node.declaredVariables).length + statements.countP Node.declaresFunction +
    ((statements.flatMap shapes).map Shape.bindingCount).sum

/-- The number of blocks of statements, apart from the statements that they hold: one for each
namespace and for each interface. -/
def ownBlocks (statements : List Node) : Nat :=
  statements.countP (·.body?.isSome) + (statements.flatMap shapes).length

/-- The number of bindings that statements declare, at any depth. -/
def bindingCount (statements : List Node) : Nat :=
  ownBindings (allStatements statements)

/-- The number of blocks that statements declare, at any depth. -/
def blockCount (statements : List Node) : Nat :=
  ownBlocks (allStatements statements)

/-- Two lists of statements have the bindings of both. -/
lemma ownBindings_append (first second : List Node) :
    ownBindings (first ++ second) = ownBindings first + ownBindings second := by
  simp only [ownBindings, List.flatMap_append, List.length_append, List.countP_append,
    List.map_append, List.sum_append]
  omega

/-- Two lists of statements have the blocks of both. -/
lemma ownBlocks_append (first second : List Node) :
    ownBlocks (first ++ second) = ownBlocks first + ownBlocks second := by
  simp only [ownBlocks, List.flatMap_append, List.length_append, List.countP_append]
  omega

/-- The bindings of a statement that holds no others come on top of those of the others. -/
lemma bindingCount_simple {node : Node} (h : node.body? = none) (nodes : List Node) :
    bindingCount (node :: nodes) = ownBindings [node] + bindingCount nodes := by
  rw [bindingCount, allStatements_simple h, ← List.singleton_append, ownBindings_append,
    bindingCount]

/-- The blocks of a statement that holds no others come on top of those of the others. -/
lemma blockCount_simple {node : Node} (h : node.body? = none) (nodes : List Node) :
    blockCount (node :: nodes) = ownBlocks [node] + blockCount nodes := by
  rw [blockCount, allStatements_simple h, ← List.singleton_append, ownBlocks_append, blockCount]

/-- A namespace and the statements that it holds come before the other statements. -/
lemma allStatements_namespaceDecl (line : Line) (name body : Node) (nodes : List Node) :
    allStatements (.namespaceDecl line name body :: nodes) =
      [.namespaceDecl line name body] ++
        (allStatements body.bodyStatements ++ allStatements nodes) := by
  rw [allStatements, bodyWithin_eq, List.singleton_append]

/-- A namespace has no bindings beside those of the statements that it holds. -/
lemma bindingCount_namespaceDecl (line : Line) (name body : Node) (nodes : List Node) :
    bindingCount (.namespaceDecl line name body :: nodes) =
      bindingCount body.bodyStatements + bindingCount nodes := by
  have hown : ownBindings [.namespaceDecl line name body] = 0 := rfl
  rw [bindingCount, allStatements_namespaceDecl, ownBindings_append, ownBindings_append, hown,
    Nat.zero_add, bindingCount, bindingCount]

/-- A namespace is one block, beside those of the statements that it holds. -/
lemma blockCount_namespaceDecl (line : Line) (name body : Node) (nodes : List Node) :
    blockCount (.namespaceDecl line name body :: nodes) =
      1 + blockCount body.bodyStatements + blockCount nodes := by
  have hown : ownBlocks [.namespaceDecl line name body] = 1 := rfl
  rw [blockCount, allStatements_namespaceDecl, ownBlocks_append, ownBlocks_append, hown,
    blockCount, blockCount, Nat.add_assoc]

/-! ### Lines of modules -/

/-- The record of a shape has one method for each of the members that are called, and a maker unless
it is a class, and one property for each of the members that are read. -/
lemma Interface.StemsFrom.bindingCount {scope : Scope} {shape : Shape} {interface : Interface}
    (h : interface.StemsFrom scope shape) :
    interface.methods.length + 2 * interface.properties.length = shape.bindingCount := by
  obtain ⟨hproperties, declared, makers, hmethods, hdeclared, hmakers⟩ := h.obeysLaw
  have hproperties' := hproperties.length_eq
  have hdeclared' := hdeclared.length_eq
  rw [← List.countP_eq_length_filter] at hproperties' hdeclared'
  rw [hmethods, List.length_append, ← hproperties', ← hdeclared', Shape.bindingCount]
  cases hkind : shape.kind with
  | classLike =>
    rw [hkind] at hmakers
    rw [hmakers, List.length_nil]
    simp only
    omega
  | interfaceLike =>
    rw [hkind] at hmakers
    obtain ⟨maker, rfl, -⟩ := hmakers
    rw [List.length_singleton]
    simp only
    omega

/-- Nested modules are printed one after another. -/
lemma nestedLines_append (library : String) (first second : List Module) :
    nestedLines library (first ++ second) =
      nestedLines library first ++ nestedLines library second := by
  induction first with
  | nil => rfl
  | cons inner others ih =>
    rw [List.cons_append, nestedLines_cons, nestedLines_cons, ih, List.append_assoc,
      List.cons_append]

/-- In a merged module the lines of both modules are counted. -/
lemma Module.countP_lines_merge (test : String → Bool) (first second : Module) (library : String) :
    ((first.merge second).lines library).countP test =
      (first.lines library).countP test + (second.lines library).countP test := by
  obtain ⟨name, modules, globals, interfaces, methods⟩ := first
  obtain ⟨name', modules', globals', interfaces', methods'⟩ := second
  simp only [merge, lines, List.map_append, List.flatMap_append, nestedLines_append,
    List.countP_append]
  omega

section

variable {test : String → Bool} {declares opens closes : Bool}
  (ht : KindTest test declares opens closes)

include ht

/-- Among the blocks of interfaces as many lines are counted as the interfaces call for. -/
lemma KindTest.countP_interfaces {scope : Scope} {declared : List Shape}
    {interfaces : List Interface}
    (h : List.Forall₂ (Interface.StemsFrom scope) declared interfaces) (library : String) :
    (interfaces.flatMap fun interface => interface.lines library ++ [""]).countP test =
      (declared.map Shape.bindingCount).sum * declares.toNat +
        declared.length * (opens.toNat + closes.toNat) := by
  induction h with
  | nil => simp
  | cons hfirst _ ih =>
    rw [List.flatMap_cons, List.countP_append, ih, ht.countP_interface, hfirst.bindingCount,
      List.map_cons, List.sum_cons, List.length_cons, Nat.add_mul, Nat.succ_mul]
    omega

/-- Among the lines of a statement that holds no others, as many are counted as it calls for. -/
lemma KindTest.countP_simple {scope : Scope} {owner : String} {node : Node}
    (hbody : node.body? = none) {module : Module}
    (h : (simpleStatementOf scope owner node).outcome = .ok module) (library : String) :
    (module.lines library).countP test =
      ownBindings [node] * declares.toNat + ownBlocks [node] * (opens.toNat + closes.toNat) := by
  have hblocks : ownBlocks [node] = (shapes node).length := by
    rw [ownBlocks, List.flatMap_singleton, List.countP_singleton, hbody]
    exact Nat.zero_add _
  have hglobals := (recordsOf_of_simpleStatementOf h).globals.length_eq
  obtain ⟨hmodules, hinterfaces, hmethods⟩ := stemsFrom_of_simpleStatementOf h
  have hfunctions := hmethods.length_eq
  rw [← List.countP_eq_length_filter] at hfunctions
  obtain ⟨name, modules, globals, interfaces, methods⟩ := module
  obtain rfl : modules = [] := hmodules
  rw [Module.lines, nestedLines_nil, List.append_nil, List.countP_append, List.countP_append,
    ht.countP_map Variable.prefix_line, ht.countP_map (Method.prefix_line · library),
    ht.countP_interfaces hinterfaces, hblocks, ownBindings, List.flatMap_singleton,
    List.flatMap_singleton, hglobals, hfunctions, Nat.add_mul, Nat.add_mul]
  exact (Nat.add_assoc _ _ _).symm

/-- **Conservation of declarations.**  Among the lines of what statements add to a module, as many
are counted as the statements call for, at any depth. -/
theorem Module.StemsFrom.countP_lines {scope : Scope} {owner : String} {statements : List Node}
    {module : Module} (h : module.StemsFrom scope owner statements) (library : String) :
    (module.lines library).countP test =
      bindingCount statements * declares.toNat +
        blockCount statements * (opens.toNat + closes.toNat) := by
  induction h with
  | nil =>
    have hbindings : bindingCount [] = 0 := rfl
    have hblocks : blockCount [] = 0 := rfl
    rw [hbindings, hblocks, Nat.zero_mul, Nat.zero_mul]
    rfl
  | @simple scope owner node nodes first rest hbody hfirst _ ih =>
    rw [Module.countP_lines_merge, ht.countP_simple hbody hfirst, ih, bindingCount_simple hbody,
      blockCount_simple hbody, Nat.add_mul, Nat.add_mul]
    omega
  | @namespaceDecl scope owner inner line name body nodes built rest _ _ _ ihbuilt ihrest =>
    have hown : (Module.lines library { name := owner, modules := [built] }).countP test =
        (built.lines library).countP test + (opens.toNat + closes.toNat) := by
      have hempty : Module.lines library { name := owner, modules := [built] } =
          block (moduleHeader built.name) true (built.lines library) ++ [""] := rfl
      rw [hempty, List.countP_append, ht.countP_block, countP_cons_toNat, ht.blank]
      rfl
    rw [Module.countP_lines_merge, hown, ihbuilt, ihrest, bindingCount_namespaceDecl,
      blockCount_namespaceDecl, Nat.add_mul, Nat.add_mul, Nat.add_mul, Nat.one_mul]
    omega

end

end Model

end ReasonBindings
