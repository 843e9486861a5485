import Mathlib.Data.List.Basic
import Mathlib.Data.Option.Basic
import ReasonBindings.Path
import ReasonBindings.Proofs.Model.Texts

/-!
# The outline of printed bindings

The *outline* of a module is its block structure: how many variables it has, how
its methods are called, which interfaces and nested modules it has, and the same
for these.  Names and types may be any texts on one line, also texts that look like
bindings, so the outline is not found by searching for words in the lines.

What cannot be forged is the end of a line: every kind of binding has an ending of
its own, and none of them is the end of another one.  A block reaches from its
opening line to the next closing line at the same level, since the lines between
them are indented, and its first line tells whether it is the block of an interface
or of a module.  `readOutline` reads lines in this way, and `readOutline_lines` says
that it finds the outline of every module in the lines of the module.  So two
modules that are printed alike have the same outline.
-/

namespace ReasonBindings.Model

open Layout

/-! ### Outlines -/

/-- What the printed block of an interface tells about the interface. -/
structure InterfaceOutline where
  name : String
  /-- How the methods are called. -/
  methods : List CallKind
  /-- Which of the properties are optional. -/
  optionals : List Bool
deriving Repr, DecidableEq

/-- The block structure of a module. -/
structure Outline where
  /-- The number of variables. -/
  globals : Nat
  /-- How the methods are called. -/
  methods : List CallKind
  interfaces : List InterfaceOutline
  /-- The nested modules with their names. -/
  modules : List (String × Outline)

/-- The outline of an interface. -/
def Interface.outline (interface : Interface) : InterfaceOutline where
  name := interface.name
  methods := interface.methods.map Method.callKind
  optionals := interface.properties.map (·.optional)

mutual

/-- The outline of a module. -/
def Module.outline : Module → Outline
  | ⟨_, modules, globals, interfaces, methods⟩ =>
    ⟨globals.length, methods.map Method.callKind, interfaces.map Interface.outline,
      nestedOutlines modules⟩

/-- The outlines of nested modules with their names. -/
def nestedOutlines : List Module → List (String × Outline)
  | [] => []
  | inner :: others => (inner.name, inner.outline) :: nestedOutlines others

end

/-! ### Kinds of lines -/

/-- What a line with a binding or an opening brace stands for. -/
inductive LineKind where
  | global
  | method (call : CallKind)
  | setter
  | getter (optional : Bool)
  | opening
deriving Repr, DecidableEq

namespace LineKind

/-- What the lines of a kind end in. -/
def ending : LineKind → String
  | global => " = \"\" [@@bs.val];"
  | method .constructor => "\"];"
  | method .maker => "\"\" [@@bs.obj];"
  | method .receiver => "\"\" [@@bs.send];"
  | method .plain => "\"\";"
  | setter => "\" [@@bs.set];"
  | getter false => "\" [@@bs.get];"
  | getter true => "\" [@@bs.get] [@@bs.return null_undefined_to_opt];"
  | opening => " = \x7b"

/-- The kinds of lines. -/
def all : List LineKind :=
  [global, method .constructor, method .maker, method .receiver, method .plain, setter,
    getter false, getter true, opening]

/-- No kind is left out. -/
lemma mem_all (kind : LineKind) : kind ∈ all := by
  cases kind with
  | method call => cases call <;> decide
  | getter optional => cases optional <;> decide
  | _ => decide

/-- The ending of one kind is not the end of the ending of another one. -/
lemma eq_of_ending_suffix {kind other : LineKind}
    (h : kind.ending.toList <:+ other.ending.toList) : kind = other := by
  have htable : ∀ kind ∈ all, ∀ other ∈ all,
      kind.ending.toList <:+ other.ending.toList → kind = other := by decide +kernel
  exact htable kind kind.mem_all other other.mem_all h

end LineKind

/-- The kind of a line, read off its end. -/
def lineKind? (line : String) : Option LineKind :=
  LineKind.all.find? fun kind => kind.ending.toList.isSuffixOf line.toList

/-- Whatever stands before the ending of a kind of lines, the line is of that kind. -/
lemma lineKind?_append (start : String) (kind : LineKind) :
    lineKind? (start ++ kind.ending) = some kind := by
  have hends : kind.ending.toList <:+ (start ++ kind.ending).toList := by
    rw [String.toList_append]
    exact List.suffix_append _ _
  cases hfound : lineKind? (start ++ kind.ending) with
  | none =>
    have hnot := List.find?_eq_none.mp hfound kind kind.mem_all
    exact absurd (List.isSuffixOf_iff_suffix.mpr hends) hnot
  | some other =>
    have hother : other.ending.toList <:+ (start ++ kind.ending).toList :=
      List.isSuffixOf_iff_suffix.mp
        (List.find?_some (p := fun k : LineKind =>
          k.ending.toList.isSuffixOf (start ++ kind.ending).toList) hfound)
    rcases List.suffix_or_suffix_of_suffix hother hends with h | h
    · rw [LineKind.eq_of_ending_suffix h]
    · rw [LineKind.eq_of_ending_suffix h]

/-- The binding of a variable is recognized. -/
lemma Variable.lineKind?_line (value : Variable) : lineKind? value.line = some .global :=
  lineKind?_append _ .global

/-- The binding of a method is recognized together with the way in which the method is called. -/
lemma Method.lineKind?_line (method : Method) (library : String) :
    lineKind? (method.line library) = some (.method method.callKind) := by
  have hlinkage : ∃ start,
      method.linkage library = start ++ (LineKind.method method.callKind).ending := by
    unfold Method.linkage
    cases method.callKind with
    | constructor => exact ⟨_, rfl⟩
    | maker => exact ⟨"", rfl⟩
    | receiver => exact ⟨"", rfl⟩
    | plain => exact ⟨"", rfl⟩
  obtain ⟨start, hstart⟩ := hlinkage
  rw [Method.line, hstart, ← String.append_assoc, lineKind?_append]

/-- The binding that sets a property is recognized. -/
lemma Property.lineKind?_setter (property : Property) :
    lineKind? property.setter = some .setter :=
  lineKind?_append _ .setter

/-- The binding that gets a property is recognized together with the optional flag. -/
lemma Property.lineKind?_getter (property : Property) :
    lineKind? property.getter = some (.getter property.optional) := by
  have hgetter : ∃ start,
      property.getter = start ++ (LineKind.getter property.optional).ending := by
    unfold Property.getter
    cases property.optional with
    | false => exact ⟨_, by rw [String.append_assoc, String.append_assoc]; rfl⟩
    | true => exact ⟨_, by rw [String.append_assoc, String.append_assoc]; rfl⟩
  obtain ⟨start, hstart⟩ := hgetter
  rw [hstart, lineKind?_append]

/-- The opening line of a block is recognized. -/
lemma lineKind?_opening (header : String) : lineKind? (opening header) = some .opening :=
  lineKind?_append header .opening

/-! ### Reading lines -/

/-- The values that can be read from the lines at the beginning, and the lines after them. -/
def readWhile {α : Type} (read : String → Option α) : List String → List α × List String
  | [] => ([], [])
  | line :: rest =>
    match read line with
    | some value => (value :: (readWhile read rest).1, (readWhile read rest).2)
    | none => ([], line :: rest)

/-- Reading takes no lines from elsewhere. -/
lemma length_readWhile_le {α : Type} (read : String → Option α) (lines : List String) :
    (readWhile read lines).2.length ≤ lines.length := by
  induction lines with
  | nil => exact Nat.le_refl _
  | cons line rest ih =>
    rw [readWhile]
    split
    · exact Nat.le_succ_of_le ih
    · exact Nat.le_refl _

/-- Printed items are read back up to the first line that is none. -/
lemma readWhile_append {α β : Type} {read : String → Option α} {print : β → String} {value : β → α}
    (h : ∀ item, read (print item) = some (value item)) (items : List β) {rest : List String}
    (hrest : ∀ line ∈ rest.head?, read line = none) :
    readWhile read (items.map print ++ rest) = (items.map value, rest) := by
  induction items with
  | nil =>
    cases rest with
    | nil => rfl
    | cons line rest =>
      have hline : read line = none := hrest line rfl
      simp [readWhile, hline]
  | cons item items ih =>
    rw [List.map_cons, List.cons_append, readWhile, h item]
    simp [ih]

/-- Whether a line is the binding of a variable. -/
def global? (line : String) : Option Unit :=
  if lineKind? line = some .global then some () else none

/-- How the method is called that a line is the binding of. -/
def callKind? (line : String) : Option CallKind :=
  match lineKind? line with
  | some (.method call) => some call
  | _ => none

/-- Whether the property is optional that a line gets. -/
def optionalFlag? (line : String) : Option Bool :=
  match lineKind? line with
  | some (.getter optional) => some optional
  | _ => none

/-- Which properties are optional in a list of bindings of properties. -/
def readProperties : List String → Option (List Bool)
  | [] => some []
  | setter :: getter :: blank :: rest => do
    guard (lineKind? setter = some .setter ∧ blank = "")
    let optional ← optionalFlag? getter
    (optional :: ·) <$> readProperties rest
  | _ => none

/-- The outline of an interface with the given bindings in its block. -/
def readInterface (name : String) (bindings : List String) : Option InterfaceOutline := do
  let methods := readWhile callKind? bindings
  let optionals ← readProperties methods.2
  return ⟨name, methods.1, optionals⟩

/-- The name in the opening line of a block. -/
def blockName? (line : String) : Option String := do
  let named ← line.toList.dropPrefix? "let module ".toList
  let name ← Path.dropEnding? LineKind.opening.ending.toList named
  return String.ofList name

/-- A line one level further out. -/
def unindentLine (line : String) : String :=
  String.ofList (line.toList.drop indentation.length)

/-- The lines between the opening line of a block and its closing line, one level further out. -/
def blockBody (rest : List String) : List String :=
  (rest.takeWhile (· != closing)).map unindentLine

/-- The closing line of a block and the lines after it. -/
def blockEnd (rest : List String) : List String :=
  rest.dropWhile (· != closing)

mutual

/-- The outline of a module with the given bindings in its block. -/
def readOutline (lines : List String) : Option Outline := do
  let globals := readWhile global? lines
  let methods := readWhile callKind? globals.2
  let blocks ← readBlocks methods.2
  return ⟨globals.1.length, methods.1, blocks.1, blocks.2⟩
termination_by (lines.length, 1)
decreasing_by
  have hglobals := length_readWhile_le global? lines
  have hmethods := length_readWhile_le callKind? (readWhile global? lines).2
  simp only [Prod.lex_def]
  omega

/-- The outlines of a list of blocks, each with an empty line after it: those of interfaces, and
those of modules with their names.  The block of a module begins with an empty line and that of an
interface with its opaque type. -/
def readBlocks : List String → Option (List InterfaceOutline × List (String × Outline))
  | [] => some ([], [])
  | header :: rest => do
    guard ((blockEnd rest).take 2 = [closing, ""])
    let name ← blockName? header
    if (blockBody rest).head? = some "" then
      let inner ← readOutline (blockBody rest).tail
      let others ← readBlocks ((blockEnd rest).drop 2)
      return (others.1, (name, inner) :: others.2)
    else
      guard ((blockBody rest).take 2 = ["type t;", ""])
      let interface ← readInterface name ((blockBody rest).drop 2)
      let others ← readBlocks ((blockEnd rest).drop 2)
      return (interface :: others.1, others.2)
termination_by lines => (lines.length, 0)
decreasing_by
  all_goals
    have hbody : (blockBody rest).length ≤ rest.length := by
      rw [blockBody, List.length_map]
      exact (List.takeWhile_sublist _).length_le
    have hend : (blockEnd rest).length ≤ rest.length := (List.dropWhile_sublist _).length_le
    simp only [Prod.lex_def, List.length_cons, List.length_tail, List.length_drop]
    omega

end

/-! ### Reading printed bindings -/

/-- Indentation can be undone. -/
lemma unindentLine_indentLine (line : String) : unindentLine (indentLine line) = line := by
  unfold indentLine unindentLine
  by_cases hline : line = ""
  · rw [if_pos hline, hline]
    rfl
  · rw [if_neg hline, String.toList_append]
    have hdrop : (indentation.toList ++ line.toList).drop indentation.length = line.toList :=
      List.drop_left' rfl
    rw [hdrop, String.ofList_toList]

/-- An indented line is no closing line. -/
lemma indentLine_ne_closing (line : String) : indentLine line ≠ closing := by
  unfold indentLine
  split
  · decide
  · intro h
    have hchars : indentation.toList ++ line.toList = closing.toList := by
      rw [← String.toList_append, h]
    have hfirst : ' ' = '\x7d' := (List.cons.inj hchars).1
    exact absurd hfirst (by decide)

/-- No line between the opening and the closing line of a block is taken for the closing line. -/
lemma bne_closing_of_mem_indent {body : List String} :
    ∀ line ∈ indent body, (line != closing) = true := by
  intro line hline
  obtain ⟨inner, -, rfl⟩ := List.mem_map.mp hline
  exact bne_iff_ne.mpr (indentLine_ne_closing inner)

/-- The body of a block is found between its opening and its closing line. -/
lemma blockBody_indent (body rest : List String) :
    blockBody (indent body ++ closing :: rest) = body := by
  have hinner : ∀ line ∈ indent body, (line != closing) = true := bne_closing_of_mem_indent
  have htake : (indent body ++ closing :: rest).takeWhile (· != closing) = indent body := by
    rw [List.takeWhile_append_of_pos hinner]
    simp
  rw [blockBody, htake, indent, List.map_map]
  exact (List.map_congr_left fun line _ => unindentLine_indentLine line).trans (List.map_id body)

/-- What follows a block is found behind its closing line. -/
lemma blockEnd_indent (body rest : List String) :
    blockEnd (indent body ++ closing :: rest) = closing :: rest := by
  rw [blockEnd, List.dropWhile_append_of_pos bne_closing_of_mem_indent]
  simp

/-- The name of a block is found in its opening line. -/
lemma blockName?_opening (name : String) :
    blockName? (opening (moduleHeader name)) = some name := by
  have hline : (opening (moduleHeader name)).toList =
      "let module ".toList ++ (name.toList ++ LineKind.opening.ending.toList) := by
    rw [opening, moduleHeader, String.toList_append, String.toList_append, List.append_assoc]
    rfl
  have hname : Path.dropEnding? LineKind.opening.ending.toList
      (name.toList ++ LineKind.opening.ending.toList) = some name.toList :=
    Path.dropEnding?_append _ _
  have hnamed : (opening (moduleHeader name)).toList.dropPrefix? "let module ".toList =
      some (name.toList ++ LineKind.opening.ending.toList) :=
    List.dropPrefix?_eq_some_iff.mpr ⟨_, hline, beq_self_eq_true _⟩
  simp only [blockName?, hnamed, hname, Option.bind_eq_bind, Option.bind_some, Option.pure_def,
    String.ofList_toList]

/-- The bindings of properties are read back as the optional flags of the properties. -/
lemma readProperties_lines (properties : List Property) :
    readProperties (properties.flatMap Property.lines) = some (properties.map (·.optional)) := by
  induction properties with
  | nil => rfl
  | cons property properties ih =>
    have hflag : optionalFlag? property.getter = some property.optional := by
      rw [optionalFlag?, property.lineKind?_getter]
    rw [List.flatMap_cons, Property.lines, List.cons_append, List.cons_append, List.cons_append,
      List.nil_append, readProperties, property.lineKind?_setter, hflag, ih]
    rfl

/-- The bindings in the block of an interface are read back as the outline of the interface. -/
lemma readInterface_bindings (interface : Interface) (library : String) :
    readInterface interface.name (interface.methods.map (·.line library) ++
      interface.properties.flatMap Property.lines) = some interface.outline := by
  have hkind : ∀ method : Method, callKind? (method.line library) = some method.callKind := by
    intro method
    rw [callKind?, method.lineKind?_line]
  have hstop : ∀ line ∈ (interface.properties.flatMap Property.lines).head?,
      callKind? line = none := by
    cases interface.properties with
    | nil => simp
    | cons property properties =>
      rintro line hline
      obtain rfl : property.setter = line := Option.some.inj hline
      rw [callKind?, property.lineKind?_setter]
  rw [readInterface, readWhile_append hkind _ hstop]
  dsimp only
  rw [readProperties_lines]
  rfl

/-- A block is read by its name, the lines of its body and the blocks behind it. -/
lemma readBlocks_block (name : String) (blank : Bool) (body rest : List String) :
    readBlocks (block (moduleHeader name) blank body ++ "" :: rest) =
      if ((if blank then [""] else []) ++ body).head? = some "" then do
        let inner ← readOutline ((if blank then [""] else []) ++ body).tail
        let others ← readBlocks rest
        return (others.1, (name, inner) :: others.2)
      else do
        guard (((if blank then [""] else []) ++ body).take 2 = ["type t;", ""])
        let interface ← readInterface name (((if blank then [""] else []) ++ body).drop 2)
        let others ← readBlocks rest
        return (interface :: others.1, others.2) := by
  have hlines : block (moduleHeader name) blank body ++ "" :: rest =
      opening (moduleHeader name) :: (indent ((if blank then [""] else []) ++ body) ++
        closing :: "" :: rest) := by
    cases blank with
    | false => simp [block]
    | true => simp [block, indentLine]
  rw [hlines, readBlocks, blockBody_indent, blockEnd_indent, blockName?_opening]
  rfl

/-- The block of an interface is read as the outline of the interface. -/
lemma readBlocks_interface (interface : Interface) (library : String) (rest : List String) :
    readBlocks (interface.lines library ++ "" :: rest) =
      (readBlocks rest).map fun others => (interface.outline :: others.1, others.2) := by
  have hbody : interface.bodyLines library = "type t;" :: "" ::
      (interface.methods.map (·.line library) ++ interface.properties.flatMap Property.lines) := rfl
  have hhead : ¬ some "type t;" = some "" := by decide
  rw [Interface.lines, readBlocks_block, hbody]
  simp only [Bool.false_eq_true, if_false, List.nil_append, List.head?_cons, if_neg hhead,
    List.take_succ_cons, List.take_zero, List.drop_succ_cons, List.drop_zero,
    readInterface_bindings]
  cases readBlocks rest <;> rfl

/-- The block of a module is read as the outline of the bindings in it. -/
lemma readBlocks_module (name : String) (body rest : List String) :
    readBlocks (block (moduleHeader name) true body ++ "" :: rest) = do
      let inner ← readOutline body
      let others ← readBlocks rest
      return (others.1, (name, inner) :: others.2) := by
  rw [readBlocks_block]
  simp

/-- The blocks of interfaces are read as the outlines of the interfaces. -/
lemma readBlocks_interfaces (interfaces : List Interface) (library : String)
    (rest : List String) :
    readBlocks (interfaces.flatMap (fun interface => interface.lines library ++ [""]) ++ rest) =
      (readBlocks rest).map fun others =>
        (interfaces.map Interface.outline ++ others.1, others.2) := by
  induction interfaces with
  | nil =>
    rw [List.flatMap_nil, List.nil_append]
    cases readBlocks rest <;> rfl
  | cons interface interfaces ih =>
    rw [List.flatMap_cons, List.append_assoc, List.append_assoc, List.singleton_append,
      readBlocks_interface, ih]
    cases readBlocks rest <;> rfl

/-- The blocks of a module begin with an opening line. -/
lemma lineKind?_head_blocks (library : String) (interfaces : List Interface)
    (modules : List Module) :
    ∀ line ∈ (interfaces.flatMap (fun interface => interface.lines library ++ [""]) ++
      nestedLines library modules).head?, lineKind? line = some .opening := by
  cases interfaces with
  | cons interface interfaces =>
    intro line hline
    obtain rfl : opening (moduleHeader interface.name) = line := Option.some.inj hline
    exact lineKind?_opening _
  | nil =>
    cases modules with
    | nil => simp
    | cons inner others =>
      intro line hline
      obtain rfl : opening (moduleHeader inner.name) = line := Option.some.inj hline
      exact lineKind?_opening _

mutual

/-- The lines of a module are read as the outline of the module. -/
theorem readOutline_lines (library : String) :
    ∀ module : Module, readOutline (module.lines library) = some module.outline
  | ⟨name, modules, globals, interfaces, methods⟩ => by
    have hglobal : ∀ value : Variable, global? value.line = some () := by
      intro value
      rw [global?, value.lineKind?_line, if_pos rfl]
    have hkind : ∀ method : Method, callKind? (method.line library) = some method.callKind := by
      intro method
      rw [callKind?, method.lineKind?_line]
    have hblocks := lineKind?_head_blocks library interfaces modules
    set blocks := interfaces.flatMap (fun interface => interface.lines library ++ [""]) ++
      nestedLines library modules with hblocks_def
    have hmethods : readWhile callKind? (methods.map (·.line library) ++ blocks) =
        (methods.map Method.callKind, blocks) := by
      refine readWhile_append hkind methods fun line hline => ?_
      rw [callKind?, hblocks line hline]
    have hglobals : readWhile global? (globals.map Variable.line ++
        (methods.map (·.line library) ++ blocks)) =
          (globals.map fun _ => (), methods.map (·.line library) ++ blocks) := by
      refine readWhile_append hglobal globals fun line hline => ?_
      have hother : lineKind? line ≠ some .global := by
        cases methods with
        | nil => simp [hblocks line hline]
        | cons method methods =>
          obtain rfl : method.line library = line := Option.some.inj hline
          simp [method.lineKind?_line]
      rw [global?, if_neg hother]
    have hlines : Module.lines library ⟨name, modules, globals, interfaces, methods⟩ =
        globals.map Variable.line ++ (methods.map (·.line library) ++ blocks) := by
      rw [Module.lines, hblocks_def, List.append_assoc, List.append_assoc]
    have hread : readBlocks blocks =
        some (interfaces.map Interface.outline, nestedOutlines modules) := by
      rw [hblocks_def, readBlocks_interfaces, readBlocks_nestedLines library modules]
      simp
    rw [hlines, readOutline, hglobals]
    simp [hmethods, hread, Module.outline]

/-- The blocks of nested modules are read as the outlines of these modules. -/
theorem readBlocks_nestedLines (library : String) :
    ∀ modules : List Module, readBlocks (nestedLines library modules) =
      some ([], nestedOutlines modules)
  | [] => by rw [nestedLines_nil, readBlocks, nestedOutlines]
  | inner :: others => by
    rw [nestedLines_cons, readBlocks_module, readOutline_lines library inner,
      readBlocks_nestedLines library others]
    rfl

end

/-! ### Texts with the same bindings -/

/-- The outline of a module with the given printed text. -/
def outlineOfText? (text : String) : Option Outline :=
  readOutline (linesOf text)

/-- **Printing can be undone up to the outline.**  The outline of a module whose texts are on one
line each is found in the printed text of the module. -/
theorem outlineOfText?_text {module : Module} (h : ∀ text ∈ module.texts, SingleLine text) :
    outlineOfText? module.text = some module.outline := by
  have hlibrary : SingleLine module.name := h _ module.name_mem_texts
  rw [outlineOfText?, Module.text, linesOf_unlines (module.singleLine_lines hlibrary h),
    readOutline_lines]

/-- **The printed text determines the block structure.**  Every printed module can be read back as
its outline, with each block closed where it was opened and the blocks of interfaces told apart from
those of modules; hence two modules with the same printed text have the same outline. -/
theorem outline_eq_of_text_eq :
    (∀ module : Module, (∀ text ∈ module.texts, SingleLine text) →
      outlineOfText? module.text = some module.outline) ∧
    ∀ first second : Module, (∀ text ∈ first.texts, SingleLine text) →
      (∀ text ∈ second.texts, SingleLine text) → first.text = second.text →
        first.outline = second.outline := by
  refine ⟨fun module h => outlineOfText?_text h, fun first second hfirst hsecond htext => ?_⟩
  have hread : some first.outline = some second.outline :=
    calc some first.outline = outlineOfText? first.text := (outlineOfText?_text hfirst).symm
      _ = outlineOfText? second.text := by rw [htext]
      _ = some second.outline := outlineOfText?_text hsecond
  exact Option.some.inj hread

/-- A file with a namespace that has a variable and an interface with an optional property. -/
def nestedSample (value : Variable) : Module where
  name := "library"
  modules := [{
    name := "A"
    globals := [value]
    interfaces := [{
      name := "I"
      properties := [⟨"p", "string", true, false, none⟩]
      methods := [{ name := "make", type := "I", maker := true }] }] }]

/-- Texts do not tell where a name ends and a type begins, but the outlines are the same. -/
theorem outline_nestedSample :
    (nestedSample ⟨"a : b", "c", true⟩).text = (nestedSample ⟨"a", "b : c", true⟩).text ∧
    (nestedSample ⟨"a : b", "c", true⟩).outline = (nestedSample ⟨"a", "b : c", true⟩).outline :=
  have htext : (nestedSample ⟨"a : b", "c", true⟩).text =
      (nestedSample ⟨"a", "b : c", true⟩).text := rfl
  ⟨htext, outline_eq_of_text_eq.2 _ _ (by decide) (by decide) htext⟩

end ReasonBindings.Model
