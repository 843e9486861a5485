import ReasonBindings.Proofs.Model.Interfaces
import ReasonBindings.Proofs.Model.Total
import ReasonBindings.Proofs.Namespace

/-!
# The name of the library in the bindings

The name of the library is the name of the record of a whole file, and the functions
of the file carry it as well.  Of all this only the bindings of constructors show
anything: two runs with different names of the library have the same lines up to the
attribute for the library at the end of these bindings, which names the library at
every depth and not the namespace around the class.
-/

namespace ReasonBindings

open Layout Syntax

namespace Model

/-! ### Bindings of constructors -/

/-- The binding of a constructor at the given depth; the library is named at its end. -/
def Method.constructorLine (method : Method) (library : String) : Nat → String
  | 0 => "external " ++ method.name ++ " : " ++ method.bindingType ++ " = " ++
      ("\"" ++ method.owner ++ "\" [@@bs.new] [@@bs.module \"" ++ library ++ "\"];")
  | depth + 1 => indentation ++ method.constructorLine library depth

/-- A constructor has the binding of a constructor. -/
lemma Method.line_of_ctor {method : Method} (h : method.ctor = true) (library : String) :
    method.line library = method.constructorLine library 0 := by
  have hkind : method.callKind = .constructor := if_pos h
  unfold line linkage
  rw [hkind]
  rfl

/-- The binding of any other method is the same in every library. -/
lemma Method.line_of_not_ctor {method : Method} (h : method.ctor = false)
    (library library' : String) : method.line library = method.line library' := by
  have hlinkage : method.linkage library = method.linkage library' := by
    unfold linkage
    cases hcall : method.callKind with
    | constructor => exact absurd hcall (method.callKind_ne_constructor h)
    | _ => rfl
  unfold line
  rw [hlinkage]

/-- A binding of a constructor is moved one level further in. -/
lemma indentLine_constructorLine (method : Method) (library : String) (depth : Nat) :
    indentLine (method.constructorLine library depth) =
      method.constructorLine library (depth + 1) := by
  have hne : method.constructorLine library depth ≠ "" := by
    intro hempty
    cases depth with
    | zero =>
      have hfirst := (String.append_eq_empty_iff.mp hempty).1
      simp only [String.append_eq_empty_iff] at hfirst
      exact absurd hfirst.1.1.1.1 (by decide)
    | succ depth => exact absurd (String.append_eq_empty_iff.mp hempty).1 (by decide)
  unfold indentLine
  rw [if_neg hne]
  rfl

/-! ### Lines for two libraries -/

/-- Two lines are the same, or bind one of the given constructors at one depth and differ in the
name of the library only. -/
def SameUpToLibrary (methods : List Method) (library library' line line' : String) : Prop :=
  line = line' ∨ ∃ method ∈ methods, method.ctor = true ∧ ∃ depth,
    line = method.constructorLine library depth ∧ line' = method.constructorLine library' depth

variable {library library' : String}

namespace SameUpToLibrary

/-- There may be more constructors. -/
lemma mono {methods others : List Method} {line line' : String}
    (h : SameUpToLibrary methods library library' line line')
    (hsubset : ∀ method ∈ methods, method ∈ others) :
    SameUpToLibrary others library library' line line' := by
  rcases h with hsame | ⟨method, hmem, hctor, depth, hline, hline'⟩
  · exact Or.inl hsame
  · exact Or.inr ⟨method, hsubset method hmem, hctor, depth, hline, hline'⟩

/-- Both lines may be moved one level further in. -/
lemma indentLine {methods : List Method} {line line' : String}
    (h : SameUpToLibrary methods library library' line line') :
    SameUpToLibrary methods library library' (indentLine line) (Layout.indentLine line') := by
  rcases h with hsame | ⟨method, hmem, hctor, depth, hline, hline'⟩
  · exact Or.inl (congrArg _ hsame)
  · refine Or.inr ⟨method, hmem, hctor, depth + 1, ?_, ?_⟩
    · rw [hline, indentLine_constructorLine]
    · rw [hline', indentLine_constructorLine]

/-- A list of lines is the same as itself. -/
lemma refl (methods : List Method) (library library' : String) (lines : List String) :
    List.Forall₂ (SameUpToLibrary methods library library') lines lines :=
  List.forall₂_same.mpr fun _ _ => Or.inl rfl

/-- The bindings of methods differ for the constructors among them only. -/
lemma methods (methods : List Method) (library library' : String) :
    List.Forall₂ (SameUpToLibrary methods library library') (methods.map (·.line library))
      (methods.map (·.line library')) := by
  rw [List.forall₂_map_left_iff, List.forall₂_map_right_iff]
  refine List.forall₂_same.mpr fun method hmem => ?_
  cases hctor : method.ctor with
  | false => exact Or.inl (Method.line_of_not_ctor hctor library library')
  | true =>
    refine Or.inr ⟨method, hmem, hctor, 0, ?_, ?_⟩
    · exact Method.line_of_ctor hctor library
    · exact Method.line_of_ctor hctor library'

/-- A block around lines adds the same lines to both. -/
lemma block {methods : List Method} {lines lines' : List String}
    (h : List.Forall₂ (SameUpToLibrary methods library library') lines lines') (header : String)
    (blank : Bool) :
    List.Forall₂ (SameUpToLibrary methods library library') (block header blank lines)
      (Layout.block header blank lines') := by
  have hindent : List.Forall₂ (SameUpToLibrary methods library library') (indent lines)
      (indent lines') := by
    rw [indent, indent, List.forall₂_map_left_iff, List.forall₂_map_right_iff]
    exact h.imp fun _ _ => indentLine
  refine .cons (Or.inl rfl) (List.rel_append (List.rel_append ?_ hindent) ?_)
  · exact refl _ _ _ _
  · exact refl _ _ _ _

end SameUpToLibrary

/-- The bindings of an interface differ for its constructors only. -/
lemma Interface.lines_sameUpToLibrary (interface : Interface) (library library' : String) :
    List.Forall₂ (SameUpToLibrary interface.methods library library') (interface.lines library)
      (interface.lines library') := by
  refine SameUpToLibrary.block (.cons (Or.inl rfl) (.cons (Or.inl rfl) ?_)) _ _
  exact List.rel_append (SameUpToLibrary.methods _ _ _) (SameUpToLibrary.refl _ _ _ _)

mutual

/-- **Lines for two libraries.**  The bindings of a module differ for the constructors at any depth
only. -/
theorem Module.lines_sameUpToLibrary :
    ∀ (module : Module) (library library' : String),
      List.Forall₂ (SameUpToLibrary module.allMethods library library') (module.lines library)
        (module.lines library')
  | ⟨_, modules, globals, interfaces, methods⟩, library, library' => by
    have hmethods := SameUpToLibrary.methods methods library library'
    have hnested := nestedLines_sameUpToLibrary modules library library'
    have hinterfaces : List.Forall₂
        (SameUpToLibrary (interfaces.flatMap Interface.methods) library library')
        (interfaces.flatMap fun interface => interface.lines library ++ [""])
        (interfaces.flatMap fun interface => interface.lines library' ++ [""]) := by
      refine List.rel_flatMap (R := fun own other => own ∈ interfaces ∧ own = other) ?_ ?_
      · exact List.forall₂_same.mpr fun interface hmem => ⟨hmem, rfl⟩
      · rintro interface _ ⟨hmem, rfl⟩
        have hlines := interface.lines_sameUpToLibrary library library'
        have hown := hlines.imp fun _ _ hsame => hsame.mono fun method hmethod =>
          List.mem_flatMap.mpr ⟨interface, hmem, hmethod⟩
        exact List.rel_append hown (SameUpToLibrary.refl _ _ _ _)
    refine List.rel_append (List.rel_append (List.rel_append ?_ ?_) ?_) ?_
    · exact SameUpToLibrary.refl _ _ _ _
    · refine hmethods.imp fun _ _ hlines => hlines.mono fun method hmem => ?_
      simp [Module.allMethods, hmem]
    · refine hinterfaces.imp fun _ _ hlines => hlines.mono fun method hmem => ?_
      simp only [Module.allMethods, List.mem_append, hmem, or_true, true_or]
    · refine hnested.imp fun _ _ hlines => hlines.mono fun method hmem => ?_
      simp [Module.allMethods, hmem]

/-- The bindings of nested modules differ for the constructors in them only. -/
theorem nestedLines_sameUpToLibrary :
    ∀ (modules : List Module) (library library' : String),
      List.Forall₂ (SameUpToLibrary (nestedMethods modules) library library')
        (nestedLines library modules) (nestedLines library' modules)
  | [], _, _ => .nil
  | inner :: others, library, library' => by
    have hinner := inner.lines_sameUpToLibrary library library'
    have hothers := nestedLines_sameUpToLibrary others library library'
    rw [nestedLines_cons, nestedLines_cons]
    refine List.rel_append (SameUpToLibrary.block ?_ _ _) (.cons (Or.inl rfl) ?_)
    · refine hinner.imp fun _ _ hlines => hlines.mono fun method hmem => ?_
      exact List.mem_append_left _ hmem
    · refine hothers.imp fun _ _ hlines => hlines.mono fun method hmem => ?_
      exact List.mem_append_right _ hmem

end

/-! ### Bindings of constructors at any depth -/

/-- A line inside a block is moved one level further in. -/
lemma mem_block {line : String} {lines : List String} (h : line ∈ lines) (header : String)
    (blank : Bool) : indentLine line ∈ block header blank lines := by
  have hindent : indentLine line ∈ indent lines := List.mem_map_of_mem h
  refine List.mem_cons_of_mem _ (List.mem_append_left _ ?_)
  exact List.mem_append_right _ hindent

mutual

/-- Every constructor of an interface of a module is bound in the bindings of the module. -/
theorem Module.exists_constructorLine :
    ∀ (module : Module) (library : String), ∀ interface ∈ module.allInterfaces,
      ∀ method ∈ interface.methods, method.ctor = true →
        ∃ depth, method.constructorLine library depth ∈ module.lines library
  | ⟨_, modules, globals, interfaces, methods⟩, library => by
    intro interface hinterface method hmethod hctor
    rcases List.mem_append.mp hinterface with hown | hnested
    · have hline : method.line library ∈ interface.bodyLines library := by
        refine List.mem_cons_of_mem _ (List.mem_cons_of_mem _ (List.mem_append_left _ ?_))
        exact List.mem_map_of_mem hmethod
      have hblock := mem_block hline (moduleHeader interface.name) false
      rw [Method.line_of_ctor hctor, indentLine_constructorLine] at hblock
      refine ⟨1, ?_⟩
      rw [Module.lines, List.mem_append, List.mem_append]
      exact Or.inl (Or.inr (List.mem_flatMap.mpr ⟨interface, hown, List.mem_append_left _ hblock⟩))
    · obtain ⟨depth, hline⟩ :=
        nestedLines_exists_constructorLine modules library interface hnested method hmethod hctor
      exact ⟨depth, List.mem_append_right _ hline⟩

/-- Every constructor of an interface of nested modules is bound in their bindings. -/
theorem nestedLines_exists_constructorLine :
    ∀ (modules : List Module) (library : String), ∀ interface ∈ nestedInterfaces modules,
      ∀ method ∈ interface.methods, method.ctor = true →
        ∃ depth, method.constructorLine library depth ∈
          nestedLines library modules
  | [], _ => fun _ hinterface => nomatch hinterface
  | inner :: others, library => by
    intro interface hinterface method hmethod hctor
    rw [nestedLines_cons]
    rcases List.mem_append.mp hinterface with hinner | hothers
    · obtain ⟨depth, hline⟩ :=
        inner.exists_constructorLine library interface hinner method hmethod hctor
      have hblock := mem_block hline (moduleHeader inner.name) true
      rw [indentLine_constructorLine] at hblock
      exact ⟨depth + 1, List.mem_append_left _ hblock⟩
    · obtain ⟨depth, hline⟩ :=
        nestedLines_exists_constructorLine others library interface hothers method hmethod hctor
      exact ⟨depth, List.mem_append_right _ (List.mem_cons_of_mem _ hline)⟩

end

/-! ### Files -/

/-- Two lines of the bindings of a module bind the record of one constructor that the statements
declare, at one depth and in two libraries. -/
def BindOneConstructor (module : Module) (statements : List Node) (library library' : String)
    (line line' : String) : Prop :=
  ∃ shape ∈ allShapes statements, ∃ member ∈ shape.members, member.isConstructor = true ∧
    ∃ method ∈ module.allMethods, method.Constructs member ∧
      ∃ depth, line = method.constructorLine library depth ∧
        line' = method.constructorLine library' depth

/-- The bindings of two records of one file, which have the names of two libraries, agree line by
line but for those of constructors.  They are the same when nothing that the file declares has a
constructor, and every constructor that it declares, at any depth, is bound with the name of the
library. -/
structure DifferInLibrary (statements : List Node) (module module' : Module) : Prop where
  lines : List.Forall₂ (fun line line' => line = line' ∨
    BindOneConstructor module statements module.name module'.name line line')
    (module.lines module.name) (module'.lines module'.name)
  same : (∀ shape ∈ allShapes statements, ∀ member ∈ shape.members,
    member.isConstructor = false) → module.text = module'.text
  named : ∀ shape ∈ allShapes statements, ∀ member ∈ shape.members, member.isConstructor = true →
    ∃ interface ∈ module.allInterfaces, ∃ method ∈ interface.methods, method.Constructs member ∧
      ∃ depth, method.constructorLine module.name depth ∈ module.lines module.name

/-- The record of a file under another name has the same lines for one library. -/
lemma exists_fileOf_relocate {line : Line} {path : String} {statements : List Node}
    {root root' : String} {module : Module} (hroot' : root' ≠ "")
    (h : (statementsOf (Scope.empty.enter (.sourceFile line path statements)) root
      statements).outcome = .ok module) :
    ∃ module', (fileOf (.sourceFile line path statements) (some root')).outcome = .ok module' ∧
      module'.name = root' ∧ ∀ library, module'.lines library = module.lines library := by
  have hctor := (stemsFrom_of_statementsOf h).ctor
  refine ⟨module.relocate root', ?_, rfl, fun library => Module.lines_relocate hctor root' library⟩
  rw [fileOf_outcome hroot', statementsOf_relocate _ root' root]
  exact Traced.map_outcome_eq_ok.mpr ⟨module, h, rfl⟩

/-- Two records of the same statements that have the same lines for one library differ in the
library only. -/
lemma Module.StemsFrom.differInLibrary {scope : Scope} {owner : String} {statements : List Node}
    {module module' : Module} (h : module.StemsFrom scope owner statements)
    (hlines : ∀ library, module'.lines library = module.lines library) :
    DifferInLibrary statements module module' := by
  have hpairs : List.Forall₂ (fun line line' => line = line' ∨
      BindOneConstructor module statements module.name module'.name line line')
      (module.lines module.name) (module'.lines module'.name) := by
    rw [hlines]
    refine (module.lines_sameUpToLibrary module.name module'.name).imp fun line line' hsame => ?_
    rcases hsame with heq | ⟨method, hmem, hctor, depth, hline, hline'⟩
    · exact Or.inl heq
    · obtain ⟨shape, hshape, member, hmember, hown, hconstructs⟩ := h.constructs hmem hctor
      exact Or.inr
        ⟨shape, hshape, member, hmember, hown, method, hmem, hconstructs, depth, hline, hline'⟩
  refine ⟨hpairs, fun hnone => ?_, fun shape hshape member hmember hown => ?_⟩
  · have hequal : List.Forall₂ (· = ·) (module.lines module.name) (module'.lines module'.name) := by
      refine hpairs.imp fun line line' hpair => ?_
      rcases hpair with heq | ⟨shape, hshape, member, hmember, hown, -⟩
      · exact heq
      · rw [hnone shape hshape member hmember] at hown
        cases hown
    rw [List.forall₂_eq_eq_eq] at hequal
    rw [Module.text, Module.text, hequal]
  · obtain ⟨interface, hinterface, hrecords⟩ := exists_right_of_mem h.records hshape
    have hconstructor : member ∈ shape.members.filter Node.isConstructor :=
      List.mem_filter.mpr ⟨hmember, hown⟩
    obtain ⟨method, hmem, hconstructs⟩ :=
      exists_right_of_mem hrecords.constructors hconstructor
    obtain ⟨hmethod, hctor⟩ := List.mem_filter.mp hmem
    obtain ⟨depth, hline⟩ :=
      module.exists_constructorLine module.name interface hinterface method hmethod hctor
    exact ⟨interface, hinterface, method, hmethod, hconstructs, depth, hline⟩

/-- **The name of the library shows in the bindings of constructors only.**  A file that has
bindings in one library has them in every other one, and the two lists of lines have the same length
and agree at each place, but for lines that bind the same constructor and name the library. -/
theorem bindingsOf_libraryName {line : Line} {path : String} {statements : List Node}
    {root root' text : String} (hroot : root ≠ "") (hroot' : root' ≠ "")
    (h : (bindingsOf (.sourceFile line path statements) (some root)).outcome = .ok text) :
    ∃ module module' : Module, module.name = root ∧ module'.name = root' ∧
      (fileOf (.sourceFile line path statements) (some root)).outcome = .ok module ∧
      (fileOf (.sourceFile line path statements) (some root')).outcome = .ok module' ∧
      text = unlines (module.lines root) ∧
      (bindingsOf (.sourceFile line path statements) (some root')).outcome =
        .ok (unlines (module'.lines root')) ∧
      DifferInLibrary statements module module' := by
  obtain ⟨module, hmodule, htext⟩ := Traced.bind_outcome_eq_ok.mp h
  obtain rfl : module.text = text := Except.ok.inj htext
  have hbuilt := hmodule
  rw [fileOf_outcome hroot] at hbuilt
  obtain rfl : module.name = root := name_of_statementsOf hbuilt
  obtain ⟨module', hmodule', rfl, hlines⟩ := exists_fileOf_relocate hroot' hbuilt
  have hdiffer := (stemsFrom_of_statementsOf hbuilt).differInLibrary hlines
  exact ⟨module, module', rfl, rfl, hmodule, hmodule', rfl, bindingsOf_of_fileOf hmodule', hdiffer⟩

/-- A class with a constructor inside of two namespaces, and a function beside them. -/
def librarySample : List Node :=
  [.namespaceDecl none (.identifier none "A") (.namespaceDecl none (.identifier none "B")
      (.block none [.classDecl none (.identifier none "Box") [] []
        [.signature .constructor none .absent .absent false [] [] []] []])),
    .signature .functionDeclaration none (.identifier none "f") (.keywordType none "void") false []
      [] []]

/-- The record of the sample in a library of the given name. -/
def librarySampleModule (library : String) : Module where
  name := library
  modules := [{
    name := "A"
    modules := [{
      name := "B"
      interfaces := [{
        name := "Box"
        kind := .classLike
        methods := [{ name := "make", type := "'a", ctor := true, owner := "Box" }] }] }] }]
  methods := [{ name := "f", type := "unit", static := true, owner := library }]

/-- The bindings of the sample in two libraries differ in the name of the library. -/
theorem bindingsOf_librarySample :
    (bindingsOf (.sourceFile none "index.d.ts" librarySample) (some "one")).outcome =
      .ok (librarySampleModule "one").text ∧
    ∃ module module' : Module, module.name = "one" ∧ module'.name = "two" ∧
      (fileOf (.sourceFile none "index.d.ts" librarySample) (some "one")).outcome = .ok module ∧
      (fileOf (.sourceFile none "index.d.ts" librarySample) (some "two")).outcome = .ok module' ∧
      (librarySampleModule "one").text = unlines (module.lines "one") ∧
      (bindingsOf (.sourceFile none "index.d.ts" librarySample) (some "two")).outcome =
        .ok (unlines (module'.lines "two")) ∧
      DifferInLibrary librarySample module module' :=
  have hbuilt : (fileOf (.sourceFile none "index.d.ts" librarySample) (some "one")).outcome =
      .ok (librarySampleModule "one") := rfl
  have hone : (bindingsOf (.sourceFile none "index.d.ts" librarySample) (some "one")).outcome =
      .ok (librarySampleModule "one").text := bindingsOf_of_fileOf hbuilt
  ⟨hone, bindingsOf_libraryName (by decide) (by decide) hone⟩

end Model

end ReasonBindings
