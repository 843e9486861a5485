import ReasonBindings.Proofs.Model.BuiltTexts
import ReasonBindings.Proofs.Model.Merging
import ReasonBindings.Proofs.Model.Tally
import ReasonBindings.Proofs.Model.Total
import ReasonBindings.Proofs.Path

/-!
# The arrangement of bindings

Between the lines that open and close a block there are the bindings of its variables,
then those of its functions, then the blocks of its interfaces, and then those of its
namespaces, each group in the order in which the statements declare them.  The
interface of a variable whose type is written in place stands where the statement of the
variable is.  Together with the numbers of lines of each kind this says that no
declaration is lost, printed twice or moved out of its place.
-/

namespace ReasonBindings

open Layout Syntax

namespace Model

/-! ### Bindings of declarations -/

/-- The line binds a declared variable. -/
def BindsVariable (scope : Scope) (declaration : Node) (line : String) : Prop :=
  ∃ value : Variable, value.RecordOf scope declaration ∧ line = value.line

/-- The line binds a function of the module named `owner`. -/
def BindsFunction (library : String) (scope : Scope) (owner : String) (declaration : Node)
    (line : String) : Prop :=
  ∃ method : Method, method.RecordOf scope owner declaration ∧ line = method.line library

/-- The lines are the block of a declared interface, with the bindings of its methods and then those
of its properties. -/
def BindsInterface (library : String) (scope : Scope) (declared : Node × Shape)
    (lines : List String) : Prop :=
  ∃ interface : Interface, interface.RecordOf scope declared ∧ lines = interface.lines library

mutual

/-- The lines are the bindings of statements that stand in the module named `owner`: variables,
functions, interfaces and namespaces, each of these in the order of the statements. -/
inductive Printed (library : String) : Scope → String → List Node → List String → Prop
  | groups {scope : Scope} {owner : String} {statements : List Node}
    {values functions namespaces : List String} {interfaces : List (List String)} :
    List.Forall₂ (BindsVariable scope) (statements.flatMap Node.declaredVariables) values →
    List.Forall₂ (BindsFunction library scope owner) (statements.filter Node.declaresFunction)
      functions →
    List.Forall₂ (BindsInterface library scope) (statements.flatMap interfaceDeclarations)
      interfaces →
    PrintedNamespaces library scope (statements.filter (·.body?.isSome)) namespaces →
    Printed library scope owner statements
      (values ++ functions ++ interfaces.flatMap (· ++ [""]) ++ namespaces)

/-- The lines are the blocks of namespaces one after another, each with the bindings of the
statements that the namespace holds. -/
inductive PrintedNamespaces (library : String) : Scope → List Node → List String → Prop
  | nil {scope : Scope} : PrintedNamespaces library scope [] []
  | cons {scope : Scope} {node : Node} {nodes : List Node} {inner : String}
    {lines rest : List String} :
    node.requiredName.outcome = .ok inner →
    Printed library (scope.enter node) inner node.heldStatements lines →
    PrintedNamespaces library scope nodes rest →
    PrintedNamespaces library scope (node :: nodes)
      (block (moduleHeader inner) true lines ++ "" :: rest)

end

/-- The blocks of two lists of namespaces. -/
lemma PrintedNamespaces.append {library : String} {scope : Scope} {first second : List Node}
    {lines others : List String} (hfirst : PrintedNamespaces library scope first lines)
    (hsecond : PrintedNamespaces library scope second others) :
    PrintedNamespaces library scope (first ++ second) (lines ++ others) := by
  induction first generalizing lines with
  | nil =>
    cases hfirst
    exact hsecond
  | cons node nodes ih =>
    cases hfirst with
    | cons hname hheld hrest =>
      rw [List.append_assoc, List.cons_append, List.cons_append]
      exact .cons hname hheld (ih hrest)

/-! ### Printed modules -/

/-- Each list of records of the module is printed as the bindings of what the statements declare. -/
structure Module.PrintsGroups (library : String) (scope : Scope) (owner : String)
    (statements : List Node) (module : Module) : Prop where
  values : List.Forall₂ (BindsVariable scope) (statements.flatMap Node.declaredVariables)
    (module.globals.map Variable.line)
  functions : List.Forall₂ (BindsFunction library scope owner)
    (statements.filter Node.declaresFunction) (module.methods.map (·.line library))
  interfaces : List.Forall₂ (BindsInterface library scope)
    (statements.flatMap interfaceDeclarations) (module.interfaces.map (·.lines library))
  namespaces : PrintedNamespaces library scope (statements.filter (·.body?.isSome))
    (nestedLines library module.modules)

namespace Module.PrintsGroups

variable {library : String} {scope : Scope} {owner : String} {statements others : List Node}
  {module other : Module}

/-- The lists of records make up the lines of the module. -/
lemma printed (h : module.PrintsGroups library scope owner statements) :
    Printed library scope owner statements (module.lines library) := by
  obtain ⟨name, modules, globals, interfaces, methods⟩ := module
  have hinterfaces : interfaces.flatMap (fun interface => interface.lines library ++ [""]) =
      (interfaces.map (·.lines library)).flatMap (· ++ [""]) := by
    rw [List.flatMap_map]
  rw [Module.lines, hinterfaces]
  exact .groups h.values h.functions h.interfaces h.namespaces

/-- What statements add comes behind what the statements before them add. -/
lemma merge (h : module.PrintsGroups library scope owner statements)
    (hother : other.PrintsGroups library scope owner others) :
    (module.merge other).PrintsGroups library scope owner (statements ++ others) := by
  refine ⟨?_, ?_, ?_, ?_⟩
  · rw [List.flatMap_append, Module.merge, List.map_append]
    exact List.rel_append h.values hother.values
  · rw [List.filter_append, Module.merge, List.map_append]
    exact List.rel_append h.functions hother.functions
  · rw [List.flatMap_append, Module.merge, List.map_append]
    exact List.rel_append h.interfaces hother.interfaces
  · rw [List.filter_append, Module.merge, nestedLines_append]
    exact h.namespaces.append hother.namespaces

/-- What a statement that holds no others adds is printed as the bindings of the statement. -/
lemma of_recordsOf {node : Node} (hbody : node.body? = none)
    (h : module.RecordsOf scope owner node) : module.PrintsGroups library scope owner [node] := by
  have hnone : [node].filter (·.body?.isSome) = [] := by
    rw [List.filter_singleton, hbody]
    rfl
  refine ⟨?_, ?_, ?_, ?_⟩
  · rw [List.flatMap_singleton, List.forall₂_map_right_iff]
    exact h.globals.imp fun _ value hvalue => ⟨value, hvalue, rfl⟩
  · rw [List.forall₂_map_right_iff]
    exact h.methods.imp fun _ method hmethod => ⟨method, hmethod, rfl⟩
  · rw [List.flatMap_singleton, List.forall₂_map_right_iff]
    exact h.interfaces.imp fun _ interface hinterface => ⟨interface, hinterface, rfl⟩
  · rw [hnone, h.modules]
    exact .nil

end Module.PrintsGroups

/-- **Bindings keep the order of declarations.**  The lines of what statements add to a module are
the bindings of the statements, group by group, through all namespaces. -/
theorem Module.StemsFrom.printsGroups {scope : Scope} {owner : String} {statements : List Node}
    {module : Module} (h : module.StemsFrom scope owner statements) (library : String) :
    module.PrintsGroups library scope owner statements := by
  induction h with
  | nil => exact ⟨.nil, .nil, .nil, .nil⟩
  | simple hbody hfirst _ ih =>
    have hrecords := recordsOf_of_simpleStatementOf hfirst
    exact (PrintsGroups.of_recordsOf hbody hrecords).merge ih
  | @namespaceDecl scope owner _ line name body _ built _ hinner hbuilt _ ihbuilt ihrest =>
    -- The namespace alone is printed as one block, and it has no bindings beside the block.
    have hown : Module.PrintsGroups library scope owner [.namespaceDecl line name body]
        { name := owner, modules := [built] } := by
      refine ⟨.nil, .nil, .nil, ?_⟩
      rw [nestedLines_cons, hbuilt.name_eq]
      exact .cons hinner ihbuilt.printed .nil
    exact hown.merge ihrest

/-! ### Names of libraries -/

/-- The name of the module of a path is on one line when the path is. -/
lemma singleLine_moduleName {path : String} (h : SingleLine path) :
    SingleLine (Path.moduleName path) := by
  intro hmem
  rw [Path.moduleName, String.toList_ofList] at hmem
  have hlast := Path.mem_of_mem_stem hmem
  rw [Path.lastPart, List.getLastD_eq_getLast?] at hlast
  cases hpart : (Path.rawParts path.toList).getLast? with
  | none => simp [hpart] at hlast
  | some part =>
    rw [hpart, Option.getD_some] at hlast
    exact h (Path.mem_of_mem_pieces (List.mem_of_getLast? hpart) hlast)

/-- The name of a library is on one line when the path of its file and the given name are. -/
lemma singleLine_libraryName {path : String} {name : Option String} (hpath : SingleLine path)
    (hname : ∀ given ∈ name, SingleLine given) : SingleLine (libraryName path name) := by
  unfold libraryName
  split
  · split
    · exact singleLine_moduleName hpath
    · exact hname _ rfl
  · exact singleLine_moduleName hpath

/-! ### Files -/

/-- **No declaration is lost, printed twice or moved.**  A well-typed declaration file without line
feeds has bindings.  As many of their lines declare external values as there are variables,
functions, members to call and makers at any depth, and two for each property.  As many lines open
the block of a module as there are namespaces and interfaces at any depth, and as many close one.
Inside of each block the bindings keep the order of the declarations. -/
theorem bindings_conserve_declarations {line : Line} {path : String} {statements : List Node}
    {name : Option String} (hfile : (Node.sourceFile line path statements).WellTyped)
    (hunbroken : (Node.sourceFile line path statements).Unbroken)
    (hname : ∀ given ∈ name, SingleLine given) :
    ∃ text, (bindingsOf (.sourceFile line path statements) name).outcome = .ok text ∧
      (linesOf text).countP declaresExternal = bindingCount statements ∧
      (linesOf text).countP opensModule = blockCount statements ∧
      (linesOf text).countP closesBlock = blockCount statements ∧
      Printed (libraryName path name) Scope.empty (libraryName path name) statements
        (linesOf text) := by
  obtain ⟨module, hbuilt, hbindings⟩ := exists_bindingsOf hfile name
  rw [fileOf_outcome_eq] at hbuilt
  have hstems := stemsFrom_of_statementsOf hbuilt
  have hpath : SingleLine path := hunbroken path (by simp [Node.texts])
  have hlibrary : SingleLine (libraryName path name) := singleLine_libraryName hpath hname
  have htexts := hstems.singleLine (hunbroken.statements? rfl) hlibrary
  have hlines : linesOf module.text = module.lines (libraryName path name) := by
    rw [Module.text, hstems.name_eq]
    exact linesOf_unlines (module.singleLine_lines hlibrary htexts)
  refine ⟨module.text, hbindings, ?_, ?_, ?_, ?_⟩
  · simp [hlines, hstems.countP_lines kindTest_declaresExternal]
  · simp [hlines, hstems.countP_lines kindTest_opensModule]
  · simp [hlines, hstems.countP_lines kindTest_closesBlock]
  · rw [hlines]
    exact (hstems.printsGroups _).printed

/-- A namespace inside of another one with a class, an alias of an object type and a function, and
beside it a variable with an object type between two interfaces. -/
def arrangedSample : List Node :=
  [.interfaceDecl none (.identifier none "First") [] []
      [.signature .callSignature none .absent (.keywordType none "string") false [] [] []],
    .namespaceDecl none (.identifier none "A") (.namespaceDecl none (.identifier none "B")
      (.block none
        [.signature .functionDeclaration none (.identifier none "f") (.keywordType none "void")
            false [] [] [],
          .classDecl none (.identifier none "Box") [] []
            [.signature .constructor none .absent .absent false [] [] [],
              .field .propertyDeclaration none (.identifier none "size")
                (.keywordType none "number") false []] [],
          .aliasDecl none (.identifier none "Point") [] (.objectType none
            [.field .propertySignature none (.identifier none "x") (.keywordType none "number")
              true []])])),
    .variableStatement none
      [.variableDecl none (.identifier none "settings") (.objectType none
          [.signature .indexSignature none .absent (.keywordType none "string") false [] []
            [.parameter none (.identifier none "key") (.keywordType none "string") false false]]),
        .variableDecl none (.identifier none "count") (.keywordType none "number")],
    .interfaceDecl none (.identifier none "Last") [] [] []]

/-- The bindings of the sample declare fifteen external values in seven blocks. -/
theorem bindings_arrangedSample :
    (Node.sourceFile none "index.d.ts" arrangedSample).WellTyped ∧
    (Node.sourceFile none "index.d.ts" arrangedSample).Unbroken ∧
    bindingCount arrangedSample = 15 ∧ blockCount arrangedSample = 7 ∧
    ∃ text, (bindingsOf (.sourceFile none "index.d.ts" arrangedSample) (some "library")).outcome =
        .ok text ∧
      (linesOf text).countP declaresExternal = bindingCount arrangedSample ∧
      (linesOf text).countP opensModule = blockCount arrangedSample ∧
      (linesOf text).countP closesBlock = blockCount arrangedSample ∧
      Printed (libraryName "index.d.ts" (some "library")) Scope.empty
        (libraryName "index.d.ts" (some "library")) arrangedSample (linesOf text) := by
  have hfile : (Node.sourceFile none "index.d.ts" arrangedSample).WellTyped := by decide
  have hunbroken : (Node.sourceFile none "index.d.ts" arrangedSample).Unbroken := by decide
  have hname : ∀ given ∈ some "library", SingleLine given := by decide
  exact ⟨hfile, hunbroken, rfl, rfl, bindings_conserve_declarations hfile hunbroken hname⟩

end Model

end ReasonBindings
