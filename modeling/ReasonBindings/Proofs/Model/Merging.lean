import ReasonBindings.Proofs.Model.Relocation

/-!
# Building as merging

A list of statements is read from left to right while records are appended to the
lists of one module.  What a statement appends depends on the scope and on the name
of the module, and not on the records that are there already, so a module that is
built from two lists of statements is the merge of the modules that are built from
each of them.  This is proved for reading into any module, and then for the two ways
in which statements come about: as a declaration file and as the body of a namespace.
-/

namespace ReasonBindings

open Syntax

namespace Model

/-! ### Reading into a module -/

/-- The record of a namespace is what its body holds. -/
lemma namespaceOf_namespaceDecl (scope : Scope) (line : Line) (name body : Node) :
    namespaceOf scope (.namespaceDecl line name body) = (do
      let inner ← (Node.namespaceDecl line name body).requiredName
      namespaceBodyOf (scope.enter (.namespaceDecl line name body)) inner body) := rfl

/-- What a statement that holds no others appends does not depend on the records before it. -/
lemma Module.visit_simple {node : Node} (h : node.body? = none) (scope : Scope) (target : Module) :
    target.visit scope node = target.merge <$> simpleStatementOf scope target.name node := by
  have skipped : ∀ className, (do
      Traced.note (.skippedStatement className)
      return target) = target.merge <$> (do
        Traced.note (.skippedStatement className)
        return Module.empty target.name) := by
    intro className
    simp only [map_bind, map_pure, Module.merge_empty]
  cases node with
  | classDecl | interfaceDecl | aliasDecl | variableStatement =>
    simp only [Module.visit, simpleStatementOf, map_bind, map_pure, Module.merge, List.append_nil]
  | signature kind =>
    cases kind with
    | functionDeclaration =>
      simp only [Module.visit, simpleStatementOf, map_bind, map_pure, Module.merge,
        List.append_nil]
    | _ => exact skipped _
  | enumDecl =>
    simp only [Module.visit, simpleStatementOf, map_bind, map_pure, Module.merge_empty]
  | namespaceDecl => cases h
  | _ => exact skipped _

/-- **What a statement appends** does not depend on the records before it. -/
theorem Module.visit_eq_merge (scope : Scope) (target : Module) (node : Node) :
    target.visit scope node = target.merge <$> statementOf scope target.name node := by
  cases hbody : node.body? with
  | none => rw [statementOf_simple hbody, Module.visit_simple hbody]
  | some body =>
    cases node with
    | namespaceDecl line name body =>
      rw [Module.visit, namespaceOf_namespaceDecl, statementOf]
      simp only [map_bind, map_pure, Module.merge, List.append_nil, Traced.bind_assoc]
    | _ => cases hbody

/-- **What statements append** does not depend on the records before them. -/
theorem Module.visitAll_eq_merge (scope : Scope) (target : Module) (statements : List Node) :
    target.visitAll scope statements =
      target.merge <$> statementsOf scope target.name statements := by
  induction statements generalizing target with
  | nil =>
    rw [statementsOf_nil, map_pure, Module.merge_empty]
    rfl
  | cons node nodes ih =>
    have hfirst : target.visitAll scope (node :: nodes) =
        target.visit scope node >>= fun next => next.visitAll scope nodes := rfl
    have hmerge : ∀ first : Module,
        (target.merge first).merge = fun rest => target.merge (first.merge rest) :=
      fun first => funext (target.merge_assoc first)
    rw [hfirst, Module.visit_eq_merge, statementsOf_cons]
    simp only [ih, map_bind, bind_map_left, Functor.map_map, hmerge, Module.name_merge]

/-! ### Two lists of statements -/

/-- What statements add to a module can be merged into a module of that name without records. -/
lemma empty_merge_statementsOf (scope : Scope) (owner : String) (statements : List Node) :
    (Module.empty owner).merge <$> statementsOf scope owner statements =
      statementsOf scope owner statements := by
  have hname : ∀ module : Module,
      (Module.empty owner).merge (module.relocate owner) = module.relocate owner :=
    fun module => Module.empty_merge (module.relocate owner)
  rw [statementsOf_relocate scope owner owner, Functor.map_map]
  simp only [hname]

/-- Two lists of statements add what the first one adds and then what the second one does. -/
lemma statementsOf_append (scope : Scope) (owner : String) (first second : List Node) :
    statementsOf scope owner (first ++ second) = (do
      let built ← statementsOf scope owner first
      built.merge <$> statementsOf scope owner second) := by
  induction first with
  | nil => rw [statementsOf_nil, Traced.pure_bind, empty_merge_statementsOf, List.nil_append]
  | cons node nodes ih =>
    have hmerge : ∀ built rest : Module,
        (built.merge rest).merge = fun other => built.merge (rest.merge other) :=
      fun built rest => funext (built.merge_assoc rest)
    rw [List.cons_append, statementsOf_cons, statementsOf_cons, ih]
    simp only [map_bind, Functor.map_map, Traced.bind_assoc, bind_map_left, hmerge]

/-! ### Homomorphisms -/

/-- A way to build modules from lists of statements takes lists that are put together to modules
that are merged.  All modules that are built have the same name, and no statements give no
records. -/
structure MergesLists (build : List Node → Except Fault Module) : Prop where
  append : ∀ first second, build (first ++ second) = (do
    let built ← build first
    let other ← build second
    return built.merge other)
  nil : ∀ built, build [] = .ok built → built = .empty built.name
  name : ∀ statements others built other, build statements = .ok built →
    build others = .ok other → other.name = built.name

/-- A statement between others gives the records that it gives on its own. -/
lemma MergesLists.between {build : List Node → Except Fault Module} (h : MergesLists build)
    (before after : List Node) (statement : Node) :
    build (before ++ statement :: after) = (do
      let earlier ← build before
      let own ← build [statement]
      let later ← build after
      return (earlier.merge own).merge later) := by
  rw [← List.singleton_append, h.append, h.append]
  simp only [bind_assoc, pure_bind, Module.merge_assoc]

/-- What statements add to a module is built by merging, also when the name of the module is a
fault. -/
lemma mergesLists_statementsOf (scope : Scope) (name : Except Fault String) :
    MergesLists (fun statements => do
      let owner ← name
      (statementsOf scope owner statements).outcome) := by
  cases name with
  | error cause =>
    refine ⟨fun _ _ => rfl, fun built hbuilt => ?_, fun _ _ built _ hbuilt _ => ?_⟩
    · cases hbuilt
    · cases hbuilt
  | ok owner =>
    refine ⟨fun first second => ?_, fun built hbuilt => ?_, ?_⟩
    · change (statementsOf scope owner (first ++ second)).outcome = do
        let built ← (statementsOf scope owner first).outcome
        let other ← (statementsOf scope owner second).outcome
        return built.merge other
      rw [statementsOf_append, Traced.bind_outcome]
      refine bind_congr fun built => ?_
      rw [Traced.map_outcome, bind_pure_comp]
      rfl
    · obtain rfl : Module.empty owner = built := Except.ok.inj hbuilt
      rfl
    · intro statements others built other hbuilt hother
      rw [name_of_statementsOf hbuilt, name_of_statementsOf hother]

/-- A declaration names its module as its name does, whatever its line is. -/
lemma requiredName_outcome_namespaceDecl (line : Line) (name body : Node) :
    (Node.namespaceDecl line name body).requiredName.outcome =
      name.declaredName.outcome.map (·.getD "") := by
  have hdeclared : (Node.namespaceDecl line name body).declaredName = name.declaredName := rfl
  rw [Node.requiredName, hdeclared]
  refine Traced.bind_outcome_eq_map fun declared _ => ?_
  cases declared with
  | none => rfl
  | some text => rfl

/-- The record of a namespace is built from the statements in its braces by merging. -/
lemma mergesLists_namespaceOf (scope : Scope) (line blockLine : Line) (name : Node) :
    MergesLists fun statements =>
      (namespaceOf scope (.namespaceDecl line name (.block blockLine statements))).outcome := by
  have hbuild : ∀ statements,
      (namespaceOf scope (.namespaceDecl line name (.block blockLine statements))).outcome = (do
        let owner ← name.declaredName.outcome.map (·.getD "")
        (statementsOf scope owner statements).outcome) := by
    intro statements
    -- A namespace declares no type parameters, so its statements see what is around it.
    have hscope : (scope.enter (.namespaceDecl line name (.block blockLine statements))).SameNames
        scope := Scope.SameNames.of_noTypeParameters rfl scope
    rw [namespaceOf_namespaceDecl, Traced.bind_outcome, requiredName_outcome_namespaceDecl]
    refine bind_congr fun owner => ?_
    rw [namespaceBodyOf, statementsOf_congr hscope]
  simp only [hbuild]
  exact mergesLists_statementsOf scope _

/-- The record of a file is built from the statements of the file by merging. -/
lemma mergesLists_fileOf (line : Line) (path : String) (name : Option String) :
    MergesLists fun statements => (fileOf (.sourceFile line path statements) name).outcome := by
  simp only [fileOf_outcome_eq]
  exact mergesLists_statementsOf Scope.empty (.ok (libraryName path name))

/-- **Building is a homomorphism.**  The record of a declaration file and that of a namespace, in
any scope, are built from their statements by merging, which associates and has the modules without
records as its identities.  So a statement of a file gives the records that it gives on its own.
Records that are read into a module come after those that it has and do not depend on them, and a
file and a namespace have the records that are read into an empty module. -/
theorem building_mergesLists :
    (∀ line path name,
      MergesLists fun statements => (fileOf (.sourceFile line path statements) name).outcome) ∧
    (∀ scope line blockLine name, MergesLists fun statements =>
      (namespaceOf scope (.namespaceDecl line name (.block blockLine statements))).outcome) ∧
    (∀ first second third : Module,
      (first.merge second).merge third = first.merge (second.merge third)) ∧
    (∀ module : Module, module.merge (.empty module.name) = module ∧
      (Module.empty module.name).merge module = module) ∧
    (∀ line path name before statement after,
      (fileOf (.sourceFile line path (before ++ statement :: after)) name).outcome = (do
        let earlier ← (fileOf (.sourceFile line path before) name).outcome
        let own ← (fileOf (.sourceFile line path [statement]) name).outcome
        let later ← (fileOf (.sourceFile line path after) name).outcome
        return (earlier.merge own).merge later)) ∧
    (∀ scope (target : Module) statements, target.visitAll scope statements = (do
      let block ← (Module.empty target.name).visitAll scope statements
      return target.merge block)) ∧
    (∀ line path name statements, fileOf (.sourceFile line path statements) name = (do
      let root ← rootName (.sourceFile line path statements) name
      let built ← (Module.empty root).visitAll
        (Scope.empty.enter (.sourceFile line path statements)) statements
      Traced.note (.builtModule root built.modules.length built.interfaces.length
        built.globals.length built.methods.length)
      return built)) ∧
    ∀ scope line blockLine name statements,
      namespaceOf scope (.namespaceDecl line name (.block blockLine statements)) = (do
        let owner ← (Node.namespaceDecl line name (.block blockLine statements)).requiredName
        (Module.empty owner).visitAll
          (scope.enter (.namespaceDecl line name (.block blockLine statements))) statements) := by
  have hvisit : ∀ scope owner statements,
      (Module.empty owner).visitAll scope statements = statementsOf scope owner statements := by
    intro scope owner statements
    rw [Module.visitAll_eq_merge]
    exact empty_merge_statementsOf scope owner statements
  refine ⟨mergesLists_fileOf, mergesLists_namespaceOf, Module.merge_assoc, fun module => ?_,
    fun line path name before statement after => ?_, fun scope target statements => ?_,
    fun line path name statements => ?_, fun scope line blockLine name statements => ?_⟩
  · exact ⟨module.merge_empty module.name, module.empty_merge⟩
  · exact (mergesLists_fileOf line path name).between before after statement
  · rw [hvisit, Module.visitAll_eq_merge, bind_pure_comp]
  · simp only [hvisit]
    rfl
  · rw [namespaceOf_namespaceDecl]
    exact bind_congr fun owner => (hvisit _ owner statements).symm

end Model

end ReasonBindings
