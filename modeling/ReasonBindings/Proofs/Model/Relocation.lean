import ReasonBindings.Model.Print
import ReasonBindings.Proofs.Model.Shapes
import ReasonBindings.Proofs.TypeText.Scoping

/-!
# Statements in another place

What statements add to a module depends on where they stand in two ways: through the
type parameters that are declared around them, and through the name of the module,
which the functions of the module carry.  Namespaces and files declare no type
parameters, so statements add the same records inside a namespace and outside of it,
up to the name of the module.
-/

namespace ReasonBindings

open Syntax

/-! ### Scopes with the same names -/

namespace Syntax.Scope

/-- The same type parameters are declared in two scopes, in the same order. -/
def SameNames (scope scope' : Scope) : Prop :=
  declaredBy scope.enclosing.reverse = declaredBy scope'.enclosing.reverse

/-- A list of declarations declares what the first of them does and what the others do. -/
lemma declaredBy_cons (declaration : Node) (declarations : List Node) :
    declaredBy (declaration :: declarations) = (do
      let own ← declaration.ownTypeParameters
      let others ← declaredBy declarations
      return own ++ others) := by
  simp only [declaredBy, List.map_cons, Traced.all, ← Traced.bind_pure_comp, Traced.bind_assoc,
    Traced.pure_bind, List.flatten_cons]

namespace SameNames

variable {scope scope' : Scope}

/-- Every scope has the same names as itself. -/
lemma refl (scope : Scope) : scope.SameNames scope :=
  rfl

/-- Entering declarations with the same type parameters keeps the names the same. -/
lemma enter_congr (h : scope.SameNames scope') {node node' : Node}
    (hown : node.ownTypeParameters = node'.ownTypeParameters) :
    (scope.enter node).SameNames (scope'.enter node') := by
  unfold SameNames at h ⊢
  simp only [enclosing_enter, List.reverse_append, List.reverse_singleton, List.singleton_append,
    declaredBy_cons, h, hown]

/-- Entering the same declaration keeps the names the same. -/
lemma enter (h : scope.SameNames scope') (node : Node) :
    (scope.enter node).SameNames (scope'.enter node) :=
  h.enter_congr rfl

/-- Entering the same declarations keeps the names the same. -/
lemma enterAll (h : scope.SameNames scope') (nodes : List Node) :
    (scope.enterAll nodes).SameNames (scope'.enterAll nodes) := by
  induction nodes generalizing scope scope' with
  | nil => exact h
  | cons node nodes ih => exact ih (h.enter node)

/-- Entering a declaration without type parameters keeps the names. -/
lemma of_noTypeParameters {node : Node} (h : node.typeParameters? = none) (scope : Scope) :
    (scope.enter node).SameNames scope := by
  have hown : node.ownTypeParameters = pure [] := by
    rw [Node.ownTypeParameters, h]
  unfold SameNames
  rw [enclosing_enter, List.reverse_append, List.reverse_singleton, List.singleton_append,
    declaredBy_cons, hown, Traced.pure_bind]
  exact Traced.bind_pure _

/-- An annotation has the same text in scopes with the same names. -/
lemma typeText_eq (h : scope.SameNames scope') (node : Node) :
    typeText scope node = typeText scope' node := by
  refine typeText_congr node scope scope' fun binders occurrence name _ _ => ?_
  have hnames : declaredBy (scope.enterAll binders).enclosing.reverse =
      declaredBy (scope'.enterAll binders).enclosing.reverse := h.enterAll binders
  rw [resolves, resolves, hnames]

/-- A parameter of a function type has the same text. -/
lemma callbackParameterText_eq (h : scope.SameNames scope') (parameter : Node) :
    callbackParameterText scope parameter = callbackParameterText scope' parameter := by
  cases parameter with
  | parameter _ _ type _ rest => simp only [callbackParameterText, h.typeText_eq type]
  | _ => rfl

end SameNames

end Syntax.Scope

namespace Model

/-! ### Records in scopes with the same names -/

section

variable {scope scope' : Scope} (h : scope.SameNames scope')

include h

/-- The record of a parameter depends on the declared names. -/
lemma parameterOf_congr (node : Node) : parameterOf scope node = parameterOf scope' node := by
  simp only [parameterOf, h.typeText_eq]

/-- The record of a declaration with parameters depends on the declared names. -/
lemma methodOf_congr (node : Node) (name : Option String) (static ctor : Bool) (owner : String) :
    methodOf scope node name static ctor owner = methodOf scope' node name static ctor owner := by
  have hparameters : parameterOf (scope.enter node) = parameterOf (scope'.enter node) :=
    funext (parameterOf_congr (h.enter node))
  simp only [methodOf, hparameters, (h.enter node).typeText_eq]

/-- What a member contributes depends on the declared names. -/
lemma contributionOf_congr (owner : String) (node : Node) :
    contributionOf scope owner node = contributionOf scope' owner node := by
  have hproperty : propertyOf scope node = propertyOf scope' node := by
    simp only [propertyOf, h.typeText_eq]
  have hindex : indexPropertyOf scope node = indexPropertyOf scope' node := by
    simp only [indexPropertyOf, (h.enter node).typeText_eq]
  unfold contributionOf
  simp only [hproperty, hindex, keyMethodOf, methodOf_congr h]

/-- The texts of a heritage clause depend on the declared names. -/
lemma clauseTexts_congr (clause : Node) : clauseTexts scope clause = clauseTexts scope' clause := by
  simp only [clauseTexts, typeTexts_eq_all, funext h.typeText_eq]

/-- The record of a class, an interface or an object type depends on the declared names. -/
lemma interfaceOf_congr (node : Node) (kind : InterfaceKind) (name : Option String) :
    interfaceOf scope node kind name = interfaceOf scope' node kind name := by
  have hclauses : clauseTexts (scope.enter node) = clauseTexts (scope'.enter node) :=
    funext (clauseTexts_congr (h.enter node))
  have hmembers : contributionOf (scope.enter node) = contributionOf (scope'.enter node) :=
    funext fun owner => funext (contributionOf_congr (h.enter node) owner)
  simp only [interfaceOf, hclauses, hmembers]

/-- The record of a type alias depends on the declared names. -/
lemma aliasOf_congr (node : Node) : aliasOf scope node = aliasOf scope' node := by
  have hmembers : contributionOf (scope.enter node) = contributionOf (scope'.enter node) :=
    funext fun owner => funext (contributionOf_congr (h.enter node) owner)
  simp only [aliasOf, hmembers, (h.enter node).typeText_eq]

/-- The records of variables depend on the declared names. -/
lemma variablesOf_congr (node : Node) : variablesOf scope node = variablesOf scope' node := by
  have hvariable : variableOf scope = variableOf scope' := by
    funext declaration
    simp only [variableOf, interfaceOf_congr h, h.typeText_eq]
  simp only [variablesOf, hvariable]

/-- What a statement that holds no others adds depends on the declared names. -/
lemma simpleStatementOf_congr (owner : String) (node : Node) :
    simpleStatementOf scope owner node = simpleStatementOf scope' owner node := by
  unfold simpleStatementOf
  simp only [interfaceOf_congr h, aliasOf_congr h, variablesOf_congr h, methodOf_congr h]

end

/-- **Dependence on the scope.**  Statements add the same records in scopes with the same names. -/
theorem statementsOf_congr {scope scope' : Scope} (h : scope.SameNames scope') (owner : String)
    (statements : List Node) :
    statementsOf scope owner statements = statementsOf scope' owner statements := by
  induction statements using statements_induction generalizing scope scope' owner with
  | nil => rfl
  | simple node nodes hbody ih =>
    rw [statementsOf_cons, statementsOf_cons, statementOf_simple hbody, statementOf_simple hbody,
      simpleStatementOf_congr h, ih h]
  | namespaceDecl line name body nodes ihbody ihnodes =>
    rw [statementsOf_cons, statementsOf_cons, statementOf_namespaceDecl, statementOf_namespaceDecl,
      ihnodes h]
    simp only [ihbody (h.enter _)]

/-- The record of a namespace depends on the declared names. -/
lemma namespaceBodyOf_congr {scope scope' : Scope} (h : scope.SameNames scope') (owner : String)
    (body : Node) : namespaceBodyOf scope owner body = namespaceBodyOf scope' owner body := by
  rw [namespaceBodyOf_eq, namespaceBodyOf_eq, statementsOf_congr h]

/-! ### Files -/

/-- The name of a whole file: the given one if it is one, and that of the path otherwise. -/
def libraryName (path : String) : Option String → String
  | some given => if given = "" then Path.moduleName path else given
  | none => Path.moduleName path

/-- The record of a file is what its statements add to an empty module, whatever is in scope around
the file. -/
lemma fileOf_outcome_eq (line : Line) (path : String) (statements : List Node)
    (name : Option String) :
    (fileOf (.sourceFile line path statements) name).outcome =
      (statementsOf Scope.empty (libraryName path name) statements).outcome := by
  have hname : rootName (.sourceFile line path statements) name = pure (libraryName path name) := by
    cases name with
    | none => rfl
    | some given =>
      by_cases hgiven : given = ""
      · rw [rootName, libraryName, if_pos hgiven, if_pos hgiven]
        rfl
      · rw [rootName, libraryName, if_neg hgiven, if_neg hgiven]
  have hscope : (Scope.empty.enter (.sourceFile line path statements)).SameNames Scope.empty :=
    Scope.SameNames.of_noTypeParameters rfl Scope.empty
  simp only [fileOf, hname, Traced.pure_bind, Node.statements?, Traced.present_some]
  rw [statementsOf_congr hscope, Traced.bind_outcome_eq_map (f := id) fun built _ => rfl]
  exact congrFun Except.map_id _

/-! ### Modules of another name -/

/-- A module under another name, which its functions carry as well. -/
def Module.relocate (owner : String) (module : Module) : Module :=
  { module with name := owner, methods := module.methods.map ({ · with owner := owner }) }

/-- The record of a declaration with parameters carries the name of the module and does not depend
on it otherwise. -/
lemma methodOf_owner (scope : Scope) (node : Node) (name : Option String) (static ctor : Bool)
    (owner owner' : String) :
    methodOf scope node name static ctor owner =
      ({ · with owner := owner }) <$> methodOf scope node name static ctor owner' := by
  cases name <;> simp only [methodOf, map_bind, map_pure]

/-- What a statement that holds no others adds to a module carries the name of the module and does
not depend on it otherwise. -/
lemma simpleStatementOf_relocate (scope : Scope) (owner owner' : String) (node : Node) :
    simpleStatementOf scope owner node =
      Module.relocate owner <$> simpleStatementOf scope owner' node := by
  unfold simpleStatementOf
  split
  all_goals simp only [map_bind, map_pure, Module.relocate, List.map_nil, Module.empty]
  rw [methodOf_owner scope _ none true false owner owner', ← Traced.bind_pure_comp]
  simp only [Traced.bind_assoc, Traced.pure_bind, List.map_cons, List.map_nil]

/-- What a statement adds to a module carries the name of the module and does not depend on it
otherwise. -/
lemma statementOf_relocate (scope : Scope) (owner owner' : String) (node : Node) :
    statementOf scope owner node = Module.relocate owner <$> statementOf scope owner' node := by
  -- A namespace passes its own name on, so only its place in the module changes.
  cases hbody : node.body? with
  | none =>
    rw [statementOf_simple hbody, statementOf_simple hbody]
    exact simpleStatementOf_relocate scope owner owner' node
  | some body =>
    cases node with
    | namespaceDecl line name body =>
      rw [statementOf_namespaceDecl, statementOf_namespaceDecl]
      simp only [map_bind, map_pure, Module.relocate, List.map_nil]
    | _ => cases hbody

/-- Modules can be merged under another name. -/
lemma Module.relocate_merge (owner : String) (first second : Module) :
    (first.merge second).relocate owner = (first.relocate owner).merge (second.relocate owner) := by
  simp only [Module.relocate, Module.merge, List.map_append]

/-- **Dependence on the module.**  What statements add to a module carries the name of the module
and does not depend on it otherwise. -/
theorem statementsOf_relocate (scope : Scope) (owner owner' : String) (statements : List Node) :
    statementsOf scope owner statements =
      Module.relocate owner <$> statementsOf scope owner' statements := by
  induction statements with
  | nil => rfl
  | cons node nodes ih =>
    rw [statementsOf_cons, statementsOf_cons, ih, statementOf_relocate scope owner owner' node]
    simp only [← Traced.bind_pure_comp, Traced.bind_assoc, Traced.pure_bind, Module.relocate_merge]

/-- A statement adds to its module what carries the name of the module. -/
lemma name_of_statementOf {scope : Scope} {owner : String} {node : Node} {module : Module}
    (h : (statementOf scope owner node).outcome = .ok module) : module.name = owner := by
  rw [statementOf_relocate scope owner owner] at h
  obtain ⟨built, -, rfl⟩ := Traced.map_outcome_eq_ok.mp h
  rfl

/-- Statements add to a module what carries the name of the module. -/
lemma name_of_statementsOf {scope : Scope} {owner : String} {statements : List Node}
    {module : Module} (h : (statementsOf scope owner statements).outcome = .ok module) :
    module.name = owner := by
  rw [statementsOf_relocate scope owner owner] at h
  obtain ⟨built, -, rfl⟩ := Traced.map_outcome_eq_ok.mp h
  rfl

/-- What stems from statements carries the name of the module. -/
lemma Module.StemsFrom.name_eq {scope : Scope} {owner : String} {statements : List Node}
    {module : Module} (h : module.StemsFrom scope owner statements) : module.name = owner := by
  cases h with
  | nil => rfl
  | simple hbody hfirst =>
    rw [← statementOf_simple hbody] at hfirst
    rw [Module.name_merge, name_of_statementOf hfirst]
  | namespaceDecl => rfl

/-! ### Printing modules of another name -/

/-- Only constructors are called as such. -/
lemma Method.callKind_ne_constructor {method : Method} (h : method.ctor = false) :
    method.callKind ≠ .constructor := by
  unfold callKind
  rw [h]
  cases method.maker <;> cases method.static <;> decide

/-- Only the binding of a constructor shows what the method belongs to. -/
lemma Method.line_owner {method : Method} (h : method.ctor = false) (owner library : String) :
    Method.line { method with owner := owner } library = method.line library := by
  have hcall : Method.callKind { method with owner := owner } = method.callKind := rfl
  have hlinkage : Method.linkage { method with owner := owner } library =
      method.linkage library := by
    rw [Method.linkage, Method.linkage, hcall]
    cases hmethod : method.callKind with
    | constructor => exact absurd hmethod (method.callKind_ne_constructor h)
    | _ => rfl
  unfold Method.line
  rw [hlinkage]
  rfl

/-- A module without constructors among its functions is printed alike under every name. -/
lemma Module.lines_relocate {module : Module} (h : ∀ method ∈ module.methods, method.ctor = false)
    (owner library : String) : (module.relocate owner).lines library = module.lines library := by
  obtain ⟨name, modules, globals, interfaces, methods⟩ := module
  have hmethods : (methods.map fun method => { method with owner := owner }).map
      (Method.line · library) = methods.map (Method.line · library) := by
    rw [List.map_map]
    exact List.map_congr_left fun method hmem => Method.line_owner (h method hmem) owner library
  rw [Module.relocate, Module.lines, Module.lines, hmethods]

/-- No function that a statement without a body adds is a constructor. -/
lemma Module.StemsFromSimple.ctor {scope : Scope} {owner : String} {node : Node} {module : Module}
    (h : module.StemsFromSimple scope owner node) :
    ∀ method ∈ module.methods, method.ctor = false := by
  intro method hmem
  obtain ⟨declaration, -, hstems⟩ := exists_left_of_mem h.methods hmem
  exact hstems.ctor

/-- No function that statements add is a constructor. -/
lemma Module.StemsFrom.ctor {scope : Scope} {owner : String} {statements : List Node}
    {module : Module} (h : module.StemsFrom scope owner statements) :
    ∀ method ∈ module.methods, method.ctor = false := by
  induction h with
  | nil => exact fun _ hmem => nomatch hmem
  | simple hbody hfirst _ ih =>
    have hown := (stemsFrom_of_simpleStatementOf hfirst).ctor
    exact List.forall_mem_append.mpr ⟨hown, ih⟩
  | namespaceDecl _ _ _ _ ihrest => exact List.forall_mem_append.mpr ⟨by simp, ihrest⟩

end Model

end ReasonBindings
