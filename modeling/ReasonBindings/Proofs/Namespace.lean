import ReasonBindings.Bindings
import ReasonBindings.Proofs.Model.BuiltTexts
import ReasonBindings.Proofs.Model.Relocation

/-!
# Bindings of namespaces

A namespace around declarations changes nothing in their bindings but the
indentation.  The records of the declarations are the same inside the namespace and
outside of it, up to the name of the module, which no binding of a function shows;
and the records are printed one level further in, between the opening and the closing
line of the namespace.
-/

namespace ReasonBindings

open Layout Model Syntax

/-! ### Printed namespaces -/

/-- The text of a namespace around the given text. -/
def namespaceText (name text : String) : String :=
  "let module " ++ name ++ " = \x7b\n\n" ++ indentText text ++ "\x7d;\n\n"

/-- The block of a module has the text of a namespace. -/
lemma unlines_block {lines : List String} (h : ∀ line ∈ lines, SingleLine line) (name : String) :
    unlines (block (moduleHeader name) true lines ++ [""]) =
      namespaceText name (unlines lines) := by
  unfold namespaceText block opening moduleHeader closing
  rw [indentText_unlines h]
  simp only [List.cons_append, List.append_assoc, unlines_cons, unlines_append, if_true,
    unlines_nil, String.append_assoc]
  rfl

/-! ### Files -/

/-- A file with a given name has the record that its statements add to an empty module. -/
lemma fileOf_outcome {root : String} (hroot : root ≠ "") (line : Line) (path : String)
    (statements : List Node) :
    (fileOf (.sourceFile line path statements) (some root)).outcome =
      (statementsOf (Scope.empty.enter (.sourceFile line path statements)) root
        statements).outcome := by
  have hscope : (Scope.empty.enter (.sourceFile line path statements)).SameNames Scope.empty :=
    Scope.SameNames.of_noTypeParameters rfl Scope.empty
  rw [fileOf_outcome_eq, libraryName, if_neg hroot, statementsOf_congr hscope]

/-- What a file with a given name has for bindings is what its statements add to an empty module. -/
lemma bindingsOf_outcome {root : String} (hroot : root ≠ "") (line : Line) (path : String)
    (statements : List Node) :
    (bindingsOf (.sourceFile line path statements) (some root)).outcome =
      (statementsOf (Scope.empty.enter (.sourceFile line path statements)) root
        statements).outcome.map Module.text := by
  rw [← fileOf_outcome hroot]
  exact Traced.bind_outcome_eq_map fun built _ => rfl

/-- A single namespace adds one nested module. -/
lemma statementsOf_namespaceDecl_outcome {nameNode : Node} {name : String}
    (hname : nameNode.declaredName = pure (some name)) (scope : Scope) (owner : String)
    (line : Line) (body : Node) :
    (statementsOf scope owner [.namespaceDecl line nameNode body]).outcome =
      (statementsOf (scope.enter (.namespaceDecl line nameNode body)) name
        body.bodyStatements).outcome.map fun built => { name := owner, modules := [built] } := by
  have hrequired : (Node.namespaceDecl line nameNode body).requiredName = pure name := by
    rw [Node.requiredName, Node.declaredName, hname, Traced.pure_bind]
  have hnote : ∀ next : Unit → Traced Module,
      (noteBodiless name body >>= next).outcome = (next ()).outcome := by
    intro next
    cases body <;> rfl
  rw [statementsOf_singleton, statementOf_namespaceDecl, hrequired]
  simp only [Traced.pure_bind, map_bind, map_pure, hnote, Module.merge_empty]
  exact Traced.bind_outcome_eq_map fun built _ => rfl

/-- A module that is built is printed inside a namespace as it is outside of it, up to the
indentation. -/
lemma text_relocate {scope : Scope} {root name : String} {statements : List Node} {module : Module}
    (h : (statementsOf scope root statements).outcome = .ok module) (hroot : SingleLine root)
    (hstatements : ∀ node ∈ statements, node.Unbroken) :
    Module.text { name := root, modules := [module.relocate name] } =
      namespaceText name module.text := by
  have hstems := stemsFrom_of_statementsOf h
  have htexts := hstems.singleLine hstatements hroot
  have hlines := module.singleLine_lines hroot htexts
  have hnested : Module.lines root { name := root, modules := [module.relocate name] } =
      block (moduleHeader name) true (module.lines root) ++ [""] := by
    rw [Module.lines, nestedLines_cons, Module.lines_relocate hstems.ctor]
    rfl
  rw [Module.text, hnested, unlines_block hlines, Module.text, name_of_statementsOf h]

/-- Neither a file nor a namespace declares type parameters, so the names in scope are the same
inside a namespace of one file as in another file. -/
lemma sameNames_namespaceDecl (line nsLine line' : Line) (path path' : String)
    (nameNode body : Node) (outer statements : List Node) :
    ((Scope.empty.enter (.sourceFile line path outer)).enter
      (.namespaceDecl nsLine nameNode body)).SameNames
      (Scope.empty.enter (.sourceFile line' path' statements)) :=
  rfl

/-- The bindings of a file with a given name do not depend on the path of the file. -/
lemma bindingsOf_path {root : String} (hroot : root ≠ "") (line line' : Line) (path path' : String)
    (statements : List Node) :
    (bindingsOf (.sourceFile line path statements) (some root)).outcome =
      (bindingsOf (.sourceFile line' path' statements) (some root)).outcome := by
  have hnames : (Scope.empty.enter (.sourceFile line path statements)).SameNames
      (Scope.empty.enter (.sourceFile line' path' statements)) := rfl
  rw [bindingsOf_outcome hroot, bindingsOf_outcome hroot, statementsOf_congr hnames]

/-- The bindings of a namespace around the statements of a file are those of the file, one level
further in, and there are bindings for the one exactly when there are for the other. -/
lemma bindingsOf_namespaceDecl {root : String} (hroot : root ≠ "") (hroot' : SingleLine root)
    {nameNode : Node} {name : String} (hname : nameNode.declaredName = pure (some name))
    (body : Node) (hbody : ∀ node ∈ body.bodyStatements, node.Unbroken)
    (line nsLine line' : Line) (path path' : String) :
    (bindingsOf (.sourceFile line path [.namespaceDecl nsLine nameNode body]) (some root)).outcome =
      (bindingsOf (.sourceFile line' path' body.bodyStatements) (some root)).outcome.map
        (namespaceText name) := by
  -- First the namespace leaves the scope, then its name leaves the module.
  rw [bindingsOf_outcome hroot, bindingsOf_outcome hroot, statementsOf_namespaceDecl_outcome hname,
    statementsOf_congr (sameNames_namespaceDecl line nsLine line' path path' nameNode body _
      body.bodyStatements), statementsOf_relocate _ name root, Traced.map_outcome]
  cases hbuilt : (statementsOf (Scope.empty.enter (.sourceFile line' path' body.bodyStatements))
      root body.bodyStatements).outcome with
  | error cause => rfl
  | ok built => exact congrArg Except.ok (text_relocate hbuilt hroot' hbody)

/-! ### Namespaces inside namespaces -/

/-- Statements stand inside namespaces of the given names, the first of which is the outermost one,
and nothing stands beside them. -/
inductive Encloses : List String → List Node → List Node → Prop
  | none {statements : List Node} : Encloses [] statements statements
  | around {line : Line} {nameNode body : Node} {name : String} {names : List String}
    {statements : List Node} :
    nameNode.declaredName = pure (some name) → Encloses names body.bodyStatements statements →
    Encloses (name :: names) [.namespaceDecl line nameNode body] statements

/-- Each of the namespaces around statements puts their bindings one level further in. -/
lemma bindingsOf_encloses {root : String} (hroot : root ≠ "") (hroot' : SingleLine root)
    {names : List String} {outer statements : List Node} (h : Encloses names outer statements)
    (houter : ∀ node ∈ outer, node.Unbroken) (line line' : Line) (path path' : String) :
    (bindingsOf (.sourceFile line path outer) (some root)).outcome =
      (bindingsOf (.sourceFile line' path' statements) (some root)).outcome.map fun text =>
        names.foldr namespaceText text := by
  induction h with
  | @none statements =>
    rw [bindingsOf_path hroot line line' path path']
    cases (bindingsOf (.sourceFile line' path' statements) (some root)).outcome <;> rfl
  | @around nsLine nameNode body name names statements hname _ ih =>
    have hnode : (Node.namespaceDecl nsLine nameNode body).Unbroken := houter _ List.mem_cons_self
    have hbody := unbroken_bodyStatements (hnode.body? rfl)
    rw [bindingsOf_namespaceDecl hroot hroot' hname body hbody line nsLine line path path,
      ih hbody]
    cases (bindingsOf (.sourceFile line' path' statements) (some root)).outcome <;> rfl

/-- **Namespaces are translated compositionally.**  A namespace around the statements of a file puts
their bindings one level further in and changes nothing else, whether there are bindings or not, and
so do namespaces at any depth. -/
theorem bindingsOf_compositional {root : String} (hroot : root ≠ "") (hroot' : SingleLine root) :
    (∀ (statements : List Node) (nameNode : Node) (name : String)
      (line nsLine blockLine line' : Line) (path path' : String),
      (∀ node ∈ statements, node.Unbroken) → nameNode.declaredName = pure (some name) →
      (bindingsOf (.sourceFile line path
          [.namespaceDecl nsLine nameNode (.block blockLine statements)]) (some root)).outcome =
        (bindingsOf (.sourceFile line' path' statements) (some root)).outcome.map fun text =>
          "let module " ++ name ++ " = \x7b\n\n" ++ indentText text ++ "\x7d;\n\n") ∧
    (∀ (names : List String) (outer statements : List Node) (line line' : Line)
      (path path' : String), Encloses names outer statements → (∀ node ∈ outer, node.Unbroken) →
      (bindingsOf (.sourceFile line path outer) (some root)).outcome =
        (bindingsOf (.sourceFile line' path' statements) (some root)).outcome.map fun text =>
          names.foldr namespaceText text) := by
  constructor
  · intro statements nameNode name line nsLine blockLine line' path path' hstatements hname
    exact bindingsOf_namespaceDecl hroot hroot' hname (.block blockLine statements) hstatements line
      nsLine line' path path'
  · intro names outer statements line line' path path' hencloses houter
    exact bindingsOf_encloses hroot hroot' hencloses houter line line' path path'

/-- A generic class with a constructor whose only parameter has the type of the type parameter. -/
def boxSample : List Node :=
  [.classDecl none (.identifier none "Box")
    [.typeParameter none (.identifier none "T")] []
    [.signature .constructor none (.identifier none "constructor") .absent false [] []
      [.parameter none (.identifier none "item")
        (.typeReference none (.identifier none "T") []) false false]] []]

/-- Inside two namespaces the constructor still belongs to the library, and its parameter still has
the type of the type parameter. -/
theorem bindingsOf_boxSample :
    (bindingsOf (.sourceFile none "outer.d.ts" [.namespaceDecl none (.identifier none "A")
        (.namespaceDecl none (.identifier none "B") (.block none boxSample))])
      (some "library")).outcome =
    (bindingsOf (.sourceFile none "inner.d.ts" boxSample) (some "library")).outcome.map fun text =>
      ["A", "B"].foldr namespaceText text :=
  (bindingsOf_compositional (by decide) (by decide)).2 ["A", "B"] _ boxSample none none
    "outer.d.ts" "inner.d.ts" (.around rfl (.around rfl .none)) (by decide)

/-- The bindings of the class outside of the namespaces. -/
example : (bindingsOf (.sourceFile none "inner.d.ts" boxSample) (some "library")).outcome =
    .ok ("let module Box('T) = \x7b\n  type t;\n\n" ++
      "  external make : item::'T => t = \"Box('T)\" [@@bs.new] [@@bs.module \"library\"];\n" ++
      "\x7d;\n\n") := rfl

end ReasonBindings
