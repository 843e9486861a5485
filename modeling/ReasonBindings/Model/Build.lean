import ReasonBindings.Model.Record
import ReasonBindings.Path
import ReasonBindings.Syntax.Name
import ReasonBindings.TypeText

/-!
# From syntax trees to records

Every statement contributes records to the module that it stands in.  A class and
an interface have a record of their own, a type alias and an object type written
in place have one in the shape of an interface, and each of these but a class gets
a *maker*, a function that takes the properties and gives an object.

A statement is read in the scope of the declarations around it and does not
see the statements beside it, so the contribution of a list of statements is the
merge of the contributions of its statements.
-/

namespace ReasonBindings.Model

open Syntax

/-! ### Members -/

/-- The name under which call signatures are bound. -/
def invokeName : String := "invoke"

/-- The name under which construct signatures are bound. -/
def createName : String := "Create"

/-- The name under which index signatures are bound. -/
def indexName : String := "Item"

/-- The name of constructors and makers. -/
def makeName : String := "make"

/-- How an object is called. -/
def callTemplate : String := "$0($1...)"

/-- How an object is constructed. -/
def constructTemplate : String := "new $0($1...)"

/-- How a key of an object is read and written. -/
def indexTemplate : String := "$0[$1]\x7b\x7b=$2\x7d\x7d"

/-- How a property whose name stands in brackets is read and written. -/
def keyTemplate (key : String) : String := "$0" ++ key ++ "\x7b\x7b=$1\x7d\x7d"

/-- How a method whose name stands in brackets is called. -/
def keyCallTemplate (key : String) : String := "$0[" ++ key ++ "]($1...)"

/-- The text of a key in brackets. -/
def bracketed (key : String) : String := "[" ++ key ++ "]"

/-- Whether a node is a name in brackets. -/
def isComputed : Node → Bool
  | .computedName .. => true
  | _ => false

/-- The record of a parameter. -/
def parameterOf (scope : Scope) (node : Node) : Traced Parameter := do
  let name ← Traced.present node.name?
  let label ← name.declaredName
  let annotation ← Traced.present node.type?
  let type ← typeText scope annotation
  let optional ← Traced.present node.optional?
  let rest ← Traced.present node.rest?
  return ⟨label.getD "", type, optional, rest⟩

/-- The record of a declaration with parameters.  It is bound under the given name if there is one,
and under its declared name otherwise. -/
def methodOf (scope : Scope) (node : Node) (name : Option String) (static ctor : Bool)
    (owner : String) : Traced Method := do
  let inner := scope.enter node
  let parameters ← Traced.all ((← Traced.present node.parameters?).map (parameterOf inner))
  let bound ← match name with
    | some given => pure given
    | none => node.requiredName
  let annotation ← Traced.present node.type?
  let type ← typeText inner annotation
  let optional ← Traced.present node.optional?
  return {
    name := bound
    type := type
    optional := optional
    static := static || node.isStatic
    parameters := withSentinel parameters
    ctor := ctor
    owner := owner }

/-- The record of a property. -/
def propertyOf (scope : Scope) (node : Node) : Traced Property := do
  let name ← node.requiredName
  let annotation ← Traced.present node.type?
  let type ← typeText scope annotation
  let optional ← Traced.present node.optional?
  let key ← Traced.present node.name?
  if isComputed key then
    return ⟨bracketed name, type, optional, node.isStatic, some (keyTemplate (bracketed name))⟩
  else
    return ⟨name, type, optional, node.isStatic, none⟩

/-- The property that stands for an index signature. -/
def indexPropertyOf (scope : Scope) (node : Node) : Traced Property := do
  let annotation ← Traced.present node.type?
  let type ← typeText (scope.enter node) annotation
  let optional ← Traced.present node.optional?
  return ⟨indexName, type, optional, node.isStatic, some indexTemplate⟩

/-- What one member adds to an interface. -/
inductive Contribution where
  | property (record : Property)
  | method (record : Method)
  | nothing
deriving Repr, BEq

/-- The method of a member whose name stands in brackets. -/
def keyMethodOf (scope : Scope) (node key : Node) (owner : String) : Traced Method := do
  let text := (← key.declaredName).getD ""
  let method ← methodOf scope node (some (bracketed text)) false false owner
  return { method with template := some (keyCallTemplate text) }

/-- What a member adds to the interface named `owner`. -/
def contributionOf (scope : Scope) (owner : String) (node : Node) : Traced Contribution :=
  match node with
  | .field .propertySignature .. | .field .propertyDeclaration .. => do
    return .property (← propertyOf scope node)
  | .signature .callSignature .. => do
    let method ← methodOf scope node (some invokeName) false false owner
    return .method { method with template := some callTemplate }
  | .signature .methodSignature _ name .. | .signature .methodDeclaration _ name .. => do
    if isComputed name then
      return .method (← keyMethodOf scope node name owner)
    else
      return .method (← methodOf scope node none false false owner)
  | .signature .constructSignature .. => do
    let method ← methodOf scope node (some createName) false false owner
    return .method { method with template := some constructTemplate }
  | .signature .indexSignature .. => do
    return .property (← indexPropertyOf scope node)
  | .signature .constructor .. => do
    return .method (← methodOf scope node (some makeName) false true owner)
  | _ => do
    Traced.note (.skippedMember node.className)
    return .nothing

/-- The property that is added, if one is. -/
def Contribution.property? : Contribution → Option Property
  | .property record => some record
  | _ => none

/-- The method that is added, if one is. -/
def Contribution.method? : Contribution → Option Method
  | .method record => some record
  | _ => none

/-! ### Interfaces -/

/-- The parameter of a maker for a property. -/
def Property.makerParameter (property : Property) : Parameter where
  name := property.name
  type := property.type
  optional := property.optional

/-- The maker of objects with the given properties. -/
def makerOf (owner : String) (properties : List Property) : Method where
  name := makeName
  type := TypeText.instanceType
  static := true
  parameters := withSentinel (properties.map Property.makerParameter)
  maker := true
  owner := owner

/-- The record with the contributions of its members, and with its maker unless it is a class. -/
def interfaceWith (name : String) (kind : InterfaceKind) (parents : List String)
    (contributions : List Contribution) : Interface :=
  let properties := contributions.filterMap Contribution.property?
  let methods := contributions.filterMap Contribution.method?
  { name := name
    kind := kind
    parents := parents
    properties := properties
    methods := match kind with
      | .classLike => methods
      | .interfaceLike => methods ++ [makerOf name properties] }

/-- The name of a class, an interface or an alias with its type parameters. -/
def genericName (node : Node) : Traced String := do
  let name ← node.requiredName
  let parameters ← Traced.present node.typeParameters?
  if parameters.isEmpty then return name
  else
    let names ← Traced.all (parameters.map Node.parameterName)
    return name ++ "(" ++ ", ".intercalate (names.map (TypeText.variableMark ++ ·)) ++ ")"

/-- The texts of the types of a heritage clause. -/
def clauseTexts (scope : Scope) (clause : Node) : Traced (List String) := do
  typeTexts scope (← Traced.present clause.types?)

/-- The given name if it is one, and the declared name with its type parameters otherwise. -/
def chosenName (node : Node) : Option String → Traced String
  | some name => if name = "" then genericName node else pure name
  | none => genericName node

/-- The record of a class, an interface or an object type. -/
def interfaceOf (scope : Scope) (node : Node) (kind : InterfaceKind) (name : Option String) :
    Traced Interface := do
  let inner := scope.enter node
  let parents ← Traced.all (node.heritage.map (clauseTexts inner))
  let chosen ← chosenName node name
  let members ← Traced.present node.members?
  let contributions ← Traced.all (members.map (contributionOf inner chosen))
  let interface := interfaceWith chosen kind parents.flatten contributions
  Traced.note (.collectedInterface kind.word chosen interface.methods.length
    interface.properties.length)
  return interface

/-- The record of a type alias: an alias of an object type has its members, any other alias has the
aliased type as its parent. -/
def aliasOf (scope : Scope) (node : Node) : Traced Interface := do
  let inner := scope.enter node
  let name ← genericName node
  let aliased ← Traced.present node.type?
  let interface ← match aliased with
    | .objectType _ members => do
      let contributions ← Traced.all (members.map (contributionOf inner name))
      pure (interfaceWith name .interfaceLike [] contributions)
    | _ => do
      let parent ← typeText inner aliased
      pure (interfaceWith name .interfaceLike [parent] [])
  Traced.note (.collectedAlias name)
  return interface

/-! ### Statements -/

/-- The name of the interface for the object type of a variable. -/
def inlineName (declared : String) : String := declared ++ "Type"

/-- The record of a variable, and that of its type when it is an object type written in place. -/
def variableOf (scope : Scope) (node : Node) : Traced (Variable × Option Interface) := do
  let name ← node.requiredName
  let annotation ← Traced.present node.type?
  match annotation with
  | .objectType .. => do
    let interface ← interfaceOf scope annotation .interfaceLike (some (inlineName name))
    return (⟨name, interface.name, true⟩, some interface)
  | _ => do
    let type ← typeText scope annotation
    return (⟨name, type, true⟩, none)

/-- The records of the variables of a statement, and those of their inline types. -/
def variablesOf (scope : Scope) (node : Node) : Traced (List Variable × List Interface) := do
  let declarations ← Traced.present node.declarations?
  let records ← Traced.all (declarations.map (variableOf scope))
  return (records.map (·.1), records.filterMap (·.2))

/-- What a statement that holds no other statements adds to the module named `owner`. -/
def simpleStatementOf (scope : Scope) (owner : String) (node : Node) : Traced Module :=
  match node with
  | .classDecl .. => do
    return { name := owner, interfaces := [← interfaceOf scope node .classLike none] }
  | .interfaceDecl .. => do
    return { name := owner, interfaces := [← interfaceOf scope node .interfaceLike none] }
  | .aliasDecl .. => do
    return { name := owner, interfaces := [← aliasOf scope node] }
  | .variableStatement .. => do
    let (globals, interfaces) ← variablesOf scope node
    return { name := owner, globals := globals, interfaces := interfaces }
  | .signature .functionDeclaration .. => do
    return { name := owner, methods := [← methodOf scope node none true false owner] }
  | .enumDecl .. => do
    Traced.note (.skippedEnum (← node.declaredName))
    return .empty owner
  | _ => do
    Traced.note (.skippedStatement node.className)
    return .empty owner

mutual

/-- What a statement adds to the module named `owner`. -/
def statementOf (scope : Scope) (owner : String) : Node → Traced Module
  | node@(.namespaceDecl _ _ body) => do
    let name ← node.requiredName
    let inner ← namespaceBodyOf (scope.enter node) name body
    return { name := owner, modules := [inner] }
  | node => simpleStatementOf scope owner node

/-- What a list of statements adds to the module named `owner`. -/
def statementsOf (scope : Scope) (owner : String) : List Node → Traced Module
  | [] => pure (.empty owner)
  | node :: nodes => do
    let first ← statementOf scope owner node
    first.merge <$> statementsOf scope owner nodes

/-- The record of a namespace with the given body: another namespace, a list of statements, or no
body at all. -/
def namespaceBodyOf (scope : Scope) (owner : String) : Node → Traced Module
  | node@(.namespaceDecl _ _ body) => do
    let name ← node.requiredName
    let inner ← namespaceBodyOf (scope.enter node) name body
    return { name := owner, modules := [inner] }
  | .block _ statements => statementsOf scope owner statements
  | .absent => do
    Traced.note (.bodilessNamespace owner)
    return .empty owner
  | _ => pure (.empty owner)

end

/-- The record of a namespace. -/
def namespaceOf (scope : Scope) (node : Node) : Traced Module := do
  let name ← node.requiredName
  let body ← Traced.present node.body?
  namespaceBodyOf (scope.enter node) name body

/-! ### One statement after another -/

/-- The module with the records of a statement appended to its own. -/
def Module.visit (scope : Scope) (target : Module) (node : Node) : Traced Module :=
  match node with
  | .namespaceDecl .. => do
    return { target with modules := target.modules ++ [← namespaceOf scope node] }
  | .classDecl .. => do
    let interface ← interfaceOf scope node .classLike none
    return { target with interfaces := target.interfaces ++ [interface] }
  | .interfaceDecl .. => do
    let interface ← interfaceOf scope node .interfaceLike none
    return { target with interfaces := target.interfaces ++ [interface] }
  | .aliasDecl .. => do
    return { target with interfaces := target.interfaces ++ [← aliasOf scope node] }
  | .variableStatement .. => do
    let (globals, interfaces) ← variablesOf scope node
    return { target with
      globals := target.globals ++ globals
      interfaces := target.interfaces ++ interfaces }
  | .signature .functionDeclaration .. => do
    let method ← methodOf scope node none true false target.name
    return { target with methods := target.methods ++ [method] }
  | .enumDecl .. => do
    Traced.note (.skippedEnum (← node.declaredName))
    return target
  | _ => do
    Traced.note (.skippedStatement node.className)
    return target

/-- The module with the records of a list of statements appended one after another. -/
def Module.visitAll (scope : Scope) (target : Module) (statements : List Node) : Traced Module :=
  statements.foldlM (Module.visit scope) target

/-! ### Files -/

/-- The name of a whole file: the given one if it is one, and that of the path otherwise. -/
def rootName (file : Node) : Option String → Traced String
  | some name => if name = "" then fileModuleName else pure name
  | none => fileModuleName
where
  /-- The name that the path of the file stands for. -/
  fileModuleName : Traced String := do
    return Path.moduleName (← Traced.present file.fileName?)

/-- The record of a whole file. -/
def fileOf (file : Node) (name : Option String) : Traced Module := do
  let root ← rootName file name
  let statements ← Traced.present file.statements?
  let built ← statementsOf (Scope.empty.enter file) root statements
  Traced.note (.builtModule root built.modules.length built.interfaces.length
    built.globals.length built.methods.length)
  return built

end ReasonBindings.Model
