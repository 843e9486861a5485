import ReasonBindings.ParseTree.Basic
import ReasonBindings.Traced

/-!
# Reading parse trees

The same node of a parse tree means different things in different positions: an
object type is a type as well as a list of members, and every construct can turn
up where a statement is expected.  The *reading* of a node collects what it
contributes in each position.  It is defined by recursion on the tree: the reading
of a node is made from the node and the readings of its children.

Constructs without a counterpart among the syntax nodes are left out of lists of
statements and members, with a notice, and are kept as written among types.
-/

namespace ReasonBindings

open Syntax

/-- What a node of a parse tree contributes in each position that it can stand in. -/
structure Reading where
  /-- As a type. -/
  type : Traced Node
  /-- As a type annotation, which is a type behind a colon. -/
  annotation : Traced Node
  /-- As a list of types. -/
  types : Traced (List Node)
  /-- As a union: its arms, those of unions among them included. -/
  arms : Traced (List Node)
  /-- As a statement. -/
  statement : Traced (List Node)
  /-- As a list of statements. -/
  statements : Traced (List Node)
  /-- As a member of an interface or an object type. -/
  member : Traced (Option Node)
  /-- As a member of a class. -/
  classMember : Traced (Option Node)
  /-- As a list of members of an interface or an object type. -/
  members : Traced (List Node)
  /-- As a list of members of a class. -/
  classMembers : Traced (List Node)
  /-- As a parameter. -/
  parameter : Traced (Option Node)
  /-- As a list of parameters. -/
  parameters : Traced (List Node)
  /-- As a type that is extended or implemented. -/
  heritageType : Traced Node
  /-- As a list of types that are extended or implemented. -/
  heritageTypes : Traced (List Node)
  /-- As a list of expressions that a class extends, each with the type arguments behind it. -/
  extendedTypes : Traced (List Node)
  /-- As the heritage of a class. -/
  classHeritage : Traced (List Node)
  /-- As the declaration of a variable. -/
  variableDecl : Traced (Option Node)

namespace Reading

/-- A child of a node together with its reading. -/
structure Child where
  tree : Tree
  reading : Reading

/-- The children that are parts. -/
def parts (children : List Child) : List Child :=
  children.filter (·.tree.isPart)

/-- The first child that fills the given field. -/
def child? (children : List Child) (field : String) : Option Child :=
  children.find? (·.tree.field == some field)

/-- What the child in a field contributes; nothing when the field is empty. -/
def fieldOr {α : Type} (children : List Child) (field : String) (empty : α)
    (view : Reading → Traced α) : Traced α :=
  match child? children field with
  | some child => view child.reading
  | none => pure empty

/-- The type in a field. -/
def typeIn (children : List Child) (field : String) : Traced Node :=
  fieldOr children field .absent Reading.type

/-- The type annotation in a field. -/
def annotationIn (children : List Child) (field : String) : Traced Node :=
  fieldOr children field .absent Reading.annotation

/-- The parameters in the field for parameters. -/
def parametersIn (children : List Child) : Traced (List Node) :=
  fieldOr children "parameters" [] Reading.parameters

/-- What every part contributes to a list. -/
def gather (children : List Child) (view : Reading → Traced (List Node)) : Traced (List Node) := do
  return (← Traced.all ((parts children).map fun child => view child.reading)).flatten

/-- The contributions of the parts that contribute something. -/
def gatherSome (children : List Child) (view : Reading → Traced (Option Node)) :
    Traced (List Node) := do
  return (← Traced.all ((parts children).map fun child => view child.reading)).filterMap id

/-- The contribution of each part. -/
def gatherEach (children : List Child) (view : Reading → Traced Node) : Traced (List Node) :=
  Traced.all ((parts children).map fun child => view child.reading)

/-- The type that the first part is; a fault when there are no parts. -/
def firstType (children : List Child) : Traced Node :=
  match parts children with
  | first :: _ => first.reading.type
  | [] => Traced.fault .missingChild

/-! ### Types -/

/-- The arms that a part adds to a union. -/
def armsOf (child : Child) : Traced (List Node) :=
  if child.tree.kind = "union_type" then child.reading.arms
  else do return [← child.reading.type]

/-- The arms of a union. -/
def unionArms (children : List Child) : Traced (List Node) := do
  return (← Traced.all ((parts children).map armsOf)).flatten

/-- A literal in the place of a type. -/
def literalType (source : ByteArray) (tree : Tree) : Node :=
  match tree.parts with
  | [] => .text .literalType tree.line (tree.text source)
  | inner :: _ =>
    if inner.kind = "string" then
      .text .stringLiteralType tree.line (Tree.unquote (inner.text source))
    else .text .literalType tree.line (tree.text source)

/-- A node as a type. -/
def typeOf (source : ByteArray) (tree : Tree) (children : List Child) : Traced Node :=
  match tree.kind with
  | "predefined_type" => pure (.keywordType tree.line (tree.text source))
  | "type_identifier" | "nested_type_identifier" =>
    pure (.typeReference tree.line (tree.typeName source) [])
  | "generic_type" => do
    let arguments ← fieldOr children "type_arguments" [] Reading.types
    return .typeReference tree.line ((tree.childOrSelf "name").typeName source) arguments
  | "array_type" => do
    return .arrayType tree.line (← firstType children)
  | "function_type" => do
    let parameters ← parametersIn children
    let result ← typeIn children "return_type"
    return .signature .functionType tree.line .absent result false []
      (tree.declaredTypeParameters source) parameters
  | "union_type" => do
    return .unionType tree.line (← unionArms children)
  | "tuple_type" => do
    return .tupleType tree.line (← gatherEach children Reading.type)
  | "parenthesized_type" => do
    return .parenthesizedType tree.line (← firstType children)
  | "readonly_type" => firstType children
  | "this_type" => pure (.bare .thisType tree.line)
  | "literal_type" => pure (literalType source tree)
  | "object_type" => do
    return .objectType tree.line (← gatherSome children Reading.member)
  | _ => pure (.text .opaqueType tree.line (tree.text source))

/-- Whether a kind of nodes holds a type behind a sign. -/
def isAnnotation (kind : String) : Bool :=
  "type_annotation".toList.isSuffixOf kind.toList

/-- A node as a type annotation. -/
def annotationOf (source : ByteArray) (tree : Tree) (children : List Child) : Traced Node :=
  if isAnnotation tree.kind then
    match parts children with
    | first :: _ => first.reading.type
    | [] => pure .absent
  else typeOf source tree children

/-! ### Parameters -/

/-- The node that names a parameter: for a rest parameter the first part of the pattern, which must
have one, and for any other parameter the pattern itself. -/
def parameterTarget (pattern : Option Tree) : Traced (Option Tree) :=
  match pattern with
  | none => pure none
  | some tree =>
    if tree.kind = "rest_pattern" then
      match tree.parts with
      | first :: _ => pure (some first)
      | [] => Traced.fault .missingChild
    else pure (some tree)

/-- The name of a parameter; patterns that take a value apart have none. -/
def parameterName (source : ByteArray) : Option Tree → Node
  | some tree =>
    if tree.kind = "identifier" || tree.kind = "this" then tree.identifier source else .absent
  | none => .absent

/-- A node as a parameter. -/
def parameterOf (source : ByteArray) (tree : Tree) (children : List Child) :
    Traced (Option Node) :=
  if tree.kind = "required_parameter" || tree.kind = "optional_parameter" then do
    let pattern := tree.child? "pattern"
    let target ← parameterTarget pattern
    let type ← annotationIn children "type"
    return some (.parameter tree.line (parameterName source target) type
      (tree.kind == "optional_parameter") (pattern.any (·.kind == "rest_pattern")))
  else pure none

/-! ### Members -/

/-- A member without parameters. -/
def fieldOf (source : ByteArray) (tree : Tree) (children : List Child) (kind : FieldKind) :
    Traced (Option Node) := do
  let type ← annotationIn children "type"
  return some (.field kind tree.line (Tree.optionalMemberName source (tree.child? "name")) type
    (tree.hasChild "?") (tree.modifiers source))

/-- A method; in a class the one called `constructor` is its constructor. -/
def methodOf (source : ByteArray) (tree : Tree) (children : List Child) (inClass : Bool) :
    Traced (Option Node) := do
  let name := tree.child? "name"
  let parameters ← parametersIn children
  if inClass && name.any (·.text source == "constructor") then
    return some (.signature .constructor tree.line .absent .absent false (tree.modifiers source) []
      parameters)
  else
    let type ← annotationIn children "return_type"
    let kind := if tree.kind = "method_definition" then SignatureKind.methodDeclaration
      else SignatureKind.methodSignature
    return some (.signature kind tree.line (Tree.optionalMemberName source name) type
      (tree.hasChild "?") (tree.modifiers source) (tree.declaredTypeParameters source) parameters)

/-- A call or construct signature, whose result stands in the given field. -/
def callOf (source : ByteArray) (tree : Tree) (children : List Child) (kind : SignatureKind)
    (resultField : String) : Traced (Option Node) := do
  let parameters ← parametersIn children
  let type ← annotationIn children resultField
  return some (.signature kind tree.line .absent type false []
    (tree.declaredTypeParameters source) parameters)

/-- An index signature. -/
def indexOf (source : ByteArray) (tree : Tree) (children : List Child) : Traced (Option Node) := do
  let parameters ← match tree.child? "name" with
    | some key => do
      let keyType ← typeIn children "index_type"
      pure [.parameter tree.line (key.identifier source) keyType false false]
    | none => pure []
  let type ← annotationIn children "type"
  return some (.signature .indexSignature tree.line .absent type false (tree.modifiers source) []
    parameters)

/-- A node as a member. -/
def memberOf (source : ByteArray) (tree : Tree) (children : List Child) (inClass : Bool) :
    Traced (Option Node) :=
  match tree.kind with
  | "property_signature" => fieldOf source tree children .propertySignature
  | "public_field_definition" => fieldOf source tree children .propertyDeclaration
  | "method_signature" | "abstract_method_signature" | "method_definition" =>
    methodOf source tree children inClass
  | "call_signature" => callOf source tree children .callSignature "return_type"
  | "construct_signature" => callOf source tree children .constructSignature "type"
  | "index_signature" => indexOf source tree children
  | kind => do
    Traced.note (.otherMember kind tree.lineNumber)
    return none

/-! ### Heritage -/

/-- Whether a kind of nodes is a type name. -/
def isTypeName (kind : String) : Bool :=
  kind == "type_identifier" || kind == "nested_type_identifier"

/-- A node as an entry of a heritage clause. -/
def heritageTypeOf (source : ByteArray) (tree : Tree) (children : List Child) : Traced Node := do
  let generic := tree.kind == "generic_type"
  let name := if generic then tree.childOrSelf "name" else tree
  let arguments ←
    if generic then fieldOr children "type_arguments" [] Reading.types else pure []
  if isTypeName name.kind then
    return .heritageType tree.line (name.expressionName source) arguments
  else
    return .heritageType tree.line .absent []

/-- The entry with the given type arguments. -/
def withArguments (arguments : List Node) : Node → Node
  | .heritageType line expression _ => .heritageType line expression arguments
  | node => node

/-- An entry of an extends clause, which has a name if it is a plain or a dotted one. -/
def extendedType (source : ByteArray) (tree : Tree) : Node :=
  .heritageType tree.line
    (if tree.kind = "identifier" || tree.kind = "member_expression" then
      tree.expressionName source
    else .absent) []

/-- The entries of an extends clause, given the one that was read last; type arguments belong to
the entry in front of them. -/
def extendedTypesFrom (source : ByteArray) (last : Option Node) :
    List Child → Traced (List Node)
  | [] => pure last.toList
  | child :: others =>
    if child.tree.kind = "type_arguments" && last.isSome then do
      let arguments ← child.reading.types
      extendedTypesFrom source (last.map (withArguments arguments)) others
    else do
      let entries ← extendedTypesFrom source (some (extendedType source child.tree)) others
      return last.toList ++ entries

/-- A clause in the heritage of a class. -/
def classClause (child : Child) : Traced (List Node) :=
  match child.tree.kind with
  | "extends_clause" => do
    return [.heritageClause child.tree.line "extends" (← child.reading.extendedTypes)]
  | "implements_clause" => do
    return [.heritageClause child.tree.line "implements" (← child.reading.heritageTypes)]
  | _ => pure []

/-- A node as the heritage of a class. -/
def classHeritageOf (children : List Child) : Traced (List Node) := do
  return (← Traced.all ((parts children).map classClause)).flatten

/-! ### Statements -/

/-- An interface. -/
def interfaceOf (source : ByteArray) (tree : Tree) (children : List Child) : Traced Node := do
  let clauses := (parts children).filter (·.tree.kind == "extends_type_clause")
  let heritage ← Traced.all (clauses.map fun child => do
    return .heritageClause child.tree.line "extends" (← child.reading.heritageTypes))
  let members ← fieldOr children "body" [] Reading.members
  return .interfaceDecl tree.line (Tree.optionalIdentifier source (tree.child? "name"))
    (tree.declaredTypeParameters source) heritage members

/-- A class. -/
def classOf (source : ByteArray) (tree : Tree) (children : List Child) : Traced Node := do
  let clauses := (parts children).filter (·.tree.kind == "class_heritage")
  let heritage ← Traced.all (clauses.map fun child => child.reading.classHeritage)
  let members ← fieldOr children "body" [] Reading.classMembers
  return .classDecl tree.line (Tree.optionalIdentifier source (tree.child? "name"))
    (tree.declaredTypeParameters source) heritage.flatten members
    (if tree.kind = "abstract_class_declaration" then ["abstract"] else [])

/-- A node as the declaration of a variable; patterns that take a value apart have no name. -/
def variableOf (source : ByteArray) (tree : Tree) (children : List Child) :
    Traced (Option Node) :=
  if tree.kind = "variable_declarator" then do
    let name := (tree.child? "name").filter (·.kind == "identifier")
    let type ← annotationIn children "type"
    return some (.variableDecl tree.line (Tree.optionalIdentifier source name) type)
  else pure none

/-- A function. -/
def functionOf (source : ByteArray) (tree : Tree) (children : List Child) : Traced Node := do
  let parameters ← parametersIn children
  let type ← annotationIn children "return_type"
  return .signature .functionDeclaration tree.line
    (Tree.optionalIdentifier source (tree.child? "name")) type false []
    (tree.declaredTypeParameters source) parameters

/-- The names of a namespace, outermost first: a string is one name, and a dotted name has several.
Only a namespace without a name has none. -/
def namespaceNames (source : ByteArray) (tree : Tree) : List Node :=
  match tree.child? "name" with
  | none => []
  | some name =>
    if name.kind = "string" then
      [.text .stringLiteral tree.line (Tree.unquote (name.text source))]
    else (name.dottedParts source).map (Node.identifier tree.line)

/-- Namespaces of the given names around a body. -/
def nestNamespaces (line : Line) (body : Node) : List Node → Node
  | [] => .namespaceDecl line .absent body
  | [name] => .namespaceDecl line name body
  | name :: names => .namespaceDecl line name (nestNamespaces line body names)

/-- A namespace; a dotted name stands for nested ones. -/
def namespaceOf (source : ByteArray) (tree : Tree) (children : List Child) : Traced Node := do
  let body ← match child? children "body" with
    | none => pure .absent
    | some child => do
      pure (.block child.tree.line (← child.reading.statements))
  return nestNamespaces tree.line body (namespaceNames source tree)

/-- An enumeration. -/
def enumOf (source : ByteArray) (tree : Tree) : Node :=
  .enumDecl tree.line (Tree.optionalIdentifier source (tree.child? "name"))
    (match tree.child? "body" with
      | some body => body.enumMembers source
      | none => [])

/-- A node as a statement: wrappers stand for the statements in them, declarations for themselves,
and everything else for nothing. -/
def statementOf (source : ByteArray) (tree : Tree) (children : List Child) :
    Traced (List Node) :=
  match tree.kind with
  | "ambient_declaration" | "export_statement" | "expression_statement" | "statement_block" =>
    gather children Reading.statement
  | "internal_module" | "module" => do
    return [← namespaceOf source tree children]
  | "interface_declaration" => do
    return [← interfaceOf source tree children]
  | "class_declaration" | "abstract_class_declaration" | "class" => do
    return [← classOf source tree children]
  | "type_alias_declaration" => do
    let type ← typeIn children "value"
    return [.aliasDecl tree.line (Tree.optionalIdentifier source (tree.child? "name"))
      (tree.declaredTypeParameters source) type]
  | "lexical_declaration" | "variable_declaration" => do
    return [.variableStatement tree.line (← gatherSome children Reading.variableDecl)]
  | "function_signature" | "function_declaration" => do
    return [← functionOf source tree children]
  | "enum_declaration" => pure [enumOf source tree]
  | "ERROR" => do
    Traced.note (.unparsable tree.lineNumber)
    return []
  | kind => do
    Traced.note (.otherStatement kind tree.lineNumber)
    return []

/-- The reading of a node, made from the readings of its children. -/
def ofChildren (source : ByteArray) (tree : Tree) (children : List Child) : Reading where
  type := typeOf source tree children
  annotation := annotationOf source tree children
  types := gatherEach children Reading.type
  arms := unionArms children
  statement := statementOf source tree children
  statements := gather children Reading.statement
  member := memberOf source tree children false
  classMember := memberOf source tree children true
  members := gatherSome children Reading.member
  classMembers := gatherSome children Reading.classMember
  parameter := parameterOf source tree children
  parameters := gatherSome children Reading.parameter
  heritageType := heritageTypeOf source tree children
  heritageTypes := gatherEach children Reading.heritageType
  extendedTypes := extendedTypesFrom source none (parts children)
  classHeritage := classHeritageOf children
  variableDecl := variableOf source tree children

end Reading

mutual

/-- The reading of a node of a parse tree over the given source. -/
def Tree.reading (source : ByteArray) : Tree → Reading
  | tree@(.node _ _ _ _ _ _ children) => Reading.ofChildren source tree (childReadings source children)

/-- The readings of a list of nodes. -/
def childReadings (source : ByteArray) : List Tree → List Reading.Child
  | [] => []
  | tree :: trees => ⟨tree, tree.reading source⟩ :: childReadings source trees

end

/-- The statements of the parts of a tree. -/
def Tree.statements (source : ByteArray) (tree : Tree) : Traced (List Node) :=
  (tree.reading source).statements

/-- Each child is read by itself. -/
theorem childReadings_eq_map (source : ByteArray) (trees : List Tree) :
    childReadings source trees = trees.map fun tree => ⟨tree, tree.reading source⟩ := by
  induction trees with
  | nil => rfl
  | cons tree trees ih => simp [childReadings, ih]

/-- A node is read through its children. -/
theorem Tree.reading_eq (source : ByteArray) (tree : Tree) :
    tree.reading source = Reading.ofChildren source tree (childReadings source tree.children) := by
  cases tree
  rfl

end ReasonBindings
