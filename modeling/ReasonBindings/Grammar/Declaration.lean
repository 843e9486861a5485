import ReasonBindings.Grammar.Expression

/-!
# Declarations

What a declaration file is made of: variables, functions, classes, interfaces,
type aliases, enumerations and namespaces, each perhaps declared to exist
elsewhere, and imports and exports.
-/

namespace ReasonBindings.Grammar

open Rule

/-! ### Variables -/

/-- The declaration of one variable. -/
def variableDeclarator (g : Grammar) : Rule :=
  node "variable_declarator" [
    field "name" (g .pattern), optional (sign "!"), optional g.typeAnnotation,
    optional g.initialValue]

/-- The declarations of several variables. -/
def variableDeclarators (g : Grammar) : Rule :=
  separated (sign ",") g.variableDeclarator

/-- The declarations of several variables and their end. -/
def variableList (g : Grammar) : Rule :=
  g.variableDeclarators.andThen fun declarators =>
    let ending : Cursor.Ending := if fills "value" declarators then .expression else .plain
    seq [yield declarators, terminator ending]

/-- A declaration of constants or of variables of a block. -/
def lexicalDeclaration (g : Grammar) : Rule :=
  node "lexical_declaration" [field "kind" (anyWord ["let", "const"]), g.variableList]

/-- A declaration of variables of a function. -/
def variableDeclaration (g : Grammar) : Rule :=
  node "variable_declaration" [word "var", g.variableList]

/-! ### Functions, classes and interfaces -/

/-- The kind of a declaration of a function with the given parts. -/
def functionKind (parts : List Tree) : String :=
  if has "*" parts then "generator_function_declaration"
  else if has "statement_block" parts then "function_declaration"
  else "function_signature"

/-- A declaration of a function. -/
def functionDeclaration (g : Grammar) : Rule :=
  nodeOf functionKind <| seq [
    optional (word "async"), word "function",
    choice [
      seq [sign "*", field "name" (name "identifier"), g.signature, g.functionBody],
      seq [field "name" (name "identifier"), g.signature,
        choice [g.functionBody, terminator .signature]]]]

/-- A declaration of a class. -/
def classDeclaration (g : Grammar) : Rule :=
  choice [
    node "class_declaration" [many g.decorator, word "class", className, g.classRest],
    node "abstract_class_declaration" [
      many g.decorator, word "abstract", word "class", className, g.classRest]]

/-- The interfaces that an interface extends. -/
def extendsTypeClause (g : Grammar) : Rule :=
  node "extends_type_clause" [word "extends", separated (sign ",") (field "type" g.typeReference)]

/-- A declaration of an interface. -/
def interfaceDeclaration (g : Grammar) : Rule :=
  node "interface_declaration" [
    word "interface", field "name" (name "type_identifier"), optional g.typeParameters,
    optional g.extendsTypeClause, field "body" g.interfaceBody]

/-! ### Type aliases and enumerations -/

/-- A declaration of a type alias. -/
def typeAliasDeclaration (g : Grammar) : Rule :=
  node "type_alias_declaration" [
    word "type", field "name" (name "type_identifier"), optional g.typeParameters, sign "=",
    field "value" (g .type), terminator .plain]

/-- A member of an enumeration. -/
def enumMember (g : Grammar) : Rule :=
  (field "name" g.propertyName).andThen fun trees => choice [
    nodeFrom "enum_assignment" trees [g.initialValue],
    yield trees]

/-- A declaration of an enumeration. -/
def enumDeclaration (g : Grammar) : Rule :=
  node "enum_declaration" [
    optional (word "const"), word "enum", field "name" (name "identifier"),
    field "body" (node "enum_body" [list "\x7b" g.enumMember "\x7d"])]

/-! ### Namespaces -/

/-- A name of a value, perhaps in a namespace. -/
def dottedName : Rule :=
  grow (name "identifier") fun left =>
    nodeFrom "nested_identifier" (left.map (Tree.filling "object"))
      [sign ".", field "property" (name "property_identifier")]

/-- A namespace behind the word that declares it; it may have no body. -/
def namespaceRest (g : Grammar) : Rule :=
  seq [field "name" (choice [string, dottedName]), optional g.functionBody]

/-- A namespace. -/
def internalModule (g : Grammar) : Rule :=
  node "internal_module" [word "namespace", g.namespaceRest]

/-- A namespace or the contents of a file. -/
def moduleDeclaration (g : Grammar) : Rule :=
  node "module" [word "module", g.namespaceRest]

/-! ### Imports -/

/-- The file that an import or an export refers to. -/
def fromClause : Rule :=
  seq [word "from", field "source" string]

/-- A name in a list of imports or exports, perhaps with another name for it. -/
def specifier (kind : String) : Rule :=
  let exported := choice [string, name "identifier"]
  node kind [
    optional (seq [anyWord ["type", "typeof"], notAhead (word "as"), ahead exported]),
    field "name" exported, optional (seq [word "as", field "alias" exported])]

/-- The names that are imported. -/
def importClause : Rule :=
  let named := node "named_imports" [list "\x7b" (specifier "import_specifier") "\x7d"]
  let all := node "namespace_import" [sign "*", word "as", name "identifier"]
  node "import_clause" [choice [
    all, named, seq [name "identifier", optional (seq [sign ",", choice [all, named]])]]]

/-- An import of another file. -/
def importStatement : Rule :=
  node "import_statement" [
    word "import",
    optional (seq [anyWord ["type", "typeof"],
      notAhead (choice [word "from", sign ",", sign "="])]),
    choice [
      seq [importClause, fromClause],
      node "import_require_clause" [name "identifier", sign "=", word "require", sign "(",
        field "source" string, sign ")"],
      field "source" string],
    terminator .expression]

/-- Another name for a name. -/
def importAlias : Rule :=
  node "import_alias" [
    word "import", name "identifier", sign "=", dottedName, terminator .plain]

/-! ### All declarations -/

/-- A declaration that is not marked as existing elsewhere. -/
def plainDeclaration (g : Grammar) : Rule :=
  choice [
    g.functionDeclaration, g.classDeclaration, g.interfaceDeclaration, g.typeAliasDeclaration,
    g.enumDeclaration, g.internalModule, g.moduleDeclaration, g.lexicalDeclaration,
    g.variableDeclaration, importAlias]

/-- A declaration of something that exists elsewhere. -/
def ambientDeclaration (g : Grammar) : Rule :=
  node "ambient_declaration" [word "declare", choice [
    g.plainDeclaration,
    seq [word "global", g.statementBlock],
    seq [word "module", sign ".", name "property_identifier", sign ":", g .type,
      terminator .plain]]]

/-- A declaration. -/
def declaration (g : Grammar) : Rule :=
  choice [g.plainDeclaration, g.ambientDeclaration]

/-! ### Exports -/

/-- The names that are exported. -/
def exportClause : Rule :=
  node "export_clause" [list "\x7b" (specifier "export_specifier") "\x7d"]

/-- What the word `export` stands in front of. -/
def exported (g : Grammar) : Rule :=
  choice [
    seq [word "default", choice [
      field "declaration" g.declaration,
      seq [field "value" (g .assignment), terminator .expression]]],
    seq [sign "*", fromClause, terminator .expression],
    seq [node "namespace_export" [sign "*", word "as", choice [string, name "identifier"]],
      fromClause, terminator .expression],
    seq [optional (word "type"), exportClause, optional fromClause, terminator .expression],
    seq [sign "=", g .expression, terminator .expression],
    seq [word "as", word "namespace", name "identifier", terminator .plain],
    field "declaration" g.declaration]

/-- An export. -/
def exportStatement (g : Grammar) : Rule :=
  node "export_statement" [many g.decorator, word "export", g.exported]

end ReasonBindings.Grammar
