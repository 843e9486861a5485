/-!
# Declaration syntax trees

A declaration file is a tree of nodes.  The classes of nodes form a small
hierarchy: members, signatures, types and statements have attributes in common,
and a function type is both a signature and a type.  A tree may come from outside
the library, so a node of any class may stand in any place; whether a tree is
sensible is a property of the tree and not built into its type.

The module gives the type of nodes, the names of their classes, and the
attributes.  An attribute is a partial function: its value is `none` at a node
whose class does not have it.
-/

namespace ReasonBindings.Syntax

/-- The source line of a node, counted from one, when it is known. -/
abbrev Line := Option Int

/-- Classes of nodes that have nothing but a line. -/
inductive BareKind where
  | node
  | typeNode
  | statement
  | thisType
deriving Repr, BEq, DecidableEq

/-- Classes of nodes that have a text. -/
inductive TextKind where
  | identifier
  | stringLiteral
  | numericLiteral
  | stringLiteralType
  | literalType
  /-- A type that is kept as it was written. -/
  | opaqueType
deriving Repr, BEq, DecidableEq

/-- Classes of members without a parameter list. -/
inductive FieldKind where
  | member
  | propertySignature
  | propertyDeclaration
deriving Repr, BEq, DecidableEq

/-- Classes of members with a parameter list. -/
inductive SignatureKind where
  | signature
  | methodSignature
  | methodDeclaration
  | callSignature
  | constructSignature
  | indexSignature
  | constructor
  | functionType
  | functionDeclaration
deriving Repr, BEq, DecidableEq

/-- A node of a declaration syntax tree. -/
inductive Node where
  /-- No node: an omitted name, annotation, expression or body. -/
  | absent
  /-- A bare word in the place of a node, as in the member list of an enumeration. -/
  | word (text : String)
  | bare (kind : BareKind) (line : Line)
  | text (kind : TextKind) (line : Line) (text : String)
  /-- A dotted type name. -/
  | qualifiedName (line : Line) (left right : Node)
  /-- A dotted value expression. -/
  | propertyAccess (line : Line) (expression name : Node)
  /-- A member name in brackets. -/
  | computedName (line : Line) (expression : Node)
  /-- A predefined type. -/
  | keywordType (line : Line) (keyword : String)
  | arrayType (line : Line) (element : Node)
  | unionType (line : Line) (arms : List Node)
  | tupleType (line : Line) (elements : List Node)
  | parenthesizedType (line : Line) (inner : Node)
  | typeReference (line : Line) (name : Node) (arguments : List Node)
  /-- An entry of a heritage clause. -/
  | heritageType (line : Line) (expression : Node) (arguments : List Node)
  /-- An object type written in place. -/
  | objectType (line : Line) (members : List Node)
  | typeParameter (line : Line) (name : Node)
  | parameter (line : Line) (name type : Node) (optional rest : Bool)
  | field (kind : FieldKind) (line : Line) (name type : Node) (optional : Bool)
    (modifiers : List String)
  | signature (kind : SignatureKind) (line : Line) (name type : Node) (optional : Bool)
    (modifiers : List String) (typeParameters parameters : List Node)
  | heritageClause (line : Line) (token : String) (types : List Node)
  | interfaceDecl (line : Line) (name : Node) (typeParameters heritage members : List Node)
  | classDecl (line : Line) (name : Node) (typeParameters heritage members : List Node)
    (modifiers : List String)
  | aliasDecl (line : Line) (name : Node) (typeParameters : List Node) (type : Node)
  | variableDecl (line : Line) (name type : Node)
  | variableStatement (line : Line) (declarations : List Node)
  /-- An enumeration; its members are bare words. -/
  | enumDecl (line : Line) (name : Node) (members : List Node)
  /-- The statements between the braces of a namespace. -/
  | block (line : Line) (statements : List Node)
  | namespaceDecl (line : Line) (name body : Node)
  | sourceFile (line : Line) (fileName : String) (statements : List Node)
deriving Repr, BEq, Inhabited

/-- The name of a class without attributes. -/
def BareKind.className : BareKind → String
  | node => "Node"
  | typeNode => "TypeNode"
  | statement => "Statement"
  | thisType => "ThisType"

/-- The name of a class with a text. -/
def TextKind.className : TextKind → String
  | identifier => "Identifier"
  | stringLiteral => "StringLiteral"
  | numericLiteral => "NumericLiteral"
  | stringLiteralType => "StringLiteralType"
  | literalType => "LiteralType"
  | opaqueType => "OpaqueType"

/-- The name of a class of members without parameters. -/
def FieldKind.className : FieldKind → String
  | member => "Member"
  | propertySignature => "PropertySignature"
  | propertyDeclaration => "PropertyDeclaration"

/-- The name of a class of members with parameters. -/
def SignatureKind.className : SignatureKind → String
  | signature => "SignatureDeclaration"
  | methodSignature => "MethodSignature"
  | methodDeclaration => "MethodDeclaration"
  | callSignature => "CallSignature"
  | constructSignature => "ConstructSignature"
  | indexSignature => "IndexSignature"
  | constructor => "Constructor"
  | functionType => "FunctionType"
  | functionDeclaration => "FunctionDeclaration"

namespace Node

/-- The name of the class of a node. -/
def className : Node → String
  | absent => "NoneType"
  | word _ => "str"
  | bare kind _ => kind.className
  | text kind .. => kind.className
  | qualifiedName .. => "QualifiedName"
  | propertyAccess .. => "PropertyAccessExpression"
  | computedName .. => "ComputedPropertyName"
  | keywordType .. => "KeywordType"
  | arrayType .. => "ArrayType"
  | unionType .. => "UnionType"
  | tupleType .. => "TupleType"
  | parenthesizedType .. => "ParenthesizedType"
  | typeReference .. => "TypeReference"
  | heritageType .. => "ExpressionWithTypeArguments"
  | objectType .. => "TypeLiteral"
  | typeParameter .. => "TypeParameter"
  | parameter .. => "Parameter"
  | field kind .. => kind.className
  | signature kind .. => kind.className
  | heritageClause .. => "HeritageClause"
  | interfaceDecl .. => "InterfaceDeclaration"
  | classDecl .. => "ClassDeclaration"
  | aliasDecl .. => "TypeAliasDeclaration"
  | variableDecl .. => "VariableDeclaration"
  | variableStatement .. => "VariableStatement"
  | enumDecl .. => "EnumDeclaration"
  | block .. => "ModuleBlock"
  | namespaceDecl .. => "ModuleDeclaration"
  | sourceFile .. => "SourceFile"

/-! ### Attributes -/

/-- The line attribute, which every node proper has. -/
def line? : Node → Option Line
  | absent | word _ => none
  | bare _ line | text _ line _ | qualifiedName line .. | propertyAccess line .. |
    computedName line _ | keywordType line _ | arrayType line _ | unionType line _ |
    tupleType line _ | parenthesizedType line _ | typeReference line .. | heritageType line .. |
    objectType line _ | typeParameter line _ | parameter line .. | field _ line .. |
    signature _ line .. | heritageClause line .. | interfaceDecl line .. | classDecl line .. |
    aliasDecl line .. | variableDecl line .. | variableStatement line _ | enumDecl line .. |
    block line _ | namespaceDecl line .. | sourceFile line .. => some line

/-- The name attribute. -/
def name? : Node → Option Node
  | propertyAccess _ _ name | typeParameter _ name | parameter _ name .. | field _ _ name .. |
    signature _ _ name .. | interfaceDecl _ name .. | classDecl _ name .. | aliasDecl _ name .. |
    variableDecl _ name _ | enumDecl _ name _ | namespaceDecl _ name _ => some name
  | _ => none

/-- The text of a name or a literal; that of a dotted name is put together from its two sides. -/
def text? : Node → Option String
  | text _ _ content => some content
  | qualifiedName _ left right | propertyAccess _ left right =>
    match left.text?, right.text? with
    | some first, some second => some s!"{first}.{second}"
    | _, _ => none
  | _ => none

/-- The type attribute. -/
def type? : Node → Option Node
  | parenthesizedType _ type | parameter _ _ type .. | field _ _ _ type .. |
    signature _ _ _ type .. | aliasDecl _ _ _ type | variableDecl _ _ type => some type
  | _ => none

/-- Whether a question mark follows the name. -/
def optional? : Node → Option Bool
  | parameter _ _ _ optional _ | field _ _ _ _ optional _ | signature _ _ _ _ optional .. =>
    some optional
  | _ => none

/-- Whether a parameter takes all remaining arguments. -/
def rest? : Node → Option Bool
  | parameter _ _ _ _ rest => some rest
  | _ => none

/-- The modifiers; a node without that attribute has none. -/
def modifiers : Node → List String
  | field _ _ _ _ _ modifiers | signature _ _ _ _ _ modifiers .. | classDecl _ _ _ _ _ modifiers =>
    modifiers
  | _ => []

/-- The attribute for declared type parameters. -/
def typeParameters? : Node → Option (List Node)
  | signature _ _ _ _ _ _ typeParameters _ | interfaceDecl _ _ typeParameters .. |
    classDecl _ _ typeParameters .. | aliasDecl _ _ typeParameters _ => some typeParameters
  | _ => none

/-- The attribute for parameters. -/
def parameters? : Node → Option (List Node)
  | signature _ _ _ _ _ _ _ parameters => some parameters
  | _ => none

/-- The attribute for members. -/
def members? : Node → Option (List Node)
  | objectType _ members | interfaceDecl _ _ _ _ members | classDecl _ _ _ _ members _ |
    enumDecl _ _ members => some members
  | _ => none

/-- The heritage clauses; a node without that attribute has none. -/
def heritage : Node → List Node
  | interfaceDecl _ _ _ heritage _ | classDecl _ _ _ heritage .. => heritage
  | _ => []

/-- The attribute for a list of types. -/
def types? : Node → Option (List Node)
  | unionType _ types | heritageClause _ _ types => some types
  | _ => none

/-- The attribute for declared variables. -/
def declarations? : Node → Option (List Node)
  | variableStatement _ declarations => some declarations
  | _ => none

/-- The attribute for the body of a namespace. -/
def body? : Node → Option Node
  | namespaceDecl _ _ body => some body
  | _ => none

/-- The attribute for statements. -/
def statements? : Node → Option (List Node)
  | block _ statements | sourceFile _ _ statements => some statements
  | _ => none

/-- The attribute for the path of a declaration file. -/
def fileName? : Node → Option String
  | sourceFile _ fileName _ => some fileName
  | _ => none

/-- Whether the node is a member of the class itself rather than of its instances. -/
def isStatic (node : Node) : Bool :=
  node.modifiers.contains "static"

/-! ### Names -/

/-- An identifier. -/
def identifier (line : Line) (text : String) : Node :=
  .text .identifier line text

/-- A dotted type name with the given identifiers, of which there is at least one. -/
def dottedTypeName (line : Line) (first : String) (others : List String) : Node :=
  others.foldl (fun left part => qualifiedName line left (identifier line part))
    (identifier line first)

/-- A dotted value expression with the given identifiers, of which there is at least one. -/
def dottedExpression (line : Line) (first : String) (others : List String) : Node :=
  others.foldl (fun left part => propertyAccess line left (identifier line part))
    (identifier line first)

end Node

end ReasonBindings.Syntax
