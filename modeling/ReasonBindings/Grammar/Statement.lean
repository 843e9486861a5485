import ReasonBindings.Grammar.Declaration

/-!
# Statements

Besides declarations a source text may hold any other statement.  Some words, such
as `declare`, announce a declaration only when it begins on the same line; at the
end of a line they are names.
-/

namespace ReasonBindings.Grammar

open Rule

/-- The words that announce a declaration and may also be names. -/
def announcingWords : List String :=
  ["declare", "namespace", "module", "type", "async", "let", "export"]

/-- A word that might announce a declaration, but stands by itself. -/
def loneWord : Rule :=
  node "expression_statement" [
    seq [ahead (anyWord announcingWords), name "identifier"], endsStatement .expression]

/-- An expression as a statement. -/
def expressionStatement (g : Grammar) : Rule :=
  node "expression_statement" [
    notAhead (choice [sign "\x7b", seq [optional (word "async"), word "function"], word "class"]),
    g .expression, terminator .expression]

/-- A namespace that is not marked as existing elsewhere. -/
def namespaceStatement (g : Grammar) : Rule :=
  g.internalModule.andThen fun trees => choice [
    nodeFrom "expression_statement" trees [terminator .expression],
    yield trees]

/-! ### Statements of the bodies of functions -/

/-- The condition of a statement. -/
def condition (g : Grammar) : Rule :=
  field "condition" g.parenthesizedExpression

/-- A statement that depends on a condition. -/
def ifStatement (g : Grammar) : Rule :=
  node "if_statement" [
    word "if", g.condition, field "consequence" (g .statement),
    optional (field "alternative" (node "else_clause" [word "else", g .statement]))]

/-- A statement that is repeated while a condition holds. -/
def whileStatement (g : Grammar) : Rule :=
  choice [
    node "while_statement" [word "while", g.condition, field "body" (g .statement)],
    node "do_statement" [word "do", field "body" (g .statement), word "while", g.condition,
      optional (sign ";")]]

/-- A statement that is repeated for each of several values. -/
def forStatement (g : Grammar) : Rule :=
  let declared : Rule := seq [field "kind" (anyWord ["let", "const", "var"]),
    field "left" (g .pattern)]
  choice [
    node "for_in_statement" [
      word "for", optional (word "await"), sign "(",
      choice [declared, field "left" (g .operand)],
      field "operator" (anyWord ["in", "of"]), field "right" (g .expression), sign ")",
      field "body" (g .statement)],
    node "for_statement" [
      word "for", sign "(",
      field "initializer" (choice [
        node "lexical_declaration" [anyWord ["let", "const"], g.variableDeclarators, sign ";"],
        node "variable_declaration" [word "var", g.variableDeclarators, sign ";"],
        node "expression_statement" [g .expression, sign ";"],
        node "empty_statement" [sign ";"]]),
      field "condition" (optional (g .expression)), sign ";",
      field "increment" (optional (g .expression)), sign ")",
      field "body" (g .statement)]]

/-- The cases of a statement that depends on a value. -/
def switchStatement (g : Grammar) : Rule :=
  node "switch_statement" [
    word "switch", field "value" g.parenthesizedExpression,
    field "body" (node "switch_body" [
      sign "\x7b",
      many (choice [
        node "switch_case" [word "case", field "value" (g .expression), sign ":",
          many (field "body" (g .statement))],
        node "switch_default" [word "default", sign ":", many (field "body" (g .statement))]]),
      sign "\x7d"])]

/-- A statement that deals with what goes wrong in a block. -/
def tryStatement (g : Grammar) : Rule :=
  let caught : Rule := seq [sign "(", field "parameter" (g .pattern), optional g.typeAnnotation,
    sign ")"]
  node "try_statement" [
    word "try", g.functionBody,
    optional (field "handler" (node "catch_clause" [
      word "catch", optional caught, g.functionBody])),
    optional (field "finalizer" (node "finally_clause" [word "finally", g.functionBody]))]

/-- A statement that leaves where it stands. -/
def jumpStatement (g : Grammar) : Rule :=
  let target : Rule := optional (seq [onSameLine, field "label" (name "statement_identifier")])
  choice [
    node "return_statement" [word "return", optional (seq [onSameLine, g .expression]),
      terminator .expression],
    node "throw_statement" [word "throw", g .expression, terminator .expression],
    node "break_statement" [word "break", target, terminator .plain],
    node "continue_statement" [word "continue", target, terminator .plain],
    node "debugger_statement" [word "debugger", terminator .plain]]

/-- A statement with a name. -/
def labeledStatement (g : Grammar) : Rule :=
  node "labeled_statement" [
    field "label" (nameBut "statement_identifier" reservedWords), sign ":",
    field "body" (g .statement)]

/-- A statement with a list of objects whose members are in scope. -/
def withStatement (g : Grammar) : Rule :=
  node "with_statement" [word "with", field "object" g.parenthesizedExpression,
    field "body" (g .statement)]

/-! ### All statements -/

/-- A statement. -/
def statement (g : Grammar) : Rule :=
  choice [
    loneWord, g.exportStatement, importStatement, g.namespaceStatement, g.declaration,
    g.ifStatement, g.whileStatement, g.forStatement, g.switchStatement, g.tryStatement,
    g.jumpStatement, g.withStatement, g.labeledStatement,
    node "empty_statement" [sign ";"], g.statementBlock, g.expressionStatement]

/-- The rule of every phrase, given the rules of the phrases inside of it. -/
def layer (g : Grammar) : Grammar
  | .type => g.type
  | .operandType => g.operandType
  | .pattern => g.pattern
  | .operand => g.operand
  | .assignment => g.assignment
  | .expression => g.expression
  | .statement => g.statement

/-- The rule of every phrase, where phrases contain each other up to the given depth. -/
def upTo : Nat → Grammar
  | 0 => fun _ => fails
  | depth + 1 => fun phrase => layer (fun inner cursor => upTo depth inner cursor) phrase

end ReasonBindings.Grammar
