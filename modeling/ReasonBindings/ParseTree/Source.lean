import ReasonBindings.ParseTree.Reading

/-!
# Source texts

A source text is parsed by a parser of its own kind, which gives a parse tree for
every text and says whether parts of it could not be parsed.  What is known about the
declarations of a source text does not depend on which parser that is.
-/

namespace ReasonBindings

/-- What a parser makes of a source text. -/
structure Parsed where
  tree : Tree
  /-- Whether a part of the text could not be parsed. -/
  broken : Bool

/-- A parser of source texts. -/
class SourceParser where
  parse : String → Parsed

/-- The declarations of a source text.  A text that is broken in places is reported and gives the
declarations that are not. -/
def parseDeclarations [SourceParser] (text fileName : String) : Traced Syntax.Node := do
  let parsed := SourceParser.parse text
  if parsed.broken then Traced.note (.syntaxErrors fileName)
  let statements ← parsed.tree.statements text.toUTF8
  Traced.note (.parsed statements.length fileName)
  return .sourceFile (some 1) fileName statements

end ReasonBindings
