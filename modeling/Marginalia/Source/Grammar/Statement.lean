/-
The grammar of statements, and of the mistakes made in them.
-/
import Marginalia.Source.Grammar.Case
import Marginalia.Source.Grammar.Expression
import Marginalia.Source.Grammar.Parameter

namespace Marginalia

namespace Grammar

open Branch Pattern

namespace StatementRule

open ExprRule (expression expressions namedExpression starExpressions starNamedExpression
  starNamedExpressions yieldExpression)
open TargetRule (targets target singleTarget singlePlace)

/-- The signs of assignments that change a value. -/
def augmentations : List String := ["+=", "-=", "*=", "@=", "/=", "%=", "&=", "|=", "^=", "<<=",
  ">>=", "**=", "//="]

/-- A statement that begins with one of some words or signs. -/
def begins (words : List String) (r : Pattern) : Branch :=
  pick 1 [ahead (either (words.map text)), r]

/-- A block under a colon. -/
def underColon (ps : List Pattern) : Branch := node (ps ++ [text ":", block])

/-- Parts behind `async`, or alone. -/
def maybeAsync (ps : List Pattern) : List Pattern := optional "async" :: ps

/-- A target of assignments and the sign behind it. -/
def assignedTo : Pattern := row 0 [targets, "="]

/-- The other name that something gets. -/
def renamed : Pattern := optional (row 1 ["as", name])

/-- The bases of a class. -/
def bases : Pattern := optional (row 1 ["(", optional ExprRule.arguments, ")"])

/-- The contexts of a block, alone or in brackets; an item is read by some pattern. -/
def contexts (alone bracketed : Pattern) : List (List Pattern) := [
  ["with", listed alone],
  ["with", "(", listed bracketed, optional ",", ")"]]

/-- A context with its target, where mistakes are looked for. -/
def roughContext (e : ExprRule) : Pattern := .oneOf [node [e, optional (row 1 ["as", target])]]

/-- The name and the parameters of a function. -/
def functionParts : List Pattern := [name, optional typeParameters, must "(", optional (.rule (.parameter .typed .all)),
  ")", optional (row 1 ["->", expression]), must ":", block]

/-- The branches of the rules for statements. -/
def branches : StatementRule → List Branch
  | statementText => [node [optional statements, finish]]
  | expressionText => [node [expressions, many newline, finish]]
  | fieldText => [only starExpressions]
  | statements => [node [some statement]]
  | statement => [only compoundStatement, only simpleStatements]
  | simpleStatements => [
    node [simpleStatement, absent ";", newline],
    node [separated ";" simpleStatement, optional ";", newline]]
  | simpleStatement => [
    only assignment,
    pick 1 [ahead (word "type"), typeAlias],
    only starExpressions,
    begins ["return"] result,
    begins ["import", "from"] importStatement,
    begins ["raise"] raise,
    only "pass",
    begins ["del"] deletion,
    begins ["yield"] yieldExpression,
    begins ["assert"] assertion,
    only "break",
    only "continue",
    begins ["global"] global,
    begins ["nonlocal"] nonlocal]
  | compoundStatement => [
    begins ["def", "@", "async"] functionDef,
    begins ["if"] ifStatement,
    begins ["class", "@"] classDef,
    begins ["with", "async"] withStatement,
    begins ["for", "async"] forStatement,
    begins ["try"] tryStatement,
    begins ["while"] whileStatement,
    only matchStatement]
  | assignment => [
    node [name, ":", expression, optional (row 1 ["=", value])],
    node [.oneOf [pick 1 ["(", singleTarget, ")"], only singlePlace], ":", expression,
      optional (row 1 ["=", value])],
    node [some assignedTo, value, absent "="],
    node [singleTarget, augmentation, committed, value],
    wrong badAssignment]
  | value => [only yieldExpression, only starExpressions]
  | augmentation => augmentations.map fun s => only (text s)
  | result => [node ["return", optional starExpressions]]
  | raise => [
    node ["raise", expression, optional (row 1 ["from", expression])],
    node ["raise"]]
  | global => [node ["global", listed name]]
  | nonlocal => [node ["nonlocal", listed name]]
  | deletion => [
    node ["del", TargetRule.deletedTargets, ahead (either [";", newline])],
    wrong badDeletion]
  | assertion => [node ["assert", expression, optional (row 1 [",", expression])]]
  | typeAlias => [node [word "type", name, optional typeParameters, "=", expression]]
  | typeParameters => [node ["[", listed typeParameter, optional ",", "]"]]
  | typeParameter => [
    node [name, optional (row 1 [":", expression])],
    wrong badTypeParameter,
    node ["*", name],
    node ["**", name]]
  | importStatement => [only importModules, only importNames]
  | importModules => [node ["import", listed importedModule]]
  | importNames => [
    node ["from", many (either [".", "..."]), dottedName, "import", importedNames],
    node ["from", some (either [".", "..."]), "import", importedNames]]
  | importedNames => [
    node ["(", listed importedName, optional ",", ")"],
    node [listed importedName, absent ","],
    node ["*"],
    wrong badImportedNames]
  | importedName => [node [name, renamed]]
  | importedModule => [node [dottedName, renamed]]
  | dottedName => [node [dottedName, ".", name], only name]
  | block => [
    node [newline, indent, statements, dedent],
    only simpleStatements,
    wrong badBlock]
  | decorators => [node [some (row 1 ["@", namedExpression, newline])]]
  | classDef => [node [decorators, bareClassDef], only bareClassDef]
  | bareClassDef => [wrong badClassDef, underColon ["class", name, optional typeParameters, bases]]
  | functionDef => [node [decorators, bareFunctionDef], only bareFunctionDef]
  | bareFunctionDef => [
    wrong badFunctionDef,
    node ("def" :: functionParts),
    node ("async" :: "def" :: functionParts)]
  | ifStatement => [
    wrong badIf,
    node ["if", namedExpression, ":", block, elifStatement],
    node ["if", namedExpression, ":", block, optional elseBlock]]
  | elifStatement => [
    wrong badElif,
    node ["elif", namedExpression, ":", block, elifStatement],
    node ["elif", namedExpression, ":", block, optional elseBlock]]
  | elseBlock => [wrong badElse, node ["else", must ":", block]]
  | whileStatement => [
    wrong badWhile,
    node ["while", namedExpression, ":", block, optional elseBlock]]
  | forStatement => [
    wrong badFor,
    node ["for", targets, "in", committed, starExpressions, ":", block, optional elseBlock],
    node ["async", "for", targets, "in", committed, starExpressions, ":", block,
      optional elseBlock],
    wrong ExprRule.badLoopTarget]
  | withStatement => [
    wrong badWithBlock,
    underColon ["with", "(", listed withItem, optional ",", ")"],
    underColon ["with", listed withItem],
    underColon ["async", "with", "(", listed withItem, optional ",", ")"],
    underColon ["async", "with", listed withItem],
    wrong badWith]
  | withItem => [
    node [expression, "as", target, ahead (either [",", ")", ":"])],
    wrong badWithItem,
    only expression]
  | tryStatement => [
    wrong badTry,
    node ["try", must ":", block, finallyBlock],
    node ["try", must ":", block, some exceptBlock, optional elseBlock, optional finallyBlock],
    node ["try", must ":", block, some exceptStarBlock, optional elseBlock,
      optional finallyBlock]]
  | exceptBlock => [
    wrong badExceptBlock,
    underColon ["except", expression, renamed],
    underColon ["except"],
    wrong badExcept]
  | exceptStarBlock => [
    wrong badExceptStarBlock,
    underColon ["except", "*", expression, renamed],
    wrong badExcept]
  | finallyBlock => [wrong badFinally, node ["finally", must ":", block]]
  | matchStatement => [
    node [word "match", CaseRule.subject, ":", newline, indent, some CaseRule.case, dedent],
    wrong badMatch]
  | badAssignment => [
    blame 0 [badTypedTarget, ":", expression],
    blame 0 [starNamedExpression, ",", many starNamedExpressions, ":", expression],
    blame 0 [expression, ":", expression],
    ([many assignedTo, starExpressions, "="], .blameTarget .binding 1),
    blame 1 [many assignedTo, yieldExpression, "="],
    blame 0 [starExpressions, augmentation, value]]
  | badTypedTarget => [
    only ExprRule.list,
    only ExprRule.tuple,
    pick 1 ["(", badTypedTarget, ")"]]
  | badDeletion => [(["del", starExpressions], .blameTarget .deletion 1)]
  | badBlock => [noBlock []]
  | badImportedNames => [blameLast [listed importedName, ",", newline]]
  | badTypeParameter => [
    blame 2 ["*", name, ":", expression],
    blame 2 ["**", name, ":", expression]]
  | badClassDef => [
    blameLast ["class", name, optional typeParameters, bases, newline],
    noBlock ["class", name, optional typeParameters, bases, ":"]]
  | badFunctionDef => [
    noBlock (maybeAsync ["def", name, optional typeParameters, "(", optional (.rule (.parameter .typed .all)), ")",
      optional (row 1 ["->", expression]), ":"])]
  | badIf => [
    blameLast ["if", namedExpression, newline],
    noBlock ["if", namedExpression, ":"]]
  | badElif => [
    blameLast ["elif", namedExpression, newline],
    noBlock ["elif", namedExpression, ":"]]
  | badElse => [noBlock ["else", ":"]]
  | badWhile => [
    blameLast ["while", namedExpression, newline],
    noBlock ["while", namedExpression, ":"]]
  | badFor => [
    blameLast (maybeAsync ["for", targets, "in", starExpressions, newline]),
    noBlock (maybeAsync ["for", targets, "in", starExpressions, ":"])]
  | badWith => (contexts (roughContext .expression) (roughContext .expressions)).map
      fun ps => blameLast (maybeAsync (ps ++ [newline]))
  | badWithBlock => (contexts (roughContext .expression) (roughContext .expressions)).map
      fun ps => noBlock (maybeAsync (ps ++ [text ":"]))
  | badWithItem => [
    ([expression, "as", expression, ahead (either [",", ")", ":"])], .blameTarget .binding 2)]
  | badTry => [
    noBlock ["try", ":"],
    blameLast ["try", ":", block, absent (either ["except", "finally"])],
    blame 4 ["try", ":", many block, some exceptBlock, "except", "*", expression, renamed, ":"],
    blame 4 ["try", ":", many block, some exceptStarBlock, "except",
      optional (row 0 [expression, renamed]), ":"]]
  | badExcept => [
    blame 2 ["except", optional "*", expression, ",", expressions, renamed, ":"],
    blameLast ["except", optional "*", expression, renamed, newline],
    blameLast ["except", newline],
    blameLast ["except", "*", either [newline, ":"]]]
  | badExceptBlock => [
    noBlock ["except", expression, renamed, ":"],
    noBlock ["except", ":"]]
  | badExceptStarBlock => [noBlock ["except", "*", expression, renamed, ":"]]
  | badFinally => [noBlock ["finally", ":"]]
  | badMatch => [
    blameLast [word "match", CaseRule.subject, newline],
    noBlock [word "match", CaseRule.subject, ":"]]

end StatementRule

/-- The branches of a rule. -/
def Rule.branches : Rule → List Branch
  | expr r => ExprRule.branches r
  | target r => TargetRule.branches r
  | parameter style r => ParameterRule.branches style r
  | case r => CaseRule.branches r
  | statement r => StatementRule.branches r

end Grammar

end Marginalia
