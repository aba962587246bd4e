/-
The rules of the grammar by name, in families.

Rules whose names begin with `bad` describe what is written by mistake; nothing is ever
read by them, but they know whom to blame.
-/
import Marginalia.Source.Token

namespace Marginalia

namespace Grammar

/-- Rules for expressions. -/
inductive ExprRule where
  | expressions | expression | plainExpression | yieldExpression
  | starExpressions | starExpression | starNamedExpressions | starNamedExpression
  | assignmentExpression | namedExpression
  | disjunction | conjunction | inversion | comparison | membership | relation
  | bitwiseOr | bitwiseXor | bitwiseAnd | shift | sum | term | factor | power
  | awaited | primary | slices | slice | atom | group | lambda | texts
  | list | tuple | set | dict | entries | entry | keyedEntry
  | clauses | clause | listComprehension | setComprehension | generator | dictComprehension
  | arguments | argumentList | keywords | starredExpression
  | keywordOrStarred | keywordOrUnpacked
  | badExpression | badFormerStatement | badNamedExpression
  | badGroup | badEntries | badEntry | badComprehension | badDictComprehension
  | badLoopTarget | badArguments | badKeyword
deriving DecidableEq, Hashable, Repr

/-- Rules for what values are bound to. -/
inductive TargetRule where
  | targets | targetList | targetTuple | target | targetPlace | targetAtom
  | singleTarget | singlePlace | targetPrimary | targetGoesOn
  | deletedTargets | deletedTarget | deletedAtom
deriving DecidableEq, Hashable, Repr

/-- Where parameters stand: typed ones in brackets behind the name of a function, bare
ones between `lambda` and a colon. -/
inductive ParameterStyle where
  | typed | bare
deriving DecidableEq, Hashable, Repr

/-- Rules for parameters. -/
inductive ParameterRule where
  | all | parameters
  | slashNoDefault | slashWithDefault | starEtc | otherKeywords
  | noDefault | noDefaultStarType | withDefault | maybeDefault
  | parameter | starTypedParameter | default
  | badParameters | badDefaultsBefore | badStarEtc | badOtherKeywords | badDefault
deriving DecidableEq, Hashable, Repr

/-- Rules for the patterns of cases. -/
inductive CaseRule where
  | subject | case | guard | patterns | pattern | asPattern | orPattern | closedPattern
  | literalPattern | literalKey | complexNumber | signedNumber | signedRealNumber
  | captureTarget | wildcard | valuePattern | dotted | nameOrDotted
  | groupPattern | sequencePattern | openSequence | sequence | maybeStarPattern | starPattern
  | mappingPattern | mappingItems | mappingItem | doubleStarPattern
  | classPattern | positionalPatterns | keywordPatterns | keywordPattern
  | badCase | badAsPattern | badClassPattern | badClassArguments
deriving DecidableEq, Hashable, Repr

/-- Rules for statements. -/
inductive StatementRule where
  /-- A whole text: statements, one expression, or the expression of a field. -/
  | statementText | expressionText | fieldText
  | statements | statement | simpleStatements | simpleStatement | compoundStatement
  | assignment | value | augmentation
  | result | raise | global | nonlocal | deletion | assertion
  | typeAlias | typeParameters | typeParameter
  | importStatement | importModules | importNames | importedNames | importedName | importedModule
  | dottedName
  | block | decorators | classDef | bareClassDef | functionDef | bareFunctionDef
  | ifStatement | elifStatement | elseBlock | whileStatement | forStatement
  | withStatement | withItem
  | tryStatement | exceptBlock | exceptStarBlock | finallyBlock | matchStatement
  | badAssignment | badTypedTarget | badDeletion | badBlock | badImportedNames
  | badTypeParameter
  | badClassDef | badFunctionDef
  | badIf | badElif | badElse | badWhile | badFor
  | badWith | badWithBlock | badWithItem
  | badTry | badExcept | badExceptBlock | badExceptStarBlock | badFinally | badMatch
deriving DecidableEq, Hashable, Repr

/-- Rules of the grammar. -/
inductive Rule where
  | expr (r : ExprRule)
  | target (r : TargetRule)
  | parameter (style : ParameterStyle) (r : ParameterRule)
  | case (r : CaseRule)
  | statement (r : StatementRule)
deriving DecidableEq, Hashable, Repr

/-- Whether what a rule finds at a place is kept for the next time it is tried there. -/
def Rule.isKept : Rule → Bool
  | expr r => [ExprRule.expression, .starExpression, .disjunction, .conjunction, .inversion,
      .bitwiseOr, .bitwiseXor, .bitwiseAnd, .shift, .sum, .term, .factor, .awaited, .primary,
      .texts, .arguments, .badNamedExpression].contains r
  | target r => [TargetRule.target, .targetPlace, .targetPrimary, .deletedTarget].contains r
  | parameter .. => false
  | case r => [CaseRule.closedPattern, .starPattern, .dotted].contains r
  | statement r => [StatementRule.simpleStatement, .typeParameter, .block, .dottedName].contains r

/-- Whether a rule begins with itself: it takes as much as repeating it can. -/
def Rule.isLeftRecursive : Rule → Bool
  | expr r => [ExprRule.bitwiseOr, .bitwiseXor, .bitwiseAnd, .shift, .sum, .term,
      .primary].contains r
  | target r => r == .targetPrimary
  | parameter .. => false
  | case r => r == .dotted
  | statement r => r == .dottedName

end Grammar

end Marginalia
