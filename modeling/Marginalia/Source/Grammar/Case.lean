/-
The grammar of the patterns of cases, and of the mistakes made in them.
-/
import Marginalia.Source.Grammar.Pattern

namespace Marginalia

namespace Grammar

open Branch Pattern

namespace CaseRule

/-- Real and imaginary part, with a sign between them. -/
def sumOfParts (sign : String) : Branch :=
  node [signedRealNumber, text sign, numberOf true]

/-- Constants that stand for themselves. -/
def constants : List Branch := [
  pick 0 [signedNumber, absent (either ["+", "-"])],
  only complexNumber,
  only ExprRule.texts,
  only "None", only "True", only "False"]

/-- The branches of the rules for cases. -/
def branches : CaseRule → List Branch
  | subject => [
    node [ExprRule.starNamedExpression, ",", optional ExprRule.starNamedExpressions],
    only ExprRule.namedExpression]
  | case => [
    wrong badCase,
    node [word "case", patterns, optional guard, ":", StatementRule.block]]
  | guard => [node ["if", ExprRule.namedExpression]]
  | patterns => [node [openSequence], only pattern]
  | pattern => [only asPattern, only orPattern]
  | asPattern => [node [orPattern, "as", captureTarget], wrong badAsPattern]
  | orPattern => [node [separated "|" closedPattern]]
  | closedPattern => [
    only literalPattern,
    only captureTarget,
    only wildcard,
    only valuePattern,
    only groupPattern,
    only sequencePattern,
    only mappingPattern,
    only classPattern]
  | literalPattern => constants
  | literalKey => constants
  | complexNumber => [sumOfParts "+", sumOfParts "-"]
  | signedNumber => [only number, node ["-", number]]
  | signedRealNumber => [only (numberOf false), node ["-", numberOf false]]
  | captureTarget => [pick 1 [absent (word "_"), name, absent (either [".", "(", "="])]]
  | wildcard => [only (word "_")]
  | valuePattern => [pick 0 [dotted, absent (either [".", "(", "="])]]
  | dotted => [node [nameOrDotted, ".", name]]
  | nameOrDotted => [only dotted, only name]
  | groupPattern => [pick 1 ["(", pattern, ")"]]
  | sequencePattern => [
    node ["[", optional sequence, "]"],
    node ["(", optional openSequence, ")"]]
  | openSequence => [node [maybeStarPattern, ",", optional sequence]]
  | sequence => [node [listed maybeStarPattern, optional ","]]
  | maybeStarPattern => [only starPattern, only pattern]
  | starPattern => [node ["*", captureTarget], node ["*", wildcard]]
  | mappingPattern => [
    node ["\x7b", "\x7d"],
    node ["\x7b", doubleStarPattern, optional ",", "\x7d"],
    node ["\x7b", mappingItems, ",", doubleStarPattern, optional ",", "\x7d"],
    node ["\x7b", mappingItems, optional ",", "\x7d"]]
  | mappingItems => [node [listed mappingItem]]
  | mappingItem => [node [either [literalKey, dotted], ":", pattern]]
  | doubleStarPattern => [node ["**", captureTarget]]
  | classPattern => [
    node [nameOrDotted, "(", ")"],
    node [nameOrDotted, "(", positionalPatterns, optional ",", ")"],
    node [nameOrDotted, "(", keywordPatterns, optional ",", ")"],
    node [nameOrDotted, "(", positionalPatterns, ",", keywordPatterns, optional ",", ")"],
    wrong badClassPattern]
  | positionalPatterns => [node [listed pattern]]
  | keywordPatterns => [node [listed keywordPattern]]
  | keywordPattern => [node [name, "=", pattern]]
  | badCase => [
    blameLast [word "case", patterns, optional guard, newline],
    noBlock [word "case", patterns, optional guard, ":"]]
  | badAsPattern => [
    blame 2 [orPattern, "as", word "_"],
    blame 3 [orPattern, "as", absent name, ExprRule.expression]]
  | badClassPattern => [blame 2 [nameOrDotted, "(", badClassArguments]]
  | badClassArguments => [
    pick 3 [optional (row 0 [positionalPatterns, ","]), keywordPatterns, ",",
      positionalPatterns]]

end CaseRule

end Grammar

end Marginalia
