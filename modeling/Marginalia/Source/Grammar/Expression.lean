/-
The grammar of expressions, loosest binding first, and of the mistakes made in them.
-/
import Marginalia.Source.Grammar.Pattern

namespace Marginalia

namespace Grammar

open Branch Pattern

namespace ExprRule

/-- Operands joined by one of some signs; they group to the left. -/
def joined (signs : List String) (left right : ExprRule) : List Branch :=
  signs.map (fun s => node [left, text s, right]) ++ [only right]

/-- An expression with a name for its value, or one behind which no `:=` comes. -/
def named : Pattern :=
  .oneOf [only assignmentExpression, pick 0 [expression, absent ":="]]

/-- A list of several items, or of one with a comma, or a single item. -/
def oneOrMore (item : ExprRule) : List Branch := [
  ([item, some (row 1 [",", item]), optional ","], .items [0, 1]),
  ([item, ","], .items [0]),
  only item]

/-- The parts of a clause behind `for`. -/
def clauseParts : List Pattern :=
  ["for", TargetRule.targets, "in", committed, disjunction, many (row 1 ["if", disjunction])]

/-- Mistakes in a pair of key and value. -/
def badPair : List Branch := [
  blame 2 [expression, ":", "*", bitwiseOr],
  blame 1 [expression, ":", ahead (either ["\x7d", ","])]]

/-- The branches of the rules for expressions. -/
def branches : ExprRule → List Branch
  | expressions => oneOrMore expression
  | expression => [
    wrong badExpression,
    wrong badFormerStatement,
    node [disjunction, "if", disjunction, "else", expression],
    only disjunction,
    only lambda]
  | plainExpression => [
    node [disjunction, "if", disjunction, "else", expression],
    only disjunction,
    only lambda]
  | yieldExpression => [
    node ["yield", "from", expression],
    node ["yield", optional starExpressions]]
  | starExpressions => oneOrMore starExpression
  | starExpression => [(["*", bitwiseOr], .starred 1), only expression]
  | starNamedExpressions => [pick 0 [listed starNamedExpression, optional ","]]
  | starNamedExpression => [(["*", bitwiseOr], .starred 1), only namedExpression]
  | assignmentExpression => [node [name, ":=", committed, expression]]
  | namedExpression => [
    only assignmentExpression,
    wrong badNamedExpression,
    pick 0 [expression, absent ":="]]
  | disjunction => [node [conjunction, some (row 1 ["or", conjunction])], only conjunction]
  | conjunction => [node [inversion, some (row 1 ["and", inversion])], only inversion]
  | inversion => [node ["not", inversion], only comparison]
  | comparison => [
    ([bitwiseOr, membership, many relation], .comparison 0 true),
    ([bitwiseOr, some relation], .comparison 0 false),
    only bitwiseOr]
  | membership => [node ["in", bitwiseOr]]
  | relation =>
    ["==", "!=", "<=", "<", ">=", ">"].map (fun s => node [text s, bitwiseOr]) ++
      [node ["not", "in", bitwiseOr], only membership, node ["is", "not", bitwiseOr],
        node ["is", bitwiseOr]]
  | bitwiseOr => joined ["|"] bitwiseOr bitwiseXor
  | bitwiseXor => joined ["^"] bitwiseXor bitwiseAnd
  | bitwiseAnd => joined ["&"] bitwiseAnd shift
  | shift => joined ["<<", ">>"] shift sum
  | sum => joined ["+", "-"] sum term
  | term => joined ["*", "/", "//", "%", "@"] term factor
  | factor => ["+", "-", "~"].map (fun s => node [text s, factor]) ++ [only power]
  | power => [node [awaited, "**", factor], only awaited]
  | awaited => [node ["await", primary], only primary]
  | primary => [
    place [primary, ".", name],
    node [primary, generator],
    node [primary, "(", optional arguments, ")"],
    place [primary, "[", slices, "]"],
    only atom]
  | slices => [
    pick 0 [slice, absent ","],
    ([listed (either [slice, starredExpression]), optional ","], .items [0])]
  | slice => [
    node [optional expression, ":", optional expression,
      optional (row 1 [":", optional expression])],
    only namedExpression]
  | atom => [
    only name,
    only "True", only "False", only "None",
    pick 1 [ahead quotation, texts],
    only number,
    pick 1 [ahead "(", either [tuple, group, generator]],
    pick 1 [ahead "[", either [list, listComprehension]],
    pick 1 [ahead "\x7b", either [dict, set, dictComprehension, setComprehension]],
    only "..."]
  | group => [pick 1 ["(", either [yieldExpression, namedExpression], ")"], wrong badGroup]
  | lambda => [node ["lambda", optional (.rule (.parameter .bare .all)), ":", expression]]
  | texts => [only quotations]
  | list => [(["[", optional starNamedExpressions, "]"], .items [1])]
  | tuple => [
    (["(", optional (.oneOf [([starNamedExpression, ",", optional starNamedExpressions],
      .together [0, 2])]), ")"], .items [1])]
  | set => [node ["\x7b", starNamedExpressions, "\x7d"]]
  | dict => [
    node ["\x7b", optional entries, "\x7d"],
    node ["\x7b", badEntries, "\x7d"]]
  | entries => [node [listed entry, optional ","]]
  | entry => [node ["**", bitwiseOr], only keyedEntry]
  | keyedEntry => [node [expression, ":", expression]]
  | clauses => [node [some clause]]
  | clause => [
    node ("async" :: clauseParts),
    node clauseParts,
    wrong badLoopTarget]
  | listComprehension => [
    node ["[", namedExpression, clauses, "]"],
    wrong badComprehension]
  | setComprehension => [
    node ["\x7b", namedExpression, clauses, "\x7d"],
    wrong badComprehension]
  | generator => [
    node ["(", named, clauses, ")"],
    wrong badComprehension]
  | dictComprehension => [
    node ["\x7b", keyedEntry, clauses, "\x7d"],
    wrong badDictComprehension]
  | arguments => [
    pick 0 [argumentList, optional ",", ahead ")"],
    wrong badArguments]
  | argumentList => [
    ([listed (.oneOf [only starredExpression, pick 0 [named, absent "="]]),
      optional (row 1 [",", keywords])], .arguments [0] [1]),
    ([keywords], .arguments [] [0])]
  | keywords => [
    ([listed keywordOrStarred, ",", listed keywordOrUnpacked], .together [0, 2]),
    only (listed keywordOrStarred),
    only (listed keywordOrUnpacked)]
  | starredExpression => [(["*", expression], .starred 1)]
  | keywordOrStarred => [
    wrong badKeyword,
    node [name, "=", expression],
    only starredExpression]
  | keywordOrUnpacked => [
    wrong badKeyword,
    node [name, "=", expression],
    node ["**", expression]]
  | badExpression => [
    ([absent (.oneOf [node [name, quotation], only softKeyword]), disjunction, plainExpression],
      .blameMissingComma 1),
    blame 0 [disjunction, "if", disjunction, absent (either ["else", ":"])]]
  | badFormerStatement => [([name, absent "(", starExpressions], .blameFormerStatement 0)]
  | badNamedExpression => [
    blame 0 [expression, ":=", expression],
    blame 0 [name, "=", bitwiseOr, absent (either ["=", ":="])],
    blame 1 [absent (either [list, tuple, generator, "True", "None", "False"]), bitwiseOr, "=",
      bitwiseOr, absent (either ["=", ":="])]]
  | badGroup => [
    blame 1 ["(", starredExpression, ")"],
    blame 1 ["(", "**", expression, ")"]]
  | badEntries => node [listed entry, ",", badEntry] :: badPair
  | badEntry => blame 0 [expression, absent ":"] :: badPair
  | badComprehension => [
    blame 1 [either ["[", "(", "\x7b"], starredExpression, clauses],
    blame 1 [either ["[", "\x7b"], starNamedExpression, ",", starNamedExpressions, clauses],
    blame 1 [either ["[", "\x7b"], starNamedExpression, ",", clauses]]
  | badDictComprehension => [blame 1 ["\x7b", "**", bitwiseOr, clauses, "\x7d"]]
  | badLoopTarget => [([optional "async", "for", starExpressions], .blameTarget .loop 2)]
  | badArguments => [
    blame 0 [argumentList, ",", "*"],
    blame 0 [expression, clauses, ",",
      optional (.oneOf [only argumentList, node [expression, clauses]])],
    blame 0 [name, "=", expression, clauses],
    ([argumentList, clauses], .blameGenerator 0),
    blame 2 [argumentList, ",", expression, clauses],
    blameLast [argumentList, ",", argumentList]]
  | badKeyword => [
    blame 0 [either ["True", "False", "None"], "="],
    blame 0 [name, "=", expression, clauses],
    blame 1 [absent (row 0 [name, "="]), expression, "="]]

end ExprRule

namespace TargetRule

open ExprRule

/-- A place inside something: behind it, and behind nothing that goes on. -/
def innermost : List Branch := [
  place [targetPrimary, ".", name, absent targetGoesOn],
  place [targetPrimary, "[", slices, "]", absent targetGoesOn]]

/-- The branches of the rules for targets. -/
def branches : TargetRule → List Branch
  | targets => [
    pick 0 [target, absent ","],
    ([target, many (row 1 [",", target]), optional ","], .items [0, 1])]
  | targetList => [pick 0 [listed target, optional ","]]
  | targetTuple => [
    ([target, some (row 1 [",", target]), optional ","], .together [0, 1]),
    pick 0 [target, ","]]
  | target => [(["*", row 1 [absent "*", target]], .starred 1), only targetPlace]
  | targetPlace => innermost ++ [only targetAtom]
  | targetAtom => [
    only name,
    pick 1 ["(", targetPlace, ")"],
    (["(", optional targetTuple, ")"], .items [1]),
    (["[", optional targetList, "]"], .items [1])]
  | singleTarget => [only singlePlace, only name, pick 1 ["(", singleTarget, ")"]]
  | singlePlace => innermost
  | targetPrimary => [
    place [targetPrimary, ".", name, ahead targetGoesOn],
    place [targetPrimary, "[", slices, "]", ahead targetGoesOn],
    node [targetPrimary, generator, ahead targetGoesOn],
    node [targetPrimary, "(", optional arguments, ")", ahead targetGoesOn],
    pick 0 [atom, ahead targetGoesOn]]
  | targetGoesOn => [only "(", only "[", only "."]
  | deletedTargets => [pick 0 [listed deletedTarget, optional ","]]
  | deletedTarget => innermost ++ [only deletedAtom]
  | deletedAtom => [
    only name,
    pick 1 ["(", deletedTarget, ")"],
    (["(", optional deletedTargets, ")"], .items [1]),
    (["[", optional deletedTargets, "]"], .items [1])]

end TargetRule

end Grammar

end Marginalia
