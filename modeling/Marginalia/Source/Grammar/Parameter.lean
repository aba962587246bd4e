/-
The grammar of parameters, and of the mistakes made in them.

Bare parameters have no types and end at a colon, typed ones at a bracket.
-/
import Marginalia.Source.Grammar.Pattern

namespace Marginalia

namespace Grammar

open Branch Pattern

/-- The sign behind the last parameter. -/
def ParameterStyle.closing : ParameterStyle → String
  | typed => ")"
  | bare => ":"

namespace ParameterRule

/-- The branches of the rules for parameters of some style. -/
def branches (style : ParameterStyle) : ParameterRule → List Branch :=
  let r (r : ParameterRule) : Pattern := .rule (.parameter style r)
  let final : Pattern := text style.closing
  let ended (ps : List Pattern) : List Branch :=
    [pick 0 (ps ++ [text ","]), pick 0 (ps ++ [ahead final])]
  let slash : Pattern := either [r slashNoDefault, r slashWithDefault]
  let star : Pattern := "*"
  fun
  | all => [wrong (r badParameters), only (r parameters)]
  | parameters => [
    node [r slashNoDefault, many (r noDefault), many (r withDefault), optional (r starEtc)],
    node [r slashWithDefault, many (r withDefault), optional (r starEtc)],
    node [some (r noDefault), many (r withDefault), optional (r starEtc)],
    node [some (r withDefault), optional (r starEtc)],
    only (r starEtc)]
  | slashNoDefault => ended [some (r noDefault), "/"]
  | slashWithDefault => ended [many (r noDefault), some (r withDefault), "/"]
  | starEtc =>
    [wrong (r badStarEtc),
      node [star, r noDefault, many (r maybeDefault), optional (r otherKeywords)]] ++
    (match style with
      | .typed => [node [star, r noDefaultStarType, many (r maybeDefault),
          optional (r otherKeywords)]]
      | .bare => []) ++
    [node [star, ",", some (r maybeDefault), optional (r otherKeywords)],
      only (r otherKeywords)]
  | otherKeywords => [wrong (r badOtherKeywords), node ["**", r noDefault]]
  | noDefault => ended [r parameter]
  | noDefaultStarType => ended [r starTypedParameter]
  | withDefault => ended [r parameter, r default]
  | maybeDefault => ended [r parameter, optional (r default)]
  | parameter =>
    match style with
    | .typed => [node [name, optional (row 1 [":", ExprRule.expression])]]
    | .bare => [node [name]]
  | starTypedParameter => [node [name, ":", ExprRule.starExpression]]
  | default => [node ["=", ExprRule.expression], wrong (r badDefault)]
  | badParameters => [
    blame 2 [many (r noDefault), r badDefaultsBefore, r noDefault],
    blame 1 [many (r noDefault), "(",
      match style with
      | .typed => some (r noDefault)
      | .bare => listed (r parameter),
      optional ",", ")"],
    blame 0 ["/", ","],
    blame 2 [slash, many (r maybeDefault), "/"],
    blame 5 [optional slash, many (r maybeDefault), star, either [",", r noDefault],
      many (r maybeDefault), "/"],
    blame 2 [some (r maybeDefault), "/", star]]
  | badDefaultsBefore => [only (r slashWithDefault), node [some (r withDefault)]]
  | badStarEtc =>
    [match style with
      | .typed => blame 0 [star, .oneOf [only final, node [",", either [final, "**"]]]]
      | .bare => blameLast [star, .oneOf [only final, node [",", either [final, "**"]]]],
    blame 2 [star, r parameter, "="],
    blame 3 [star, either [r noDefault, ","], many (r maybeDefault), star,
      either [r noDefault, ","]]]
  | badOtherKeywords => [
    blame 2 ["**", r parameter, "="],
    blame 3 ["**", r parameter, ",", r parameter],
    blame 3 ["**", r parameter, ",", either [star, "**", "/"]]]
  | badDefault => [blame 0 ["=", ahead (either [")", ","])]]

end ParameterRule

end Grammar

end Marginalia
