/-
Expressions read from tokens.

The tokens are known to follow the grammar, so that a reader only looks for what tells
forms of expressions apart.  The readers follow the levels of binding, loosest first.
Whatever can stand inside brackets or behind an operator is read through `Self`, which is one step
poorer than the reader it is handed to: `expressionAt` ties the knot, and a text with
`n` tokens never needs more than `n` steps.
-/
import Marginalia.Source.QuotedText
import Marginalia.Source.Reader
import Marginalia.Source.Statement

namespace Marginalia

namespace ExprReader

open Reader

/-- The forms of expressions that are read through `Self`. -/
inductive Goal where
  | expression
  | inversion
  | factor
  /-- The expression of a replacement field, with brackets around it. -/
  | bracketed

/-- Readers of the expressions inside an expression. -/
abbrev Self := Goal → Reader Expr

/-! ### Operators -/

/-- Binary operators by how tightly they bind, loosest first. -/
def binaryLevels : List (List (String × BinaryOp)) := [
  [("|", .bitOr)], [("^", .bitXor)], [("&", .bitAnd)],
  [("<<", .shiftLeft), (">>", .shiftRight)], [("+", .add), ("-", .sub)],
  [("*", .mul), ("/", .div), ("//", .floorDiv), ("%", .mod), ("@", .matMul)]]

/-- The operator a token is, out of some. -/
def operatorOf (ops : List (String × BinaryOp)) (t : Token) : Option BinaryOp :=
  match t.kind with
  | .op s => ops.lookup s
  | _ => none

/-- The unary operator a token is. -/
def signOf (t : Token) : Option UnaryOp :=
  match t.kind with
  | .op "+" => some .plus
  | .op "-" => some .minus
  | .op "~" => some .invert
  | _ => none

/-- Whether a token can start an expression. -/
def canStart (t : Token) : Bool :=
  match t.kind with
  | .name _ | .number _ | .quoted _ => true
  | .keyword k => ["None", "True", "False", "not", "lambda", "await"].contains k
  | .op o => ["(", "[", "\x7b", "-", "+", "~", "..."].contains o
  | _ => false

/-! ### Texts -/

/-- Joins neighbouring texts among pieces of a joined text.  Texts are placed at `p`, but
the one behind the last field at `final`. -/
def joinParts (p final : Place) (parts : List (List Char ⊕ Expr)) : List Expr :=
  let finish (p : Place) (held : List Char) (done : List Expr) : List Expr :=
    if held.isEmpty then done else .literal p (.text (String.ofList held) false) :: done
  let (held, done) := parts.foldl (fun (held, done) part => match part with
    | .inl cs => (held ++ cs, done)
    | .inr e => ([], e :: finish p held done)) (([] : List Char), ([] : List Expr))
  (finish final held done).reverse

/-- Reads the expression of a field that starts at a place. -/
def readField (self : Self) (p : Place) (source : List Char) : Reader Expr :=
  match (self .bracketed).answer? (Tokens.ofChars p ('(' :: source ++ [')'])).tokens with
  | some e => return e
  | none => mismatch

/-- The parts of a text with replacement fields that is itself at `own`; texts and fields
are placed at `p`, where the first of the texts in a row starts.  Fuel bounds how deep
formats are nested. -/
def joinedParts (self : Self) (p own : Place) :
    Nat → List QuotedText.Piece → Reader (List (List Char ⊕ Expr))
  | 0, _ => mismatch
  | _ + 1, [] => return []
  | fuel + 1, .text cs :: pieces => do
    return .inl cs :: (← joinedParts self p own fuel pieces)
  | fuel + 1, .field start source shown conversion spec :: pieces => do
    let e ← readField self start source
    let spec ← match spec with
      | some inner => do
        pure (some (Expr.joined own (joinParts p own (← joinedParts self p own fuel inner))))
      | none => pure none
    let before := match shown with
      | some cs => [.inl cs]
      | none => []
    return before ++ .inr (.field p e conversion spec) :: (← joinedParts self p own fuel pieces)

/-- Reads quoted texts in a row; they are joined. -/
def texts (self : Self) : Reader Expr := do
  let p ← here
  let found ← many do
    match (← peek).kind with
    | .quoted cs =>
      let place ← here
      advance
      return some (place, cs)
    | _ => return none
  let parts := found.map fun (place, cs) => (place, cs, QuotedText.ofChars cs)
  if parts.any fun (_, _, t) => t.isBytes then
    match parts.mapM fun (_, _, t) => QuotedText.decodeBytes? t.isRaw t.inside with
    | some all => return .literal p (.bytes all.flatten)
    | none => mismatch
  let all ← parts.mapM fun (place, cs, t) => do
    if t.hasFields then joinedParts self p place (cs.length + 1) (t.pieces place cs).1
    else match QuotedText.decode? t.isRaw t.inside with
      | some text => return [.inl text]
      | none => mismatch
  if parts.any fun (_, _, t) => t.hasFields then
    return .joined p (joinParts p p all.flatten)
  let text := all.flatten.flatMap fun part => match part with
    | .inl cs => cs
    | .inr _ => []
  return .literal p (.text (String.ofList text) (parts.head?.any fun (_, _, t) => t.isLettered))

/-! ### Operands -/

/-- Reads operands joined by operators of each level. -/
def binary (operand : Reader Expr) : List (List (String × BinaryOp)) → Reader Expr
  | [] => operand
  | ops :: tighter => do
    let p ← here
    let first ← binary operand tighter
    iterate first fun left => attempt do
      match operatorOf ops (← peek) with
      | some op =>
        advance
        return .binary p op left (← binary operand tighter)
      | none => mismatch

/-- Reads what binds as tightly as `|` or tighter. -/
def bitwiseOr (self : Self) : Reader Expr := binary (self .factor) binaryLevels

/-- Reads an operator of comparison, if one comes next. -/
def relation : Reader (Option Relation) := do
  let t ← peek
  match t.kind with
  | .op o =>
    match [("==", Relation.equal), ("!=", .unequal), ("<", .order .less), ("<=", .order .lessEq),
        (">", .order .greater), (">=", .order .greaterEq)].lookup o with
    | some c =>
      advance
      return some c
    | none => return none
  | .keyword "in" =>
    advance
    return some .among
  | .keyword "is" =>
    advance
    return some (if ← acceptKeyword "not" then .notSame else .same)
  | .keyword "not" =>
    if isKeyword "in" (← ahead 1) then
      advance
      advance
      return some .notAmong
    else return none
  | _ => return none

/-- Reads a chain of comparisons. -/
def comparison (self : Self) : Reader Expr := do
  let p ← here
  let first ← bitwiseOr self
  let others ← many <| attempt do
    match ← relation with
    | some op => return (op, ← bitwiseOr self)
    | none => mismatch
  if others.isEmpty then return first
  return .comparison p first (others.map Prod.fst) (others.map Prod.snd)

/-- Reads a comparison or its negation. -/
def inversion (self : Self) : Reader Expr := do
  let p ← here
  if ← acceptKeyword "not" then return .unary p .not (← self .inversion)
  comparison self

/-- Reads operands joined by a keyword. -/
def joinedBy (word : String) (operand : Reader Expr) (join : Place → List Expr → Expr) :
    Reader Expr := do
  let p ← here
  let first ← operand
  let others ← many <| attempt do
    keyword word
    operand
  return if others.isEmpty then first else join p (first :: others)

/-- Reads what can stand before and behind `if` in a conditional. -/
def disjunction (self : Self) : Reader Expr :=
  joinedBy "or" (joinedBy "and" (inversion self) .both) .either

/-- Reads an expression with a name for its value, or without one. -/
def namedExpression (self : Self) : Reader Expr := do
  let p ← here
  match (← peek).kind with
  | .name n =>
    if isOp ":=" (← ahead 1) then
      advance
      advance
      return .named p (.name p n) (← self .expression)
  | _ => pure ()
  self .expression

/-- Reads an expression or a starred one. -/
def starExpression (self : Self) (operand : Reader Expr) : Reader Expr := do
  let p ← here
  if ← acceptOp "*" then return .starred p (← bitwiseOr self)
  operand

/-- Whether a list of expressions is over: nothing comes next that could start one. -/
def atListEnd : Reader Bool := do
  let t ← peek
  return !(canStart t || isOp "*" t)

/-- Reads expressions with commas between them; they make a tuple unless there is one
only without a comma. -/
def starExpressions (self : Self) : Reader Expr := do
  let p ← here
  let (es, comma) ← commaSeparated atListEnd (starExpression self (self .expression))
  match es, comma with
  | [e], false => return e
  | es, _ => return .tuple p es

/-- Reads a `yield`. -/
def yieldExpression (self : Self) : Reader Expr := do
  let p ← here
  keyword "yield"
  if ← acceptKeyword "from" then return .yieldFrom p (← self .expression)
  if ← atListEnd then return .yield p none
  return .yield p (some (← starExpressions self))

/-- Reads `yield` or expressions. -/
def yieldOrExpressions (self : Self) : Reader Expr := do
  if ← atKeyword "yield" then yieldExpression self else starExpressions self

/-! ### Parameters -/

/-- Parameters read so far. -/
structure ParametersRead where
  positionalOnly : List String := []
  positional : List String := []
  types : List Expr := []
  defaults : List Expr := []
  others : Option String := none
  othersType : Option Expr := none
  keywordOnly : List String := []
  keywordTypes : List Expr := []
  keywordDefaults : List (Option Expr) := []
  otherKeywords : Option String := none
  otherKeywordsType : Option Expr := none
  afterStar : Bool := false
  ended : Bool := false

namespace ParametersRead

/-- The parameters, once all are read. -/
def toParameters (r : ParametersRead) : Parameters := {
  signature := {
    positionalOnly := r.positionalOnly
    positional := r.positional
    others := r.others
    keywordOnly := r.keywordOnly
    otherKeywords := r.otherKeywords }
  types := r.types ++ r.keywordTypes ++ r.othersType.toList ++ r.otherKeywordsType.toList
  defaults := r.defaults
  keywordDefaults := r.keywordDefaults }

end ParametersRead

/-- Reads the type written behind a parameter, if there is one. -/
def parameterType (typed : Bool) (type : Reader Expr) : Reader (Option Expr) := do
  if typed then
    if ← acceptOp ":" then return some (← type)
  return none

/-- Reads one parameter or mark among parameters. -/
def parameter (self : Self) (typed : Bool) (r : ParametersRead) : Reader ParametersRead := do
  if ← acceptOp "/" then
    return { r with positionalOnly := r.positional, positional := [] }
  if ← acceptOp "**" then
    let n ← name
    let t ← parameterType typed (self .expression)
    return { r with otherKeywords := some n, otherKeywordsType := t }
  if ← acceptOp "*" then
    match (← peek).kind with
    | .name n =>
      advance
      let t ← parameterType typed (starExpression self (self .expression))
      return { r with others := some n, othersType := t, afterStar := true }
    | _ => return { r with afterStar := true }
  let n ← name
  let t ← parameterType typed (self .expression)
  let d ← if ← acceptOp "=" then (some <$> self .expression) else pure none
  if r.afterStar then
    return { r with
      keywordOnly := r.keywordOnly ++ [n]
      keywordTypes := r.keywordTypes ++ t.toList
      keywordDefaults := r.keywordDefaults ++ [d] }
  return { r with
    positional := r.positional ++ [n]
    types := r.types ++ t.toList
    defaults := r.defaults ++ d.toList }

/-- Reads parameters up to the sign behind them. -/
def parameters (self : Self) (typed : Bool) (final : String) : Reader Parameters := do
  if ← atOp final then return ParametersRead.toParameters {}
  let first ← parameter self typed {}
  let all ← iterate first fun r => do
    if r.ended then return none
    if !(← acceptOp ",") then return none
    if ← atOp final then return some { r with ended := true }
    return some (← parameter self typed r)
  return all.toParameters

/-- Reads a function without a name. -/
def lambda (self : Self) : Reader Expr := do
  let p ← here
  keyword "lambda"
  let ps ← parameters self false ":"
  op ":"
  return .lambda p ps.signature ps.defaults ps.keywordDefaults (← self .expression)

/-! ### Comprehensions -/

/-- Reads targets with commas between them. -/
def targets (primary : Reader Expr) : Reader Expr := do
  let p ← here
  let one : Reader Expr := do
    let q ← here
    if ← acceptOp "*" then return .starred q (← primary)
    primary
  let (es, comma) ← commaSeparated atListEnd one
  match es, comma with
  | [e], false => return e
  | es, _ => return .tuple p es

/-- Reads the clauses of a comprehension. -/
def clauses (self : Self) (primary : Reader Expr) : Reader (List Clause) := many do
  let isAsync ← nextTwo (isKeyword "async") (isKeyword "for")
  if isAsync then advance
  if !(← acceptKeyword "for") then return none
  let target ← targets primary
  keyword "in"
  let source ← disjunction self
  let conditions ← many do
    if ← acceptKeyword "if" then return some (← disjunction self) else return none
  return some (.mk isAsync target source conditions)

/-- Whether the clauses of a comprehension come next. -/
def atClauses : Reader Bool := do
  if ← atKeyword "for" then return true
  nextTwo (isKeyword "async") (isKeyword "for")

/-! ### Brackets -/

/-- Whether an expression is a starred one. -/
def isStarred : Expr → Bool
  | .starred .. => true
  | _ => false

/-- Reads what stands in round brackets. -/
def round (self : Self) (primary : Reader Expr) : Reader Expr := do
  let p ← here
  op "("
  if ← acceptOp ")" then return .tuple p []
  if ← atKeyword "yield" then
    let e ← yieldExpression self
    op ")"
    return e
  let item := starExpression self (namedExpression self)
  let first ← item
  if ← atClauses then
    let cs ← clauses self primary
    op ")"
    return .gather p .generator [first] cs
  if ← acceptOp ")" then
    return first
  op ","
  if ← acceptOp ")" then return .tuple p [first]
  let (es, _) ← commaSeparated (atOp ")") item
  op ")"
  return .tuple p (first :: es)

/-- Reads what stands in square brackets. -/
def square (self : Self) (primary : Reader Expr) : Reader Expr := do
  let p ← here
  op "["
  if ← acceptOp "]" then return .list p []
  let item := starExpression self (namedExpression self)
  let first ← item
  if ← atClauses then
    let cs ← clauses self primary
    op "]"
    return .gather p .list [first] cs
  if ← acceptOp "]" then return .list p [first]
  op ","
  if ← acceptOp "]" then return .list p [first]
  let (es, _) ← commaSeparated (atOp "]") item
  op "]"
  return .list p (first :: es)

/-- Reads an entry of a mapping. -/
def entry (self : Self) : Reader Entry := do
  if ← acceptOp "**" then return .unpacked (← bitwiseOr self)
  let k ← self .expression
  op ":"
  return .item k (← self .expression)

/-- Reads what stands in curly brackets. -/
def curly (self : Self) (primary : Reader Expr) : Reader Expr := do
  let p ← here
  op "\x7b"
  if ← acceptOp "\x7d" then return .dict p []
  let rest (first : Entry) : Reader Expr := do
    if ← acceptOp "\x7d" then return .dict p [first]
    op ","
    if ← acceptOp "\x7d" then return .dict p [first]
    let (es, _) ← commaSeparated (atOp "\x7d") (entry self)
    op "\x7d"
    return .dict p (first :: es)
  if ← atOp "**" then return ← rest (← entry self)
  let item := starExpression self (namedExpression self)
  let first ← item
  if ← acceptOp ":" then
    let value ← self .expression
    if ← atClauses then
      let cs ← clauses self primary
      op "\x7d"
      return .gather p .dict [first, value] cs
    return ← rest (.item first value)
  if ← atClauses then
    let cs ← clauses self primary
    op "\x7d"
    return .gather p .set [first] cs
  if ← acceptOp "\x7d" then return .set p [first]
  op ","
  if ← acceptOp "\x7d" then return .set p [first]
  let (es, _) ← commaSeparated (atOp "\x7d") item
  op "\x7d"
  return .set p (first :: es)

/-! ### Calls and subscripts -/

/-- Arguments read so far. -/
structure ArgumentsRead where
  positional : List Expr := []
  keywords : List Keyword := []
  ended : Bool := false

/-- Whether a token is a name. -/
def isName (t : Token) : Bool :=
  match t.kind with
  | .name _ => true
  | _ => false

/-- Reads one argument.  A comprehension starts with the bracket at `opening`. -/
def argument (self : Self) (primary : Reader Expr) (opening : Place) (r : ArgumentsRead) :
    Reader ArgumentsRead := do
  let p ← here
  if ← acceptOp "*" then
    return { r with positional := r.positional ++ [.starred p (← self .expression)] }
  if ← acceptOp "**" then
    return { r with keywords := r.keywords ++ [.unpacked (← self .expression)] }
  if ← nextTwo isName (isOp "=") then
    let n ← name
    op "="
    return { r with keywords := r.keywords ++ [.given n (← self .expression)] }
  let e ← namedExpression self
  if ← atClauses then
    let cs ← clauses self primary
    return { r with positional := [.gather opening .generator [e] cs] }
  return { r with positional := r.positional ++ [e] }

/-- Reads arguments up to the closing bracket; the opening one is at some place. -/
def arguments (self : Self) (primary : Reader Expr) (opening : Place) : Reader ArgumentsRead := do
  if ← atOp ")" then return {}
  let first ← argument self primary opening {}
  iterate first fun r => do
    if r.ended then return none
    if !(← acceptOp ",") then return none
    if ← atOp ")" then return some { r with ended := true }
    return some (← argument self primary opening r)

/-- Reads a subscript: an expression, or a slice. -/
def slice (self : Self) : Reader Expr := do
  let p ← here
  let part : Reader (Option Expr) := do
    if canStart (← peek) then return some (← self .expression) else return none
  if ← acceptOp "*" then return .starred p (← self .expression)
  let start ← if ← atOp ":" then pure none else (some <$> namedExpression self)
  if ← acceptOp ":" then
    let stop ← part
    let step ← if ← acceptOp ":" then part else pure none
    return .slice p start stop step
  match start with
  | some e => return e
  | none => mismatch

/-- Reads subscripts up to the closing bracket. -/
def slices (self : Self) : Reader Expr := do
  let p ← here
  let (es, comma) ← commaSeparated (atOp "]") (slice self)
  match es, comma with
  | [e], false => return if isStarred e then .tuple p [e] else e
  | es, _ => return .tuple p es

/-- Reads a name, a constant or something in brackets. -/
def atom (self : Self) (primary : Reader Expr) : Reader Expr := do
  let t ← peek
  let p := t.place
  match t.kind with
  | .name n =>
    advance
    return .name p n
  | .keyword "None" =>
    advance
    return .literal p .nothing
  | .keyword "True" =>
    advance
    return .literal p (.bool true)
  | .keyword "False" =>
    advance
    return .literal p (.bool false)
  | .number (some l) =>
    advance
    return .literal p l
  | .number none => mismatch
  | .quoted _ => texts self
  | .op "..." =>
    advance
    return .literal p .ellipsis
  | .op "(" => round self primary
  | .op "[" => square self primary
  | .op "\x7b" => curly self primary
  | _ => mismatch

/-- Reads an atom with attributes, calls and subscripts behind it.  Targets of
comprehensions inside it are primaries again, one step poorer. -/
def primary (self : Self) (inner : Reader Expr) : Reader Expr := do
  let p ← here
  let first ← atom self inner
  iterate first fun e => attempt do
    if ← acceptOp "." then return .access p e (← name)
    if ← acceptOp "[" then
      let i ← slices self
      op "]"
      return .subscript p e i
    let q ← here
    op "("
    let r ← arguments self inner q
    op ")"
    return .call p e r.positional r.keywords

/-- Reads a signed operand or a power. -/
def factor (self : Self) (inner : Reader Expr) : Reader Expr := do
  let p ← here
  match signOf (← peek) with
  | some op =>
    advance
    return .unary p op (← self .factor)
  | none =>
    let base ← if ← acceptKeyword "await" then (Expr.await p <$> primary self inner)
      else primary self inner
    match ← attempt (do op "**"; self .factor) with
    | some exponent => return .binary p .pow base exponent
    | none => return base

/-- Reads an expression. -/
def expression (self : Self) : Reader Expr := do
  if ← atKeyword "lambda" then return ← lambda self
  let p ← here
  let body ← disjunction self
  let condition ← attempt do
    keyword "if"
    let test ← disjunction self
    keyword "else"
    return (test, ← self .expression)
  match condition with
  | some (test, otherwise) => return .conditional p test body otherwise
  | none => return body

/-- Reads one form of expression in so many steps. -/
def expressionAt : Nat → Self
  | 0, _ => mismatch
  | n + 1, entry =>
    let self := expressionAt n
    match entry with
    | .expression => expression self
    | .inversion => inversion self
    | .factor => factor self (primaryAt n)
    | .bracketed => starExpressions self
where
  /-- Reads a primary in so many steps. -/
  primaryAt : Nat → Reader Expr
    | 0 => mismatch
    | n + 1 => primary (expressionAt n) (primaryAt n)

end ExprReader

end Marginalia
