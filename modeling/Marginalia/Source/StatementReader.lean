/-
Statements read from tokens.

`readModule` reads a whole text as statements, `readExpression` as one expression.
-/
import Marginalia.Source.ExprReader
import Marginalia.Source.Grammar.Check

namespace Marginalia

namespace StatementReader

open Reader ExprReader

/-- Readers of expressions and of primaries among them. -/
structure Parts where
  self : Self
  primary : Reader Expr

/-- Whether a token is of some kind without content. -/
def isNewline (t : Token) : Bool :=
  match t.kind with
  | .newline => true
  | _ => false

/-- Whether a token opens a block. -/
def isIndent (t : Token) : Bool :=
  match t.kind with
  | .indent => true
  | _ => false

/-- Whether a token closes a block. -/
def isDedent (t : Token) : Bool :=
  match t.kind with
  | .dedent => true
  | _ => false

/-- Whether a token is the end of the text. -/
def isFinish (t : Token) : Bool :=
  match t.kind with
  | .finish => true
  | _ => false

/-- Whether a token is some name. -/
def isWord (s : String) (t : Token) : Bool :=
  match t.kind with
  | .name n => n == s
  | _ => false

/-- Goes past the end of a line. -/
def endOfLine : Reader Unit := do
  if !(← acceptIf isNewline) then mismatch

/-- Whether a simple statement is over. -/
def atStatementEnd : Reader Bool := do
  let t ← peek
  return isNewline t || isOp ";" t

/-! ### Simple statements -/

/-- Whether a token is the sign of an assignment that changes a value. -/
def isAugmentation (t : Token) : Bool :=
  match t.kind with
  | .op s => Grammar.StatementRule.augmentations.contains s
  | _ => false

/-- Reads the values of a chain of assignments behind the first target. -/
def assignments (e : Parts) (p : Place) (first : Expr) : Reader Statement := do
  let (targets, value) ← iterate ([], first) fun (targets, value) => do
    if !(← acceptOp "=") then return none
    return some (value :: targets, ← yieldOrExpressions e.self)
  return .assign p targets.reverse value

/-- Reads an expression, or an assignment to one. -/
def expressionStatement (e : Parts) : Reader Statement := do
  let p ← here
  let first ← yieldOrExpressions e.self
  let t ← peek
  if ← acceptOp ":" then
    let type ← e.self .expression
    let value ← if ← acceptOp "=" then (some <$> yieldOrExpressions e.self) else pure none
    return .typed p first type value
  if isOp "=" t then return ← assignments e p first
  if isAugmentation t then
    advance
    return .augment p first (← yieldOrExpressions e.self)
  return .expression first

/-- Reads a dotted name. -/
def dottedName : Reader String := do
  let first ← name
  let others ← many do
    if ← acceptOp "." then return some (← name) else return none
  return ".".intercalate (first :: others)

/-- Reads the other name something is bound to, if one is given. -/
def otherName : Reader (Option String) := do
  if ← acceptKeyword "as" then return some (← name) else return none

/-- Reads an import of modules. -/
def importModules : Reader Statement := do
  let p ← here
  keyword "import"
  let one : Reader ImportedName := do
    let n ← dottedName
    return ⟨n, ← otherName⟩
  let (names, _) ← commaSeparated (pure false) one
  return .importModules p names

/-- Reads an import of names out of a module. -/
def importNames : Reader Statement := do
  let p ← here
  keyword "from"
  let dots ← many do
    if ← acceptOp "." then return some 1
    else if ← acceptOp "..." then return some 3
    else return none
  let level := dots.foldl (· + ·) 0
  let module ← match (← peek).kind with
    | .name _ => some <$> dottedName
    | _ => pure none
  keyword "import"
  let one : Reader ImportedName := do
    let n ← name
    return ⟨n, ← otherName⟩
  if ← acceptOp "*" then return .importNames p module [⟨"*", none⟩] level
  if ← acceptOp "(" then
    let (names, _) ← commaSeparated (atOp ")") one
    op ")"
    return .importNames p module names level
  let (names, _) ← commaSeparated (pure false) one
  return .importNames p module names level

/-- Reads targets to be deleted. -/
def deletion (e : Parts) : Reader Statement := do
  let p ← here
  keyword "del"
  let (targets, _) ← commaSeparated atStatementEnd e.primary
  return .delete p targets

/-- Reads names with commas between them. -/
def names : Reader (List String) := Prod.fst <$> commaSeparated (pure false) name

/-- Reads a statement that only computes or directs the flow of control. -/
def plainStatement (e : Parts) (k : String) : Reader (Option Statement) := do
  let p ← here
  match k with
  | "return" =>
    advance
    if ← atStatementEnd then return some (.plain p .result [])
    return some (.plain p .result [← starExpressions e.self])
  | "raise" =>
    advance
    if ← atStatementEnd then return some (.plain p .raise [])
    let error ← e.self .expression
    let cause ← if ← acceptKeyword "from" then (some <$> e.self .expression) else pure none
    return some (.plain p .raise (error :: cause.toList))
  | "assert" =>
    advance
    let test ← e.self .expression
    let text ← if ← acceptOp "," then (some <$> e.self .expression) else pure none
    return some (.plain p .assertion (test :: text.toList))
  | "global" =>
    advance
    discard names
    return some (.plain p .global [])
  | "nonlocal" =>
    advance
    discard names
    return some (.plain p .nonlocal [])
  | "pass" =>
    advance
    return some (.plain p .pass [])
  | "break" =>
    advance
    return some (.plain p .leave [])
  | "continue" =>
    advance
    return some (.plain p .next [])
  | _ => return none

/-- Reads type parameters in brackets, if there are any: what bounds them. -/
def typeParameters (e : Parts) : Reader (List Expr) := do
  if !(← acceptOp "[") then return []
  let one : Reader (Option Expr) := do
    if !(← acceptOp "*") then discard (acceptOp "**")
    discard name
    if ← acceptOp ":" then (some <$> e.self .expression) else return none
  let (bounds, _) ← commaSeparated (atOp "]") one
  op "]"
  return bounds.filterMap id

/-- Reads the declaration of a type alias, behind the word that begins it. -/
def typeAlias (e : Parts) (p : Place) : Reader Statement := do
  let n ← name
  let bounds ← typeParameters e
  op "="
  return .typeAlias p n bounds (← e.self .expression)

/-- Reads a simple statement. -/
def simpleStatement (e : Parts) : Reader Statement := do
  let p ← here
  if ← nextTwo (isWord "type") isName then
    advance
    return ← typeAlias e p
  match (← peek).kind with
  | .keyword "import" => importModules
  | .keyword "from" => importNames
  | .keyword "del" => deletion e
  | .keyword k =>
    match ← plainStatement e k with
    | some s => return s
    | none => expressionStatement e
  | _ => expressionStatement e

/-- Reads the simple statements of a line. -/
def simpleStatements (e : Parts) : Reader (List Statement) := do
  let first ← simpleStatement e
  let others ← many do
    if !(← acceptOp ";") then return none
    if isNewline (← peek) then return none
    return some (← simpleStatement e)
  endOfLine
  return first :: others

/-! ### Patterns -/

/-- Reads a number with an optional sign, or two of them added. -/
def patternNumber (e : Parts) : Reader Unit := do
  let number : Reader Unit := do
    match (← peek).kind with
    | .number _ => discard e.primary
    | _ => mismatch
  discard (acceptOp "-")
  number
  if (← acceptOp "+") || (← acceptOp "-") then number

/-- Reads over a pattern, in so many steps. -/
def pattern (e : Parts) : Nat → Reader Unit
  | 0 => mismatch
  | n + 1 => do
    let starred : Reader Unit := do
      if ← acceptOp "*" then discard name else pattern e n
    let classArgument : Reader Unit := do
      match (← peek).kind with
      | .name _ =>
        if isOp "=" (← ahead 1) then
          advance
          advance
      | _ => pure ()
      pattern e n
    let mappingItem : Reader Unit := do
      if ← acceptOp "**" then discard name
      else
        match (← peek).kind with
        | .name _ => discard dottedName
        | .quoted _ => discard (texts e.self)
        | .keyword k => if ["None", "True", "False"].contains k then advance else mismatch
        | _ => patternNumber e
        op ":"
        pattern e n
    let closed : Reader Unit := do
      let t ← peek
      match t.kind with
      | .name _ =>
        discard dottedName
        if ← acceptOp "(" then
          if !(← atOp ")") then discard (commaSeparated (atOp ")") classArgument)
          op ")"
      | .quoted _ => discard (texts e.self)
      | .keyword k => if ["None", "True", "False"].contains k then advance else mismatch
      | .op "(" =>
        advance
        if !(← atOp ")") then discard (commaSeparated (atOp ")") starred)
        op ")"
      | .op "[" =>
        advance
        if !(← atOp "]") then discard (commaSeparated (atOp "]") starred)
        op "]"
      | .op "\x7b" =>
        advance
        if !(← atOp "\x7d") then discard (commaSeparated (atOp "\x7d") mappingItem)
        op "\x7d"
      | _ => patternNumber e
    closed
    discard (many do
      if ← acceptOp "|" then
        closed
        return some ()
      else return none)
    if ← acceptKeyword "as" then discard name

/-- Reads over the patterns of a case. -/
def patterns (e : Parts) : Reader Unit := do
  let fuel := (← read).size
  let one : Reader Unit := do
    if ← acceptOp "*" then discard name else pattern e fuel
  let ends : Reader Bool := do
    let t ← peek
    return isOp ":" t || isKeyword "if" t
  discard (commaSeparated ends one)

/-! ### Blocks -/

/-- Reads statements until a block or the text ends. -/
def statements (statement : Reader (List Statement)) : Reader (List Statement) := do
  let first ← statement
  let others ← many do
    let t ← peek
    if isDedent t || isFinish t then return none
    return some (← statement)
  return first ++ others.flatten

/-- Reads a block: indented statements, or simple ones in the same line. -/
def block (e : Parts) (statement : Reader (List Statement)) : Reader (List Statement) := do
  if ← acceptIf isNewline then
    if !(← acceptIf isIndent) then mismatch
    let body ← statements statement
    if !(← acceptIf isDedent) then mismatch
    return body
  else simpleStatements e

/-- Reads a colon and a block. -/
def suite (e : Parts) (statement : Reader (List Statement)) : Reader (List Statement) := do
  op ":"
  block e statement

/-- Reads the block behind `else`, if there is one. -/
def otherwise (e : Parts) (statement : Reader (List Statement)) : Reader (List Statement) := do
  if ← acceptKeyword "else" then suite e statement else return []

/-- Reads the rest of a branch, behind its first word; fuel bounds the number of branches. -/
def branch (e : Parts) (statement : Reader (List Statement)) : Nat → Reader Statement
  | 0 => mismatch
  | fuel + 1 => do
    let test ← namedExpression e.self
    let body ← suite e statement
    if ← acceptKeyword "elif" then
      return .branch test body [← branch e statement fuel]
    return .branch test body (← otherwise e statement)

/-- Reads the rest of a loop over items. -/
def each (e : Parts) (statement : Reader (List Statement)) : Reader Statement := do
  keyword "for"
  let target ← targets e.primary
  keyword "in"
  let source ← starExpressions e.self
  let body ← suite e statement
  return .each target source body (← otherwise e statement)

/-- Reads a loop under a condition. -/
def repeated (e : Parts) (statement : Reader (List Statement)) : Reader Statement := do
  keyword "while"
  let test ← namedExpression e.self
  let body ← suite e statement
  return .repeated test body (← otherwise e statement)

/-- Reads a context and what it is bound to. -/
def context (e : Parts) : Reader (Expr × Option Expr) := do
  let c ← e.self .expression
  if ← acceptKeyword "as" then
    let p ← here
    if ← acceptOp "*" then return (c, some (.starred p (← e.primary)))
    return (c, some (← e.primary))
  return (c, none)

/-- Reads a block within contexts. -/
def within (e : Parts) (statement : Reader (List Statement)) : Reader Statement := do
  keyword "with"
  let bracketed : Reader (List (Expr × Option Expr)) := do
    op "("
    let (cs, _) ← commaSeparated (atOp ")") (context e)
    op ")"
    if !(← atOp ":") then mismatch
    return cs
  let bare : Reader (List (Expr × Option Expr)) :=
    Prod.fst <$> commaSeparated (pure false) (context e)
  let cs ← if ← atOp "(" then either bracketed bare else bare
  let body ← suite e statement
  return .within (cs.map Prod.fst) (cs.filterMap Prod.snd) body

/-- Reads a block with handlers of errors. -/
def attemptBlock (e : Parts) (statement : Reader (List Statement)) : Reader Statement := do
  keyword "try"
  let body ← suite e statement
  let handlers ← many do
    if !(← acceptKeyword "except") then return none
    discard (acceptOp "*")
    let type ← if ← atOp ":" then pure none
      else do
        let t ← e.self .expression
        if ← acceptKeyword "as" then discard name
        pure (some t)
    return some (type, ← suite e statement)
  let elseBlock ← if handlers.isEmpty then pure [] else otherwise e statement
  let final ← if ← acceptKeyword "finally" then suite e statement else pure []
  return .attempt body (handlers.filterMap Prod.fst) (handlers.map Prod.snd) elseBlock final

/-- Reads the subject of a selection. -/
def subject (e : Parts) : Reader Expr := do
  let p ← here
  let item := starExpression e.self (namedExpression e.self)
  let (es, comma) ← commaSeparated (atOp ":") item
  match es, comma with
  | [x], false => return x
  | es, _ => return .tuple p es

/-- Reads a selection by patterns, if one comes next. -/
def select (e : Parts) (statement : Reader (List Statement)) : Reader (Option Statement) := do
  if !isWord "match" (← peek) then return none
  let opening : Reader Expr := do
    advance
    let s ← subject e
    op ":"
    endOfLine
    if !(← acceptIf isIndent) then mismatch
    if !isWord "case" (← peek) then mismatch
    return s
  match ← attempt opening with
  | none => return none
  | some s =>
    let cases ← many do
      if !isWord "case" (← peek) then return none
      advance
      patterns e
      let guard ← if ← acceptKeyword "if" then (some <$> namedExpression e.self) else pure none
      return some (guard, ← suite e statement)
    if !(← acceptIf isDedent) then mismatch
    return some (.select s (cases.filterMap Prod.fst) (cases.map Prod.snd))

/-! ### Definitions -/

/-- Reads the definition of a class. -/
def classDef (e : Parts) (statement : Reader (List Statement)) (decorators : List Expr) :
    Reader Statement := do
  let p ← here
  keyword "class"
  let n ← name
  let bounds ← typeParameters e
  let q ← here
  let r ← if ← acceptOp "(" then do
      let r ← arguments e.self e.primary q
      op ")"
      pure r
    else pure {}
  let keywords := r.keywords.map Keyword.value
  return .classDef p n bounds r.positional keywords decorators (← suite e statement)

/-- Reads the definition of a function that starts at a place. -/
def functionDef (e : Parts) (statement : Reader (List Statement)) (p : Place)
    (decorators : List Expr) : Reader Statement := do
  keyword "def"
  let n ← name
  let bounds ← typeParameters e
  op "("
  let ps ← parameters e.self true ")"
  op ")"
  let result ← if ← acceptOp "->" then (some <$> e.self .expression) else pure none
  return .function p n bounds ps result decorators (← suite e statement)

/-- Reads decorators, each in a line of its own. -/
def decorators (e : Parts) : Reader (List Expr) := many do
  if !(← acceptOp "@") then return none
  let d ← namedExpression e.self
  endOfLine
  return some d

/-- Reads a statement, or the simple statements of a line. -/
def statement (e : Parts) (inner : Reader (List Statement)) : Reader (List Statement) := do
  let p ← here
  let one (s : Reader Statement) : Reader (List Statement) := do return [← s]
  match (← peek).kind with
  | .op "@" =>
    let ds ← decorators e
    let q ← here
    if ← atKeyword "class" then one (classDef e inner ds)
    else
      discard (acceptKeyword "async")
      one (functionDef e inner q ds)
  | .keyword "class" => one (classDef e inner [])
  | .keyword "def" => one (functionDef e inner p [])
  | .keyword "if" =>
    advance
    one (branch e inner (← read).size)
  | .keyword "for" => one (each e inner)
  | .keyword "while" => one (repeated e inner)
  | .keyword "with" => one (within e inner)
  | .keyword "try" => one (attemptBlock e inner)
  | .keyword "async" =>
    advance
    if ← atKeyword "def" then one (functionDef e inner p [])
    else if ← atKeyword "for" then one (each e inner)
    else if ← atKeyword "with" then one (within e inner)
    else mismatch
  | .indent => mismatch
  | _ =>
    match ← select e inner with
    | some s => return [s]
    | none => simpleStatements e

/-- Reads a statement in so many steps. -/
def statementAt (e : Parts) : Nat → Reader (List Statement)
  | 0 => mismatch
  | n + 1 => statement e (statementAt e n)

end StatementReader

open Reader ExprReader StatementReader

/-- How many steps suffice to read a text of some length. -/
def readingSteps (length : Nat) : Nat := 4 * length + 16

/-- Reads tokens that follow the grammar of some text. -/
def Tokens.readAs {α : Type} (t : Tokens) (r : Grammar.StatementRule) (p : Reader α) :
    Except SourceFault α := do
  t.check r
  match p.answer? t.tokens with
  | some a => return a
  | none => throw { line := t.lineAt 0 }

/-- Reads a text as the statements of a module, in which there can be type parameters since
release 3.12 of the language. -/
def readModule (s : String) (typeParameters : Bool := true) :
    Except SourceFault (List Statement) :=
  let n := readingSteps s.length
  let e : StatementReader.Parts := ⟨expressionAt n, expressionAt.primaryAt n⟩
  { Tokens.ofLines s with typeParameters }.readAs .statementText do
    if isFinish (← peek) then return [] else statements (statementAt e n)

/-- Reads a text as one expression. -/
def readExpression (s : String) : Except SourceFault Expr :=
  let self := expressionAt (readingSteps s.length)
  (Tokens.ofText s).readAs .expressionText do
    let p ← here
    match ← commaSeparated atListEnd (self .expression) with
    | ([e], false) => return e
    | (es, _) => return .tuple p es

end Marginalia
