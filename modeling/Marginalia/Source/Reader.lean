/-
Reading tokens in order.

A `Reader` looks at tokens from some position on.  It either has an answer and a position
behind what it has read, or does not fit the tokens; then another one can be tried from
the same position.
-/
import Marginalia.Source.Token

namespace Marginalia

/-- A reader of tokens. -/
abbrev Reader := ReaderT (Array Token) (StateT Nat Option)

namespace Reader

variable {α : Type}

/-- The tokens do not fit. -/
def mismatch : Reader α := failure

/-- A token some places ahead; the last one if there are not so many. -/
def ahead (k : Nat) : Reader Token := do
  let tokens ← read
  return tokens[(← get) + k]?.getD (tokens.back?.getD default)

/-- The next token. -/
def peek : Reader Token := ahead 0

/-- Where the next token starts. -/
def here : Reader Place := return (← peek).place

/-- Goes past the next token. -/
def advance : Reader Unit := modify (· + 1)

/-- Whether a token is some sign. -/
def isOp (s : String) (t : Token) : Bool :=
  match t.kind with
  | .op o => o == s
  | _ => false

/-- Whether a token is some keyword. -/
def isKeyword (s : String) (t : Token) : Bool :=
  match t.kind with
  | .keyword k => k == s
  | _ => false

/-- Whether the next two tokens pass two tests. -/
def nextTwo (first second : Token → Bool) : Reader Bool :=
  return first (← peek) && second (← ahead 1)

/-- Whether the next token is some sign. -/
def atOp (s : String) : Reader Bool := return isOp s (← peek)

/-- Whether the next token is some keyword. -/
def atKeyword (s : String) : Reader Bool := return isKeyword s (← peek)

/-- Goes past the next token if a test holds of it. -/
def acceptIf (test : Token → Bool) : Reader Bool := do
  if test (← peek) then
    advance
    return true
  else return false

/-- Goes past a sign if it comes next. -/
def acceptOp (s : String) : Reader Bool := acceptIf (isOp s)

/-- Goes past a keyword if it comes next. -/
def acceptKeyword (s : String) : Reader Bool := acceptIf (isKeyword s)

/-- Goes past a sign that has to come next. -/
def op (s : String) : Reader Unit := do
  if !(← acceptOp s) then mismatch

/-- Goes past a keyword that has to come next. -/
def keyword (s : String) : Reader Unit := do
  if !(← acceptKeyword s) then mismatch

/-- Reads a name. -/
def name : Reader String := do
  match (← peek).kind with
  | .name s =>
    advance
    return s
  | _ => mismatch

/-- Tries a reader; if it does not fit, nothing has been read. -/
def attempt (p : Reader α) : Reader (Option α) := fun tokens position =>
  match p tokens position with
  | some (a, behind) => some (some a, behind)
  | none => some (none, position)

/-- Tries a reader, and another one from the same position if the first does not fit. -/
def either (p q : Reader α) : Reader α := p <|> q

/-- Repeats a step until it has no answer; no more often than there are tokens. -/
def iterate {β : Type} (start : β) (step : β → Reader (Option β)) : Reader β := do
  go ((← read).size + 1) start
where
  go : Nat → β → Reader β
    | 0, b => return b
    | n + 1, b => do
      match ← step b with
      | some b' => go n b'
      | none => return b

/-- Reads until a reader has no answer. -/
def many (p : Reader (Option α)) : Reader (List α) := do
  let found ← iterate ([] : List α) fun found => do return (← p).map (· :: found)
  return found.reverse

/-- Reads items with commas between them and possibly one at the end; `ends` says
whether the items are over.  Answers also whether there was any comma. -/
def commaSeparated (ends : Reader Bool) (p : Reader α) : Reader (List α × Bool) := do
  let first ← p
  let (found, comma, _) ← iterate ([first], false, false) fun (found, comma, ended) => do
    if ended then return none
    if !(← acceptOp ",") then return none
    if ← ends then return some (found, true, true)
    let a ← p
    return some (a :: found, comma || true, false)
  return (found.reverse, comma)

/-- The answer to tokens from the first on. -/
def answer? (p : Reader α) (tokens : Array Token) : Option α := (p tokens 0).map Prod.fst

end Reader

end Marginalia
