/-
Source texts cut into tokens.

Lines end in tokens of their own and changes of indentation are tokens too, except
inside brackets, where a line break is a blank.  A fault ends the tokens; whatever
was found before it is kept.
-/
import Marginalia.Source.Number
import Marginalia.Text.Identifier
import Marginalia.Text.Normal
import Marginalia.Text.Search

namespace Marginalia

namespace Scan

/-- Where a text is being cut: what is left of it, and what was found. -/
structure State where
  rest : List Char
  line : Nat
  column : Nat
  startsLine : Bool := true
  /-- Columns of the open blocks, innermost first, each measured with wide and with
  narrow tabs. -/
  indents : List (Nat × Nat) := [(0, 0)]
  /-- Open brackets with their lines, innermost first. -/
  brackets : List (Char × Nat) := []
  /-- Tokens found, the last one first. -/
  found : List Token := []

/-- Words that cannot be names. -/
def keywords : List String := ["False", "None", "True", "and", "as", "assert", "async", "await",
  "break", "class", "continue", "def", "del", "elif", "else", "except", "finally", "for", "from",
  "global", "if", "import", "in", "is", "lambda", "nonlocal", "not", "or", "pass", "raise",
  "return", "try", "while", "with", "yield"]

/-- Signs of several characters, longer ones first. -/
def longSigns : List String := ["**=", "//=", ">>=", "<<=", "...", "!=", "<>", "%=", "&=", "**",
  "*=", "+=", "-=", "->", "//", "/=", ":=", "<<", "<=", "==", ">=", ">>", "@=", "^=", "|="]

/-- How many blocks can be open at once. -/
def blockLimit : Nat := 100

/-- How many brackets can be open at once. -/
def bracketLimit : Nat := 200

/-- The position behind some characters. -/
def advance (line column : Nat) (cs : List Char) : Nat × Nat :=
  cs.foldl (fun (l, c) ch => if ch == '\n' then (l + 1, 0) else (l, c + ch.utf8Size)) (line, column)

namespace State

/-- Goes on behind characters that were taken. -/
def skip (s : State) (taken rest : List Char) : State :=
  let (line, column) := advance s.line s.column taken
  { s with rest, line, column }

/-- Adds a token that starts here. -/
def add (s : State) (kind : TokenKind) : State :=
  { s with found := ⟨kind, ⟨s.line, s.column⟩, s.brackets.length⟩ :: s.found }

/-- Adds a token made of some characters. -/
def emit (s : State) (kind : TokenKind) (taken rest : List Char) : State :=
  (s.add kind).skip taken rest

/-- A fault here. -/
def fault (s : State) (kind : SourceFaultKind) (line : Nat) (isDecisive : Bool) : TokenFault :=
  ⟨⟨kind, line⟩, isDecisive, s.brackets.head?.map Prod.snd⟩

/-- A fault of the text itself. -/
def malformed (s : State) : TokenFault := s.fault .malformed s.line true

end State

/-- The columns at which a line starts, by tabs of eight and tabs of one, and the blanks
before it. -/
def margin : Nat → Nat → List Char → (Nat × Nat) × List Char × List Char
  | wide, narrow, ' ' :: cs =>
    let (m, taken, rest) := margin (wide + 1) (narrow + 1) cs
    (m, ' ' :: taken, rest)
  | wide, narrow, '\t' :: cs =>
    let (m, taken, rest) := margin ((wide / 8 + 1) * 8) (narrow + 1) cs
    (m, '\t' :: taken, rest)
  | _, _, '\x0c' :: cs =>
    let (m, taken, rest) := margin 0 0 cs
    (m, '\x0c' :: taken, rest)
  | wide, narrow, cs => ((wide, narrow), [], cs)

/-- Takes what is left of a line. -/
def restOfLine (cs : List Char) : List Char × List Char :=
  (cs.takeWhile (· != '\n'), cs.dropWhile (· != '\n'))

/-- A backslash at the end of a line goes on with the next line. -/
def continueLine (s : State) (cs : List Char) : Except (State × TokenFault) State :=
  match cs with
  | '\n' :: [] =>
    let s := s.skip ['\\'] cs
    let fault := match s.brackets.head? with
      | some b => s.fault .malformed b.2 false
      | none => s.fault .malformed s.line false
    .error (s, fault)
  | '\n' :: rest => .ok (s.skip ['\\', '\n'] rest)
  | _ => .error (s, s.fault .malformed s.line false)

/-- Closes blocks down to a column. -/
def closeBlocks (column : Nat) : State → Nat → State
  | s, 0 => s
  | s, n + 1 =>
    match s.indents with
    | (w, _) :: outer :: more =>
      if column < w then
        closeBlocks column { (s.add .dedent) with indents := outer :: more } n
      else s
    | _ => s

/-- Compares the column of a line with the open blocks. -/
def measure (s : State) (m : Nat × Nat) : Except (State × TokenFault) State :=
  let tabs : Except (State × TokenFault) State := .error (s, s.fault .tabs s.line false)
  match s.indents.head? with
  | none => .ok s
  | some (wide, narrow) =>
    if m.1 = wide then if m.2 = narrow then .ok s else tabs
    else if m.1 > wide then
      if s.indents.length ≥ blockLimit then .error (s, s.fault .indentation s.line false)
      else if m.2 ≤ narrow then tabs
      else .ok { (s.add .indent) with indents := m :: s.indents }
    else
      let closed := closeBlocks m.1 s s.indents.length
      match closed.indents.head? with
      | none => .ok closed
      | some (wide, narrow) =>
        if m.1 ≠ wide then .error (s, s.fault .indentation s.line false)
        else if m.2 ≠ narrow then tabs
        else .ok closed

/-- Passes over the blanks before a line and over line breaks after a backslash among
them; `fuel` bounds their number.  The column counts from the first break that has
blanks before it, if there is one. -/
def passMargin : Nat → Nat × Nat → State → Except (State × TokenFault) ((Nat × Nat) × State)
  | 0, m, s => .ok (m, s)
  | fuel + 1, kept, s =>
    let (m, blanks, rest) := margin 0 0 s.rest
    let s := s.skip blanks rest
    match rest with
    | '\\' :: cs =>
      match continueLine s cs with
      | .error e => .error e
      | .ok next => passMargin fuel (if kept.1 = 0 then m else kept) next
    | _ => .ok (if kept.1 = 0 then m else kept, s)

/-- Starts a line: blank lines and comments are passed over, else the column is compared
with the open blocks. -/
def startLine (s : State) : Except (State × TokenFault) State :=
  match passMargin (s.rest.length + 1) (0, 0) { s with startsLine := false } with
  | .error e => .error e
  | .ok (m, s') =>
    match s'.rest with
    | [] => if s.brackets.isEmpty then measure s' m else .ok s'
    | '\n' :: rest => .ok { s'.skip ['\n'] rest with startsLine := true }
    | '#' :: _ =>
      let (comment, rest) := restOfLine s'.rest
      .ok { s'.skip (comment ++ rest.take 1) (rest.drop 1) with startsLine := true }
    | _ => if s.brackets.isEmpty then measure s' m else .ok s'

/-- Whether letters can stand before the quote of a text. -/
def canPrecedeQuote (letters : List Char) : Bool :=
  ["", "b", "u", "r", "f", "br", "rb", "fr", "rf"].contains
    (String.ofList (letters.map Char.toLower))

/-- Takes the inside of a quoted text with its closing quote. -/
def takeQuoted? (quote : Char) (triple : Bool) : List Char → Option (List Char × List Char)
  | [] => none
  | ['\\'] => none
  | '\\' :: c :: cs => (takeQuoted? quote triple cs).map fun (t, r) => ('\\' :: c :: t, r)
  | c :: cs =>
    if c == quote && !triple then some ([c], cs)
    else if c == quote && [quote, quote].isPrefixOf cs then some ([c, c, c], cs.drop 2)
    else if c == '\n' && !triple then none
    else (takeQuoted? quote triple cs).map fun (t, r) => (c :: t, r)

/-- Takes a quoted text whose quote comes next. -/
def quotedText (s : State) (letters cs : List Char) : Except (State × TokenFault) State :=
  match cs with
  | q :: cs' =>
    let triple := [q, q].isPrefixOf cs'
    let opening := if triple then [q, q, q] else [q]
    match takeQuoted? q triple (cs.drop opening.length) with
    | none => .error (s, s.malformed)
    | some (body, rest) =>
      let all := letters ++ opening ++ body
      .ok (s.emit (.quoted all) all rest)
  | [] => .ok s

/-- Takes a name, a keyword, or a quoted text with letters before it. -/
def word (s : State) : Except (State × TokenFault) State :=
  let isPart (c : Char) : Bool := SourceNumber.joinsName c
  let taken := s.rest.takeWhile isPart
  let rest := s.rest.dropWhile isPart
  let isQuote := rest.head? == some '\'' || rest.head? == some '"'
  if isQuote && canPrecedeQuote taken then quotedText s taken rest
  else
    let valid := match taken with
      | [] => false
      | c :: cs => isNameStart c && cs.all isNamePart
    let text := String.ofList taken
    if !valid then .error (s, s.malformed)
    else if keywords.contains text then .ok (s.emit (.keyword text) taken rest)
    else .ok (s.emit (.name (Normal.form text)) taken rest)

/-- The bracket that closes one. -/
def closing? : Char → Option Char
  | '(' => some ')'
  | '[' => some ']'
  | '\x7b' => some '\x7d'
  | _ => none

/-- Takes a sign; brackets are kept track of. -/
def sign (s : State) (c : Char) (cs : List Char) : Except (State × TokenFault) State :=
  match longSigns.find? fun t => t.toList.isPrefixOf s.rest with
  | some t => .ok (s.emit (.op t) t.toList (s.rest.drop t.length))
  | none =>
    let op : TokenKind := .op (String.singleton c)
    if (closing? c).isSome then
      if s.brackets.length ≥ bracketLimit then .error (s, s.malformed)
      else .ok ({ s with brackets := (c, s.line) :: s.brackets }.emit op [c] cs)
    else if c == ')' || c == ']' || c == '\x7d' then
      match s.brackets with
      | [] => .error (s, s.malformed)
      | (b, _) :: more =>
        if closing? b == some c then .ok ({ s with brackets := more }.emit op [c] cs)
        else .error (s, s.malformed)
    else if c.toNat < 32 || c.toNat = 127 then .error (s, s.malformed)
    else .ok (s.emit op [c] cs)

/-- Takes the next token, or passes over what is none.  The end of the text is not met
here. -/
def step (s : State) : Except (State × TokenFault) State :=
  if s.startsLine then startLine s
  else match s.rest with
    | [] => .ok s
    | '\n' :: cs =>
      if s.brackets.isEmpty then .ok { s.emit .newline ['\n'] cs with startsLine := true }
      else .ok { s.skip ['\n'] cs with startsLine := true }
    | '#' :: _ => let (comment, rest) := restOfLine s.rest; .ok (s.skip comment rest)
    | '\\' :: cs => continueLine s cs
    | c :: cs =>
      if c == ' ' || c == '\t' || c == '\x0c' then .ok (s.skip [c] cs)
      else if c == '\'' || c == '"' then quotedText s [] s.rest
      else if c.isDigit || (c == '.' && cs.head?.any Char.isDigit) then
        match SourceNumber.take? s.rest with
        | none => .error (s, s.malformed)
        | some (l, rest) => .ok (s.emit (.number l) (s.rest.take (s.rest.length - rest.length)) rest)
      else if SourceNumber.joinsName c then word s
      else sign s c cs

/-- The end of the text: open blocks are closed, open brackets are a fault. -/
def conclude (s : State) : Tokens :=
  let s := { s with line := if s.column = 0 && s.line > 1 then s.line - 1 else s.line }
  match s.brackets with
  | (_, line) :: _ =>
    { tokens := s.found.reverse.toArray, fault? := some (s.fault .malformed line false) }
  | [] =>
    let s := (closeBlocks 0 s s.indents.length).add .finish
    { tokens := s.found.reverse.toArray }

/-- Takes tokens until the text is used up; `fuel` bounds their number. -/
def run : Nat → State → Tokens
  | 0, s => conclude s
  | fuel + 1, s =>
    if s.rest.isEmpty then conclude s
    else match step s with
      | .ok s' => run fuel s'
      | .error (s', f) => { tokens := s'.found.reverse.toArray, fault? := some f }

/-- One character for every line break, and one at the end of the text. -/
def unifyLines : List Char → List Char
  | [] => []
  | '\r' :: '\n' :: cs => '\n' :: unifyLines cs
  | '\r' :: cs => '\n' :: unifyLines cs
  | c :: cs => c :: unifyLines cs

end Scan

/-- The tokens of a text that starts at some place. -/
def Tokens.ofChars (start : Place) (cs : List Char) : Tokens :=
  let cs := Scan.unifyLines cs
  if cs.contains (Char.ofNat 0) then { tokens := #[], fault? := some ⟨⟨.malformed, 0⟩, true, none⟩ }
  else Scan.run (2 * cs.length + 2) { rest := cs, line := start.line, column := start.column }

/-- The tokens of a text. -/
def Tokens.ofText (s : String) : Tokens := Tokens.ofChars ⟨1, 0⟩ s.toList

/-- The tokens of a text, the last line of which is ended if it is not. -/
def Tokens.ofLines (s : String) : Tokens :=
  let isEnded := s.toList.getLast?.all fun c => c == '\n' || c == '\r'
  Tokens.ofText (if isEnded then s else s ++ "\n")

end Marginalia
