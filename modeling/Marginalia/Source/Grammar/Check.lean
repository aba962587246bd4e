/-
Whether tokens follow the grammar, and whom to blame if they do not.

The branches of a rule are tried in order.  Tokens that nothing fits are read a second
time, and mistakes are looked for on the way; the first one found is blamed.  If none is
found, the furthest token looked at in the first reading is at fault.
-/
import Marginalia.Source.Grammar.Shape
import Marginalia.Source.Grammar.Statement
import Marginalia.Source.QuotedText

namespace Marginalia

namespace Tokens

/-- The line of a token. -/
def lineAt (t : Tokens) (i : Nat) : Nat :=
  match t.tokens[i]? with
  | some token => token.place.line
  | none => (t.tokens.back?.map fun token => token.place.line).getD 1

/-- A fault of what was read gives way to a decisive fault further on, and to a bracket
left open on an earlier line. -/
def settle (t : Tokens) (furthest : Nat) (f : SourceFault) : SourceFault :=
  match t.fault? with
  | none => f
  | some later =>
    if later.isDecisive then later.fault
    else match later.openLine? with
      | some line => if t.lineAt furthest > line then { line } else f
      | none => f

/-- The branches of a rule; one for type parameters has none where there cannot be any. -/
def branches (t : Tokens) (r : Grammar.Rule) : List Grammar.Branch :=
  if r == .statement .typeParameters && !t.typeParameters then [] else r.branches

/-- How many tokens there are, with the characters of quoted texts. -/
def size (t : Tokens) : Nat :=
  t.tokens.foldl (fun n token => match token.kind with
    | .quoted cs => n + cs.length + 1
    | _ => n + 1) 0

end Tokens

namespace Grammar

/-- Why a search ends early. -/
inductive Stop where
  /-- What was read is at fault. -/
  | fault (f : SourceFault)
  /-- The tokens end in a fault. -/
  | tokens (f : SourceFault)

/-- What rules have found at the positions of a text, and where that ended. -/
structure Kept where
  /-- What was found at each position, the latest first. -/
  found : Array (List (Rule × Option (Shape × Nat))) := #[]

namespace Kept

/-- What a rule has found at a position. -/
def find? (k : Kept) (r : Rule) (i : Nat) : Option (Option (Shape × Nat)) :=
  (k.found.getD i []).lookup r

/-- Keeps what a rule has found at a position, in place of what it had found there. -/
def keep (k : Kept) (r : Rule) (i : Nat) (shape : Option (Shape × Nat)) : Kept :=
  let found := k.found ++ Array.replicate (i + 1 - k.found.size) []
  ⟨found.setIfInBounds i ((r, shape) :: found.getD i [])⟩

end Kept

/-- How far a search has come. -/
structure Search where
  position : Nat := 0
  furthest : Nat := 0
  kept : Kept := {}

/-- A step of a search. -/
abbrev Finder := ExceptT Stop (StateM Search)

/-- A token some places ahead. -/
def look (t : Tokens) (k : Nat) : Finder Token := do
  let s ← get
  let i := s.position + k
  set { s with furthest := max s.furthest i }
  match t.tokens[i]?, t.fault? with
  | some token, _ => return token
  | none, some f => throw (.tokens f.fault)
  | none, none => return t.tokens.back?.getD default

/-- Goes to a position. -/
def goTo (i : Nat) : Finder Unit := modify fun s => { s with position := i }

/-- Goes past the next token if it is of some kind. -/
def accept (t : Tokens) (test : Token → Bool) : Finder (Option Shape) := do
  let token ← look t 0
  if !test token then return none
  modify fun s => { s with position := s.position + 1 }
  return some (match token.kind with
    | .name n => .name token.place.line n
    | _ => .node token.place.line)

/-- Blames a line. -/
def blameLine {α : Type} (line : Nat) : Finder α := throw (.fault { line })

/-- The line of the furthest token looked at. -/
def lastLine (t : Tokens) : Finder Nat := return t.lineAt (← get).furthest

/-- Whether a token is some sign or keyword. -/
def isText (s : String) (token : Token) : Bool :=
  match token.kind with
  | .op o | .keyword o => o == s
  | _ => false

/-- Whether a token is the name of some spelling. -/
def isNamed (s : String) (token : Token) : Bool :=
  match token.kind with
  | .name n => n == s
  | _ => false

/-- Whether a token is a name that could become a keyword of some statements. -/
def beginsSoftKeyword (token : Token) : Bool :=
  match token.kind with
  | .name n => ["_", "case", "match"].any fun w => n.toList.isPrefixOf w.toList
  | _ => false

/-- Whether a token is of the kind a pattern asks for. -/
def fitsToken : Pattern → Token → Bool
  | .text s, token => isText s token
  | .word s, token => isNamed s token
  | .softKeyword, token => beginsSoftKeyword token
  | p, token =>
    match p, token.kind with
    | .name, .name _ | .number, .number _ | .numberOf _, .number _ | .quotation, .quoted _
    | .newline, .newline | .indent, .indent | .dedent, .dedent | .finish, .finish => true
    | _, _ => false

/-- Refuses a number that cannot be read, or is of the wrong sort. -/
def checkNumber (p : Pattern) (token : Token) : Finder Unit :=
  match p, token.kind with
  | _, .number none => blameLine token.place.line
  | .numberOf isImaginary, .number (some l) =>
    let found := match l with
      | .imaginary _ => true
      | _ => false
    if found != isImaginary then blameLine token.place.line else return ()
  | _, _ => return ()

/-- What comes of a branch that fits and starts at a position; none if that is no answer. -/
def Outcome.conclude (t : Tokens) (start : Nat) (o : Outcome) (found : List Shape) :
    Finder (Option Shape) := do
  let line := t.lineAt start
  let part (i : Nat) : Shape := found.getD i .nothing
  let parts (is : List Nat) : List Shape := is.flatMap fun i => (part i).parts
  match o with
  | .node => return some (.node line)
  | .place => return some (.place line)
  | .part i => return some (part i)
  | .items is => return some (.items line (parts is))
  | .together is => return some (.several (parts is))
  | .starred i => return some (.starred line (part i))
  | .comparison i isMembership => return some (.comparison line isMembership (part i))
  | .arguments all mixed =>
    return some (.arguments line (parts all ++ (parts mixed).filter Shape.isStarred))
  | .blame i => blameLine (part i).line
  | .blameLast => blameLine (← lastLine t)
  | .blameIndentation => throw (.fault ⟨.indentation, ← lastLine t⟩)
  | .blameTarget use i =>
    match (part i).unfit? use with
    | some n => blameLine n
    | none => return none
  | .blameMissingComma i =>
    let depth := (t.tokens[(← get).position - 1]?.map Token.depth).getD 0
    if (part i).isFormerStatement || depth = 0 then return none
    blameLine (part i).line
  | .blameFormerStatement i =>
    if (part i).isFormerStatement then blameLine (part i).line else return none
  | .blameGenerator i =>
    match part i with
    | .arguments _ (s :: more@(_ :: _)) => blameLine ((s :: more).getLast?.getD s).line
    | _ => return none

mutual

/-- Checks tokens against a rule in two readings.  Fuel bounds how deep rules, branches
and parts of branches are nested. -/
def check (fuel : Nat) (t : Tokens) (r : Rule) : Except SourceFault Unit :=
  match fuel with
  | 0 => .error { line := 0 }
  | fuel + 1 =>
    match (findRule t fuel false r).run {} with
    | (.ok (some _), _) => .ok ()
    | (.error (.tokens f), _) => .error f
    | (.error (.fault f), s) => .error (t.settle s.furthest f)
    | (.ok none, first) =>
      match (findRule t fuel true r).run { furthest := first.furthest } with
      | (.error (.tokens f), _) => .error f
      | (.error (.fault f), s) => .error (t.settle s.furthest f)
      | (.ok _, second) =>
        match (t.tokens[first.furthest]?.map Token.kind).getD .finish with
        | .indent | .dedent => .error ⟨.indentation, t.lineAt second.furthest⟩
        | _ => .error (t.settle second.furthest { line := t.lineAt first.furthest })

/-- Tries a rule at the position of the search. -/
def findRule (t : Tokens) (fuel : Nat) (blaming : Bool) (r : Rule) : Finder (Option Shape) :=
  match fuel with
  | 0 => return none
  | fuel + 1 => do
    let start := (← get).position
    let blaming := blaming && r != .expr .plainExpression
    if !r.isKept then return ← findBranch t fuel blaming start (t.branches r)
    discard (look t 0)
    match (← get).kept.find? r start with
    | some none => return none
    | some (some (shape, behind)) =>
      goTo behind
      return some shape
    | none =>
      if r.isLeftRecursive then return ← grow t fuel blaming start r none
      let found ← findBranch t fuel blaming start (t.branches r)
      modify fun s => { s with kept := s.kept.keep r start (found.map (·, s.position)) }
      return found

/-- Repeats a rule that begins with itself for as long as that takes it further. -/
def grow (t : Tokens) (fuel : Nat) (blaming : Bool) (start : Nat) (r : Rule)
    (best : Option (Shape × Nat)) : Finder (Option Shape) :=
  match fuel with
  | 0 => return none
  | fuel + 1 => do
    modify fun s => { s with position := start, kept := s.kept.keep r start best }
    let found ← findBranch t fuel blaming start (t.branches r)
    let behind := (← get).position
    match found with
    | some shape =>
      if (best.map Prod.snd).getD start < behind then
        return ← grow t fuel blaming start r (some (shape, behind))
    | none => pure ()
    goTo ((best.map Prod.snd).getD start)
    return best.map Prod.fst

/-- Tries branches in order. -/
def findBranch (t : Tokens) (fuel : Nat) (blaming : Bool) (start : Nat) (bs : List Branch) :
    Finder (Option Shape) :=
  match fuel, bs with
  | 0, _ | _, [] => return none
  | fuel + 1, (ps, outcome) :: more => do
    goTo start
    match ← findParts t fuel blaming ps false [] with
    | .ok found => outcome.conclude t start found
    | .error true => return none
    | .error false => findBranch t fuel blaming start more

/-- Reads patterns one behind the other.  A failure says whether other branches are out of
the question. -/
def findParts (t : Tokens) (fuel : Nat) (blaming : Bool) (ps : List Pattern)
    (committed : Bool) (found : List Shape) : Finder (Except Bool (List Shape)) :=
  match fuel, ps with
  | 0, _ => return .error true
  | _, [] => return .ok found.reverse
  | fuel + 1, p :: more => do
    let committed := committed || (match p with
      | .committed => true
      | _ => false)
    match ← findPattern t fuel blaming p with
    | some shape => findParts t fuel blaming more committed (shape :: found)
    | none => return .error committed

/-- Reads what a pattern asks for. -/
def findPattern (t : Tokens) (fuel : Nat) (blaming : Bool) (p : Pattern) :
    Finder (Option Shape) :=
  match fuel with
  | 0 => return none
  | fuel + 1 => do
    let start := (← get).position
    match p with
    | .rule r => findRule t fuel blaming r
    | .oneOf bs => findBranch t fuel blaming start bs
    | .optional p =>
      match ← findPattern t fuel blaming p with
      | some shape => return some shape
      | none =>
        goTo start
        return some .nothing
    | .many p => return some (.several (← findMany t fuel blaming p []))
    | .some p =>
      match ← findMany t fuel blaming p [] with
      | [] => return none
      | found => return some (.several found)
    | .separated sign p =>
      match ← findPattern t fuel blaming p with
      | some first =>
        let more ← findMany t fuel blaming (.row 1 [.text sign, p]) []
        return some (.several (first :: more))
      | none => return none
    | .ahead p =>
      let found ← findPattern t fuel blaming p
      goTo start
      return found
    | .absent p =>
      let found ← findPattern t fuel blaming p
      goTo start
      return if found.isSome then none else some .nothing
    | .must s =>
      match ← accept t (isText s) with
      | some shape => return some shape
      | none => blameLine (← look t 0).place.line
    | .committed => return some .nothing
    | .blaming => return if blaming then some .nothing else none
    | .quotations =>
      match ← findTexts t fuel none with
      | some line => return some (.node line)
      | none => return none
    | p =>
      let token ← look t 0
      let found ← accept t (fitsToken p)
      if found.isSome then checkNumber p token
      return found

/-- Repeats a pattern for as long as it fits. -/
def findMany (t : Tokens) (fuel : Nat) (blaming : Bool) (p : Pattern) (found : List Shape) :
    Finder (List Shape) :=
  match fuel with
  | 0 => return found.reverse
  | fuel + 1 => do
    let start := (← get).position
    match ← findPattern t fuel blaming p with
    | some shape => findMany t fuel blaming p (shape :: found)
    | none =>
      goTo start
      return found.reverse

/-- Collects the quoted texts of a row and checks them behind the last one. -/
def findTexts (t : Tokens) (fuel : Nat) (before : Option (List Token)) : Finder (Option Nat) :=
  match fuel with
  | 0 => return none
  | fuel + 1 => do
    let token ← look t 0
    match token.kind, before with
    | .quoted _, _ =>
      modify fun s => { s with position := s.position + 1 }
      findTexts t fuel (some (token :: before.getD []))
    | _, none => return none
    | _, some texts =>
      let texts := texts.reverse
      checkTexts t fuel none texts
      return texts.head?.map fun token => token.place.line

/-- Checks quoted texts in a row; all are of the same sort as the first. -/
def checkTexts (t : Tokens) (fuel : Nat) (isBytes : Option Bool) (texts : List Token) :
    Finder Unit :=
  match fuel, texts with
  | 0, _ | _, [] => return ()
  | fuel + 1, token :: more => do
    match token.kind with
    | .quoted cs =>
      let text := QuotedText.ofChars cs
      if text.isBytes && text.inside.any (fun c => c.toNat ≥ 128) then
        blameLine token.place.line
      if !text.hasFields && !text.canDecode then blameLine (← lastLine t)
      if isBytes.any (· != text.isBytes) then blameLine (← lastLine t)
      if text.hasFields then
        let (pieces, isWhole) := text.pieces token.place cs
        checkPieces t fuel pieces
        if !isWhole then blameLine (← lastLine t)
      checkTexts t fuel (some text.isBytes) more
    | _ => return ()

/-- Checks the fields of a text in order. -/
def checkPieces (t : Tokens) (fuel : Nat) (pieces : List QuotedText.Piece) : Finder Unit :=
  match fuel, pieces with
  | 0, _ | _, [] => return ()
  | fuel + 1, .text _ :: more => checkPieces t fuel more
  | fuel + 1, .field p source _ _ spec :: more => do
    match check fuel (Tokens.ofChars p ('(' :: source ++ [')'])) (.statement .fieldText) with
    | .ok () => pure ()
    | .error f => throw (.fault f)
    checkPieces t fuel (spec.getD [])
    checkPieces t fuel more

end

/-- How deep the check of some tokens is nested at most. -/
def checkDepth (t : Tokens) : Nat := 1000 * (t.size + 2)

end Grammar

/-- Checks tokens against the grammar of some text. -/
def Tokens.check (t : Tokens) (r : Grammar.StatementRule) : Except SourceFault Unit :=
  Grammar.check (Grammar.checkDepth t) t (.statement r)

end Marginalia
