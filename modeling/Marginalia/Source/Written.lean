/-
Expressions written out.

`Expr.written` spells an expression in one line with no more brackets than it needs.
Each form binds with some strength; a part that binds less than its place asks for is
put in brackets.
-/
import Marginalia.Source.Expr
import Marginalia.Text.Search

namespace Marginalia

namespace Written

/-! ### Strength -/

/-- How tightly forms of expressions bind. -/
def strengthOfNamed : Nat := 1
def strengthOfTuple : Nat := 2
def strengthOfYield : Nat := 3
/-- Of a conditional, and what most places ask for. -/
def strengthOfTest : Nat := 4
def strengthOfOr : Nat := 5
def strengthOfAnd : Nat := 6
def strengthOfNot : Nat := 7
def strengthOfRelation : Nat := 8
def strengthOfBitOr : Nat := 9
def strengthOfSign : Nat := 15
def strengthOfPower : Nat := 16
def strengthOfAwait : Nat := 17
def strengthOfAtom : Nat := 18

/-- How tightly a binary operator binds. -/
def strengthOf : BinaryOp → Nat
  | .bitOr => strengthOfBitOr
  | .bitXor => 10
  | .bitAnd => 11
  | .shiftLeft | .shiftRight => 12
  | .add | .sub => 13
  | .mul | .div | .floorDiv | .mod | .matMul => 14
  | .pow => strengthOfPower

/-- How a binary operator is spelled. -/
def spelling : BinaryOp → String
  | .pow => "**"
  | op => op.symbol

/-- How a relation is spelled. -/
def relationText : Relation → String
  | .equal => "=="
  | .unequal => "!="
  | .order c => c.symbol
  | .among => "in"
  | .notAmong => "not in"
  | .same => "is"
  | .notSame => "is not"

/-- A text in brackets, when its place asks for more than its strength. -/
def within (asked strength : Nat) (s : String) : String :=
  if asked > strength then "(" ++ s ++ ")" else s

/-- Items with commas between them; a single one has a comma behind it. -/
def itemsText : List String → String
  | [s] => s ++ ","
  | ss => ", ".intercalate ss

/-! ### Quotes -/

/-- Ways to quote a text. -/
def quotes : List String := ["'", "\"", "\"\"\"", "'''"]

/-- Whether a text occurs in another. -/
def occursIn (part whole : String) : Bool := (Search.find? part.toList whole.toList).isSome

/-- A text with what cannot be shown replaced by escapes; line breaks and tabs are kept
if asked. -/
def escaped (keepsBreaks : Bool) (s : String) : String :=
  String.ofList (s.toList.flatMap fun c =>
    if keepsBreaks && (c == '\n' || c == '\t') then [c]
    else if c == '\\' then ['\\', '\\']
    else match letterEscape? c with
      | some cs => cs
      | none => if isShown c then [c] else codeEscape c.toNat)

/-- A text to be put in quotes, and the quotes among some that it can be put in. -/
def quotable (s : String) (allowed : List String) (keepsBreaks : Bool) : String × List String :=
  let text := escaped keepsBreaks s
  let possible := if text.contains '\n' then allowed.filter fun q => q.length = 3 else allowed
  match possible.filter fun q => !occursIn q text with
  | [] =>
    let all := (quoted s).toList
    let first := String.ofList (all.take 1)
    (String.ofList (all.drop 1).dropLast, [(allowed.find? (occursIn first)).getD first])
  | q :: qs =>
    match text.toList.getLast? with
    | none => (text, q :: qs)
    | some last =>
      let clashes (q : String) : Bool := q.toList.head? == some last
      let sorted := (q :: qs).filter (fun q => !clashes q) ++ (q :: qs).filter clashes
      if sorted.head?.any clashes then
        (String.ofList (text.toList.dropLast ++ ['\\', last]), sorted)
      else (text, sorted)

/-- A text in quotes, with as few backslashes as possible. -/
def quotedSparingly (s : String) : String :=
  let (text, qs) := quotable s quotes true
  let q := qs.headD "'"
  q ++ text ++ q

/-- The parts of a joined text, each with whether it is plain text, brought into quotes
that suit all of them. -/
def joinedText (parts : List (String × Bool)) : String :=
  let fallback : String :=
    let inner (s : String) : String := String.ofList (((quoted ("\"" ++ s)).toList.drop 2).dropLast)
    "'''" ++ String.join (parts.map fun p => inner p.1) ++ "'''"
  let start : Option (List String × List String) := some ([], quotes)
  match parts.foldl (fun state (s, isPlain) => state.bind fun (done, qs) =>
      let (text, possible) := quotable s qs !isPlain
      if possible.any qs.contains then some (done ++ [text], possible) else none) start with
  | none => fallback
  | some (texts, qs) =>
    let q := qs.headD "'"
    q ++ String.join texts ++ q

/-- A text with its braces doubled. -/
def doubleBraces (s : String) : String :=
  String.ofList (s.toList.flatMap fun c => if c == '\x7b' || c == '\x7d' then [c, c] else [c])

/-! ### Literals -/

/-- A real number; an infinite one is written as a number that is too large. -/
def finiteText (s : String) : String :=
  String.ofList (Search.replace "inf".toList "1e309".toList none s.toList)

/-- A literal; inside a replacement field texts avoid backslashes. -/
def literalText (sparing : Bool) : Literal → String
  | .nothing => "None"
  | .ellipsis => "..."
  | .bool b => if b then "True" else "False"
  | .int n => toString n
  | .real x => finiteText (realText x)
  | .imaginary x => finiteText (complexText (Binary64.zero false) x)
  | .text s lettered => (if lettered then "u" else "") ++ (if sparing then quotedSparingly s else quoted s)
  | .bytes bs => quotedBytes bs

/-- Names of parameters with their defaults, and the marks among them. -/
def parametersText (s : Signature) (defaults : List String) (keywordDefaults : List (Option String)) :
    String :=
  let all := s.positionalOnly ++ s.positional
  let padded := List.replicate (all.length - defaults.length) none ++ defaults.map some
  let one (n : String) (d : Option String) : String := match d with
    | some d => n ++ "=" ++ d
    | none => n
  let positional := List.zipWith one all padded
  let marked := if s.positionalOnly.isEmpty then positional
    else positional.take s.positionalOnly.length ++ ["/"] ++ positional.drop s.positionalOnly.length
  let star := match s.others with
    | some n => ["*" ++ n]
    | none => if s.keywordOnly.isEmpty then [] else ["*"]
  let byName := List.zipWith one s.keywordOnly keywordDefaults
  let last := s.otherKeywords.toList.map fun n => "**" ++ n
  ", ".intercalate (marked ++ star ++ byName ++ last)

end Written

open Written

mutual

/-- An expression in a place that asks for some strength; `sparing` inside a replacement
field. -/
def Expr.writtenIn (sparing : Bool) (asked : Nat) : Expr → String
  | .literal _ l => literalText sparing l
  | .name _ n => n
  | .tuple _ es =>
    let s := itemsText (writtenAll sparing strengthOfTest es)
    if es.isEmpty then "()" else within asked strengthOfTuple s
  | .list _ es => "[" ++ ", ".intercalate (writtenAll sparing strengthOfTest es) ++ "]"
  | .set _ es => "\x7b" ++ ", ".intercalate (writtenAll sparing strengthOfTest es) ++ "\x7d"
  | .dict _ es => "\x7b" ++ ", ".intercalate (writtenEntries sparing es) ++ "\x7d"
  | .unary _ .not e => within asked strengthOfNot ("not " ++ e.writtenIn sparing strengthOfNot)
  | .unary _ op e => within asked strengthOfSign (op.symbol ++ e.writtenIn sparing strengthOfSign)
  | .binary _ op a b =>
    let n := strengthOf op
    let l := if op == .pow then n + 1 else n
    let r := if op == .pow then n else n + 1
    within asked n (a.writtenIn sparing l ++ " " ++ spelling op ++ " " ++ b.writtenIn sparing r)
  | .both _ es =>
    within asked strengthOfAnd (" and ".intercalate (writtenRising sparing strengthOfAnd es))
  | .either _ es =>
    within asked strengthOfOr (" or ".intercalate (writtenRising sparing strengthOfOr es))
  | .comparison _ e ops es =>
    within asked strengthOfRelation
      (e.writtenIn sparing (strengthOfRelation + 1) ++ writtenRelations sparing ops es)
  | .conditional _ test body otherwise =>
    within asked strengthOfTest (body.writtenIn sparing (strengthOfTest + 1) ++ " if " ++
      test.writtenIn sparing (strengthOfTest + 1) ++ " else " ++ otherwise.writtenIn sparing strengthOfTest)
  | .access _ e n =>
    let isNumber := match e with
      | .literal _ (.int _) | .literal _ (.bool _) => true
      | _ => false
    e.writtenIn sparing strengthOfAtom ++ (if isNumber then " ." else ".") ++ n
  | .subscript _ e i =>
    e.writtenIn sparing strengthOfAtom ++ "[" ++
      (match i with
        | .tuple _ (x :: xs) => itemsText (x.writtenIn sparing strengthOfTest :: writtenAll sparing strengthOfTest xs)
        | i => i.writtenIn sparing strengthOfTest) ++ "]"
  | .slice _ a b c =>
    writtenPart sparing "" a ++ ":" ++ writtenPart sparing "" b ++ writtenPart sparing ":" c
  | .call _ f es ks =>
    f.writtenIn sparing strengthOfAtom ++ "(" ++
      ", ".intercalate (writtenAll sparing strengthOfTest es ++ writtenKeywords sparing ks) ++ ")"
  | .starred _ e => "*" ++ e.writtenIn sparing strengthOfBitOr
  | .named _ t v => within asked strengthOfNamed
      (t.writtenIn sparing strengthOfAtom ++ " := " ++ v.writtenIn sparing strengthOfAtom)
  | .lambda _ s ds ks e =>
    let ps := parametersText s (writtenAll sparing strengthOfTest ds) (writtenOptional sparing ks)
    within asked strengthOfTest
      ("lambda" ++ (if ps.isEmpty then "" else " " ++ ps) ++ ": " ++ e.writtenIn sparing strengthOfTest)
  | .gather _ kind es cs =>
    let results := writtenAll sparing strengthOfTest es
    let inner := (if kind == .dict then ": ".intercalate results else String.join results) ++
      String.join (writtenClauses sparing cs)
    match kind with
    | .list => "[" ++ inner ++ "]"
    | .generator => "(" ++ inner ++ ")"
    | .set | .dict => "\x7b" ++ inner ++ "\x7d"
  | .await _ e => within asked strengthOfAwait ("await " ++ e.writtenIn sparing strengthOfAtom)
  | .yield _ none => within asked strengthOfYield "yield"
  | .yield _ (some e) => within asked strengthOfYield ("yield " ++ e.writtenIn sparing strengthOfAtom)
  | .yieldFrom _ e => within asked strengthOfYield ("yield from " ++ e.writtenIn sparing strengthOfAtom)
  | .joined _ es =>
    let parts := writtenParts es
    "f" ++ (if sparing then quotedSparingly (String.join (parts.map Prod.fst)) else joinedText parts)
  | .field _ e c s => writtenField (e.writtenIn true strengthOfOr) c (writtenSpec s)
where
  /-- A replacement field from the texts of its expression and format. -/
  writtenField (e : String) (conversion : Option Char) (spec : String) : String :=
    "\x7b" ++ (if e.startsWith "\x7b" then " " else "") ++ e ++
      (match conversion with
        | some c => "!" ++ String.singleton c
        | none => "") ++ spec ++ "\x7d"

/-- Several expressions in places that ask for the same. -/
def writtenAll (sparing : Bool) (asked : Nat) : List Expr → List String
  | [] => []
  | e :: es => e.writtenIn sparing asked :: writtenAll sparing asked es

/-- Several expressions, each in a place that asks for more than the one before. -/
def writtenRising (sparing : Bool) (asked : Nat) : List Expr → List String
  | [] => []
  | e :: es =>
    let asked := min (asked + 1) strengthOfAtom
    e.writtenIn sparing asked :: writtenRising sparing asked es

/-- A part that may be left out, behind a text. -/
def writtenPart (sparing : Bool) (before : String) : Option Expr → String
  | none => ""
  | some e => before ++ e.writtenIn sparing strengthOfTest

/-- Several such parts. -/
def writtenOptional (sparing : Bool) : List (Option Expr) → List (Option String)
  | [] => []
  | none :: es => none :: writtenOptional sparing es
  | some e :: es => some (e.writtenIn sparing strengthOfTest) :: writtenOptional sparing es

/-- Entries of a mapping. -/
def writtenEntries (sparing : Bool) : List Entry → List String
  | [] => []
  | .item k v :: es =>
    (k.writtenIn sparing strengthOfTest ++ ": " ++ v.writtenIn sparing strengthOfTest) ::
      writtenEntries sparing es
  | .unpacked m :: es => ("**" ++ m.writtenIn sparing strengthOfBitOr) :: writtenEntries sparing es

/-- Arguments by name. -/
def writtenKeywords (sparing : Bool) : List Keyword → List String
  | [] => []
  | .given n v :: ks => (n ++ "=" ++ v.writtenIn sparing strengthOfTest) :: writtenKeywords sparing ks
  | .unpacked m :: ks => ("**" ++ m.writtenIn sparing strengthOfTest) :: writtenKeywords sparing ks

/-- Relations, each with what stands behind it. -/
def writtenRelations (sparing : Bool) : List Relation → List Expr → String
  | r :: rs, e :: es =>
    " " ++ relationText r ++ " " ++ e.writtenIn sparing (strengthOfRelation + 1) ++
      writtenRelations sparing rs es
  | _, _ => ""

/-- A clause of a comprehension. -/
def Clause.written (sparing : Bool) : Clause → String
  | .mk isAsync t s cs =>
    (if isAsync then " async for " else " for ") ++ t.writtenIn sparing strengthOfTuple ++ " in " ++
      s.writtenIn sparing strengthOfOr ++ String.join (writtenConditions sparing cs)

/-- Conditions of a clause. -/
def writtenConditions (sparing : Bool) : List Expr → List String
  | [] => []
  | e :: es => (" if " ++ e.writtenIn sparing strengthOfOr) :: writtenConditions sparing es

/-- Several clauses. -/
def writtenClauses (sparing : Bool) : List Clause → List String
  | [] => []
  | c :: cs => c.written sparing :: writtenClauses sparing cs

/-- The parts of a joined text, each with whether it is plain text. -/
def writtenParts : List Expr → List (String × Bool)
  | [] => []
  | .literal _ (.text s _) :: es => (doubleBraces s, true) :: writtenParts es
  | e :: es => (e.writtenIn true strengthOfTest, false) :: writtenParts es

/-- The format of a replacement field. -/
def writtenSpec : Option Expr → String
  | some (.joined _ es) => ":" ++ String.join ((writtenParts es).map Prod.fst)
  | _ => ""

end

namespace Expr

/-- An expression written out. -/
def written (e : Expr) : String := e.writtenIn false strengthOfTest

/-- Why an expression cannot be written out, if it cannot: an integer is too long, or a
replacement field cannot do without a backslash. -/
def writingFault? (e : Expr) : Option Fault :=
  e.walk.findSome? fun
    | .literal _ (.int n) => if intIsWritable n then none else some Fault.tooManyDigits
    | .field _ inner _ _ =>
      if (inner.writtenIn true strengthOfOr).contains '\\' then
        some (.valueError "Unable to avoid backslash in f-string expression part")
      else none
    | _ => none

end Expr

end Marginalia
