/-
Quoted texts in source texts.

Letters before the quote say whether backslashes stand for themselves, whether the
text is made of bytes, and whether it has replacement fields in braces.  `pieces?`
cuts a text with replacement fields into texts and fields; the expressions of the
fields are left as they are written, with their places.
-/
import Marginalia.Source.Scan
import Marginalia.Text.CharName

namespace Marginalia

/-- A quoted text, taken apart. -/
structure QuotedText where
  isRaw : Bool
  isBytes : Bool
  hasFields : Bool
  /-- A `u` stands before the quote. -/
  isLettered : Bool
  /-- How many characters stand before the inside. -/
  opening : Nat
  inside : List Char

namespace QuotedText

/-- Takes the letters and quotes off. -/
def ofChars (cs : List Char) : QuotedText :=
  let isQuote (c : Char) : Bool := c == '\'' || c == '"'
  let letters := (cs.takeWhile (!isQuote ·)).map Char.toLower
  let body := cs.dropWhile (!isQuote ·)
  let size := match body with
    | q :: r :: s :: _ :: _ => if q == r && r == s then 3 else 1
    | _ => 1
  { isRaw := letters.contains 'r'
    isBytes := letters.contains 'b'
    hasFields := letters.contains 'f'
    isLettered := letters.contains 'u'
    opening := letters.length + size
    inside := ((body.drop size).reverse.drop size).reverse }

/-- The characters that a backslash and one letter stand for. -/
def letterEscapes : List (Char × Char) := [('\\', '\\'), ('\'', '\''), ('"', '"'),
  ('a', '\x07'), ('b', '\x08'), ('f', '\x0c'), ('n', '\n'), ('r', '\r'), ('t', '\t'), ('v', '\x0b')]

/-- Whether a character is a digit in base sixteen. -/
def isHexDigit (c : Char) : Bool :=
  c.isDigit || ('a' ≤ c ∧ c ≤ 'f') || ('A' ≤ c ∧ c ≤ 'F')

/-- Whether a character is a digit in base eight. -/
def isOctalDigit (c : Char) : Bool := '0' ≤ c ∧ c ≤ '7'

/-- Takes so many digits in base sixteen, which must be there. -/
def takeCode? (width : Nat) (cs : List Char) : Option (Nat × List Char) :=
  let ds := cs.take width
  if ds.length = width && ds.all isHexDigit then some (hexValue ds, cs.drop width) else none

/-- Takes up to three digits in base eight. -/
def takeOctal (cs : List Char) : Nat × List Char :=
  let ds := (cs.take 3).takeWhile isOctalDigit
  (Numeral.ofDigits 8 (ds.map hexDigit), cs.drop ds.length)

/-- The character with some number; a half of a pair stands for none. -/
def charOf (n : Nat) : Char := if n.isValidChar then Char.ofNat n else Char.ofNat 0xfffd

/-- What one backslash sequence of a text stands for, and what comes behind it.  The
backslash has been taken. -/
def textEscape? (cs : List Char) : Option (List Char × List Char) :=
  match cs with
  | [] => some (['\\'], [])
  | '\n' :: rest => some ([], rest)
  | 'x' :: rest => (takeCode? 2 rest).map fun (n, r) => ([charOf n], r)
  | 'u' :: rest => (takeCode? 4 rest).map fun (n, r) => ([charOf n], r)
  | 'U' :: rest => match takeCode? 8 rest with
    | some (n, r) => if n < 0x110000 then some ([charOf n], r) else none
    | none => none
  | 'N' :: '\x7b' :: rest =>
    let name := rest.takeWhile (· != '\x7d')
    match rest.drop name.length with
    | _ :: r =>
      if name.isEmpty then none
      else (charNamed? (String.ofList name)).map fun c => ([c], r)
    | [] => none
  | 'N' :: _ => none
  | c :: rest =>
    if isOctalDigit c then
      let (n, r) := takeOctal cs
      some ([charOf n], r)
    else match letterEscapes.lookup c with
      | some d => some ([d], rest)
      | none => some (['\\', c], rest)

/-- What one backslash sequence of bytes stands for, and what comes behind it. -/
def bytesEscape? (cs : List Char) : Option (List Char × List Char) :=
  match cs with
  | [] => some (['\\'], [])
  | '\n' :: rest => some ([], rest)
  | 'x' :: rest => (takeCode? 2 rest).map fun (n, r) => ([Char.ofNat n], r)
  | c :: rest =>
    if isOctalDigit c then
      let (n, r) := takeOctal cs
      some ([Char.ofNat (n % 256)], r)
    else match letterEscapes.lookup c with
      | some d => some ([d], rest)
      | none => some (['\\', c], rest)

/-- Replaces backslash sequences; `fuel` bounds the number of steps. -/
def unescape? (escape : List Char → Option (List Char × List Char)) :
    Nat → List Char → Option (List Char)
  | 0, cs => some cs
  | fuel + 1, cs =>
    match cs with
    | [] => some []
    | '\\' :: rest => do
      let (made, rest) ← escape rest
      return made ++ (← unescape? escape fuel rest)
    | c :: rest => (unescape? escape fuel rest).map (c :: ·)

/-- The text that characters between quotes stand for. -/
def decode? (isRaw : Bool) (cs : List Char) : Option (List Char) :=
  if isRaw || !cs.contains '\\' then some cs else unescape? textEscape? cs.length cs

/-- The bytes that characters between quotes stand for. -/
def decodeBytes? (isRaw : Bool) (cs : List Char) : Option (List UInt8) :=
  if cs.any fun c => c.toNat ≥ 128 then none
  else ((if isRaw then some cs else unescape? bytesEscape? cs.length cs)).map fun cs =>
    cs.map fun c => UInt8.ofNat c.toNat

/-- A part of a text with replacement fields. -/
inductive Piece where
  | text (cs : List Char)
  /-- A field: the place of its brace, the expression, the text shown before its value
  if it is, the conversion and the format. -/
  | field (p : Place) (expression : List Char) (shown : Option (List Char))
      (conversion : Option Char) (spec : Option (List Piece))

/-- Takes text up to a brace.  Doubled braces stand for one, except inside a format;
the answer says whether it ended at such a pair. -/
def takeText? (isRaw nested : Bool) : List Char → Option (List Char × List Char × Bool)
  | [] => some ([], [], false)
  | '\\' :: c :: cs =>
    if isRaw || c == '\x7b' || c == '\x7d' then
      (takeText? isRaw nested (c :: cs)).map fun (t, r, d) => ('\\' :: t, r, d)
    else if c == 'N' && cs.head? == some '\x7b' then
      (takeName? isRaw nested cs).map fun (t, r, d) => ('\\' :: c :: t, r, d)
    else (takeText? isRaw nested cs).map fun (t, r, d) => ('\\' :: c :: t, r, d)
  | c :: cs =>
    if c == '\x7b' || c == '\x7d' then
      if !nested && cs.head? == some c then some ([c], cs.drop 1, true)
      else if !nested && c == '\x7d' then none
      else some ([], c :: cs, false)
    else (takeText? isRaw nested cs).map fun (t, r, d) => (c :: t, r, d)
where
  /-- Passes over the name of a character in braces. -/
  takeName? (isRaw nested : Bool) : List Char → Option (List Char × List Char × Bool)
    | [] => some ([], [], false)
    | c :: cs =>
      if c == '\x7d' then (takeText? isRaw nested cs).map fun (t, r, d) => (c :: t, r, d)
      else (takeName? isRaw nested cs).map fun (t, r, d) => (c :: t, r, d)

/-- Takes the expression of a field, up to the sign that ends it.  `quote` is the quote
of the text the scan is in, with its length, and `stack` holds the open brackets. -/
def takeExpression? (quote : Option (Char × Bool)) (stack : List Char) :
    List Char → Option (List Char × List Char)
  | [] => none
  | c :: cs =>
    let go (quote : Option (Char × Bool)) (stack : List Char) : Option (List Char × List Char) :=
      (takeExpression? quote stack cs).map fun (t, r) => (c :: t, r)
    if c == '\\' then none
    else match quote with
    | some (q, true) =>
      match cs with
      | d :: e :: more =>
        if c == q && d == q && e == q then
          (takeExpression? none stack more).map fun (t, r) => (c :: d :: e :: t, r)
        else go quote stack
      | _ => none
    | some (q, false) => if c == q then go none stack else go quote stack
    | none =>
      if c == '\'' || c == '"' then
        match cs with
        | d :: e :: more =>
          if c == d && d == e then
            (takeExpression? (some (c, true)) stack more).map fun (t, r) => (c :: d :: e :: t, r)
          else go (some (c, false)) stack
        | _ => go (some (c, false)) stack
      else if (Scan.closing? c).isSome then
        if stack.length ≥ Scan.bracketLimit then none else go none (c :: stack)
      else if c == '#' then none
      else match stack with
        | [] =>
          if c == '!' || c == ':' || c == '\x7d' || c == '=' || c == '>' || c == '<' then
            match cs with
            | d :: more =>
              if d == '=' && (c == '!' || c == '=' || c == '<' || c == '>') then
                (takeExpression? none [] more).map fun (t, r) => (c :: d :: t, r)
              else if c == '>' || c == '<' then go none []
              else some ([], c :: cs)
            | [] => if c == '>' || c == '<' then none else some ([], c :: cs)
          else if c == ']' || c == ')' then none
          else go none []
        | b :: more =>
          if c == ']' || c == ')' || c == '\x7d' then
            if Scan.closing? b == some c then go none more else none
          else go none stack

/-- The place behind what was taken from some characters. -/
def placeBehind (p : Place) (before after : List Char) : Place :=
  let (line, column) := Scan.advance p.line p.column (before.take (before.length - after.length))
  ⟨line, column⟩

/-- Takes a conversion behind an exclamation mark. -/
def takeConversion? : List Char → Option (Option Char × List Char)
  | '!' :: c :: rest => if ['s', 'r', 'a'].contains c then some (some c, rest) else none
  | cs => some (none, cs)

/-- Whether a character is a blank in a field. -/
def isFieldBlank (c : Char) : Bool := [' ', '\t', '\n', '\x0c'].contains c

/-- Takes the pieces of a text, up to its end or, inside a format, up to a closing
brace.  If that is not reached, the pieces before the mistake are all there is.  `level`
says how many formats may still be nested. -/
def takePieces (isRaw nested : Bool) :
    Nat → Nat → Place → List Char → List Piece × Option (Place × List Char)
  | 0, _, _, _ => ([], none)
  | fuel + 1, level, p, cs =>
    let taken := do
      let (literal, rest, doubled) ← takeText? isRaw nested cs
      return (← decode? isRaw literal, rest, doubled)
    match taken with
    | none => ([], none)
    | some (text, rest, doubled) =>
      let here := placeBehind p cs rest
      let first := if text.isEmpty then [] else [Piece.text text]
      if doubled then
        let (more, behind) := takePieces isRaw nested fuel level here rest
        (first ++ more, behind)
      else match rest, level with
        | [], _ => (first, some (here, []))
        | '\x7b' :: _, 0 => (first, none)
        | '\x7b' :: source, deeper + 1 =>
          match takeExpression? none [] source with
          | none => (first, none)
          | some (expression, after) =>
            if expression.all isFieldBlank then (first, none)
            else
              let (shown, after) := match after with
                | '=' :: more =>
                  let blanks := more.takeWhile fun c => isFieldBlank c || c == '\x0b' || c == '\r'
                  (some (expression ++ '=' :: blanks), more.drop blanks.length)
                | _ => (none, after)
              match takeConversion? after with
              | none => (first ++ [.field here expression shown none none], none)
              | some (conversion, after) =>
                let (spec, after) := match after with
                  | ':' :: more =>
                    let (pieces, behind) :=
                      takePieces isRaw true fuel deeper (placeBehind p cs more) more
                    (some pieces, behind.map Prod.snd)
                  | _ => (none, some after)
                let conversion :=
                  if shown.isSome && spec.isNone && conversion.isNone then some 'r'
                  else conversion
                let first := first ++ [.field here expression shown conversion spec]
                match after with
                | some ('\x7d' :: after) =>
                  let (more, behind) :=
                    takePieces isRaw nested fuel level (placeBehind p cs after) after
                  (first ++ more, behind)
                | _ => (first, none)
        | _, _ => (first, if nested then some (here, rest) else none)

/-- The pieces of a text with replacement fields that starts at a place, up to the first
mistake, and whether they are all of it. -/
def pieces (t : QuotedText) (start : Place) (all : List Char) : List Piece × Bool :=
  let (line, column) := Scan.advance start.line start.column (all.take t.opening)
  let (pieces, behind) := takePieces t.isRaw false (t.inside.length + 1) 2 ⟨line, column⟩ t.inside
  (pieces, behind.any fun (_, rest) => rest.isEmpty)

/-- Whether a text without fields stands for anything. -/
def canDecode (t : QuotedText) : Bool :=
  if t.isBytes then (decodeBytes? t.isRaw t.inside).isSome
  else (decode? t.isRaw t.inside).isSome

end QuotedText

end Marginalia
