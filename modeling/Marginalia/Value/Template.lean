/-
Templates: texts or bytes with places for values.

A place starts with `%`; it can name a key of a mapping, and has flags, a width,
a precision and a letter that says how the value is written.  Values are taken
one after the other from a tuple, or from a mapping by key; any other value is
the only one.  A template of bytes is read as the text of the same codes; it
differs in the letters for texts and in what it can be filled from.
-/
import Marginalia.Decimal.Places
import Marginalia.Value.Items

namespace Marginalia

namespace Template

/-- What a template is made of and makes. -/
inductive Form where
  | text
  | bytes
deriving DecidableEq, Repr

/-- The flags of a place. -/
structure Flags where
  left : Bool := false
  plus : Bool := false
  blank : Bool := false
  alternate : Bool := false
  zero : Bool := false
  /-- A real number that is shown as zero has no sign. -/
  bareZero : Bool := false

/-- What is left to put into a template. -/
structure Supply where
  /-- The values not taken yet. -/
  pending : List Value
  /-- A mapping that keys are looked up in. -/
  mapping : Option Value

/-- A supply over whatever stands behind the template. -/
def Supply.ofValue (form : Form) (v : Value) : Supply :=
  match v.plain with
  | .tuple vs => ⟨vs, none⟩
  | .list .. | .dict .. | .type (.enumeration _) | .type (.generic ..) | .type (.union _) =>
    ⟨[v], some v⟩
  | .bytes _ | .bytearray .. =>
    match form with
    | .text => ⟨[v], some v⟩
    | .bytes => ⟨[v], none⟩
  | _ => ⟨[v], none⟩

/-- Takes the next value. -/
def Supply.next (s : Supply) : Except Fault (Value × Supply) :=
  match s.pending with
  | v :: vs => .ok (v, { s with pending := vs })
  | [] => .error (.typeError "not enough arguments for format string")

/-- Takes the flags in front. -/
def takeFlags (form : Form) (f : Flags) : List Char → Flags × List Char
  | '-' :: cs => takeFlags form { f with left := true } cs
  | '+' :: cs => takeFlags form { f with plus := true } cs
  | ' ' :: cs => takeFlags form { f with blank := true } cs
  | '#' :: cs => takeFlags form { f with alternate := true } cs
  | '0' :: cs => takeFlags form { f with zero := true } cs
  | 'z' :: cs =>
    match form with
    | .bytes => takeFlags form { f with bareZero := true } cs
    | .text => (f, 'z' :: cs)
  | cs => (f, cs)

/-- Takes the digits in front, as a number below a limit. -/
def takeDigits (limit : Nat) (refusal : String) (cs : List Char) :
    Except Fault (Nat × List Char) :=
  let n := (cs.takeWhile Char.isDigit).foldl
    (fun n c => if n < limit then n * 10 + (c.toNat - 48) else n) 0
  if n < limit then .ok (n, cs.dropWhile Char.isDigit) else .error (.valueError refusal)

/-- A key up to the closing bracket that belongs to it. -/
def takeKey (depth : Nat) : List Char → Option (List Char × List Char)
  | [] => none
  | ')' :: cs =>
    match depth with
    | 0 => some ([], cs)
    | d + 1 => (takeKey d cs).map fun (k, r) => (')' :: k, r)
  | c :: cs => (takeKey (if c == '(' then depth + 1 else depth) cs).map fun (k, r) => (c :: k, r)

/-- What limits a number in a place. -/
structure SizeLimit where
  /-- No number may reach it. -/
  limit : Nat
  /-- The refusal of too many digits. -/
  digits : String
  /-- The refusal of a number from the supply. -/
  supplied : String

/-- The limit of widths. -/
def widthLimit : SizeLimit :=
  ⟨Nat.pow 2 63, "width too big", "Python int too large to convert to C ssize_t"⟩

/-- The limit of precisions. -/
def precisionLimit (form : Form) : SizeLimit :=
  ⟨Nat.pow 2 31, (match form with
    | .text => "precision too big"
    | .bytes => "prec too big"), "Python int too large to convert to C int"⟩

/-- The number a value gives where a star stands. -/
def starred (l : SizeLimit) (v : Value) : Except Fault Int := do
  let n : Int ← match v.plain with
    | .int n => pure n
    | .bool b => pure (if b then 1 else 0)
    | _ => throw (.typeError "* wants int")
  if n ≥ l.limit ∨ n < -(l.limit : Int) then throw (.overflow l.supplied)
  return n

/-- A number of digits or a star, which takes the number from the supply. -/
def takeSize (l : SizeLimit) (cs : List Char) (s : Supply) :
    Except Fault (Int × List Char × Supply) :=
  match cs with
  | '*' :: rest => do
    let (v, s) ← s.next
    return (← starred l v, rest, s)
  | _ => do
    let (n, rest) ← takeDigits l.limit l.digits cs
    return (n, rest, s)

/-- The width beyond which nothing is made. -/
def roomLimit : Nat := Nat.pow 2 31

/-- Fills a text up to a width.  `sign` stays in front of zeros. -/
def pad (f : Flags) (numeric : Bool) (width : Nat) (sign body : String) : Except Fault String :=
  let room := width - (sign.length + body.length)
  let fill (c : Char) := String.ofList (List.replicate room c)
  if room > roomLimit then .error .memory
  else if f.left then .ok (sign ++ body ++ fill ' ')
  else if f.zero && numeric then .ok (sign ++ fill '0' ++ body)
  else .ok (fill ' ' ++ sign ++ body)

/-- The sign in front of a number. -/
def signOf (f : Flags) (negative : Bool) : String :=
  if negative then "-" else if f.plus then "+" else if f.blank then " " else ""

/-- The integer a value is written as by a letter for integers. -/
def integerFor (letter : Char) (v : Value) : Except Fault Int :=
  let based := letter == 'x' || letter == 'X' || letter == 'o'
  match v.plain with
  | .bool b => .ok (if b then 1 else 0)
  | .int n => .ok n
  | .float x _ =>
    if based then refuse based
    else if x.isNaN then .error (.valueError "cannot convert float NaN to integer")
    else if x.isInfinite then .error (.overflow "cannot convert float infinity to integer")
    else .ok x.truncate
  | _ => refuse based
where
  /-- The refusal of a value that is no such number. -/
  refuse (based : Bool) : Except Fault Int :=
    .error (.typeError ("%" ++ String.singleton letter ++ " format: " ++
      (if based then "an integer" else "a real number") ++ " is required, not " ++ v.className))

/-- The mark of the base of a letter. -/
def baseMark : Char → String
  | 'o' => "0o"
  | 'x' => "0x"
  | 'X' => "0X"
  | _ => ""

/-- An integer in the base of a letter, with at least so many digits. -/
def integerText (letter : Char) (least : Nat) (n : Nat) : Except Fault String :=
  let base := match letter with
    | 'o' => 8
    | 'x' | 'X' => 16
    | _ => 10
  let ds := Nat.toDigits base n
  let ds := if letter == 'X' then ds.map Char.toUpper else ds
  if least > Nat.pow 2 31 - 4 then .error (.overflow "precision too large")
  else .ok (String.ofList (List.replicate (least - ds.length) '0' ++ ds))

/-- The real number a value is written as. -/
def realFor (form : Form) (v : Value) : Except Fault Binary64 :=
  match v.quantity? with
  | some (.int n) => realOfInt n
  | some (.real x) => .ok x
  | _ => .error (.typeError (match form with
    | .text => "must be real number, not " ++ v.className
    | .bytes => "float argument required, not " ++ v.className))

/-- The number of places beyond which no real number is written. -/
def placesLimit : Nat := Nat.pow 10 8

/-- A magnitude in the form a letter asks for. -/
def realText (f : Flags) (letter : Char) (precision : Nat) (x : Binary64) : String :=
  let upper := letter.isUpper
  let mark := if upper then 'E' else 'e'
  if x.isNaN then (if upper then "NAN" else "nan")
  else if x.isInfinite then (if upper then "INF" else "inf")
  else match letter.toLower with
    | 'f' => Decimal.fixed x precision f.alternate
    | 'e' => Decimal.scientific x precision f.alternate mark
    | _ => Decimal.general x precision f.alternate mark

/-- Whether a magnitude is shown as zero. -/
def isShownZero (text : String) : Bool :=
  (text.toList.takeWhile fun c => c.toLower != 'e').all fun c => c == '0' || c == '.'

/-- The single character a value is written as in a text. -/
def characterFor (v : Value) : Except Fault Char :=
  match v.plain with
  | .str s => match s.toList with
    | [c] => .ok c
    | _ => .error (.typeError "%c requires int or char")
  | .int n => ofNumber n
  | .bool b => ofNumber (if b then 1 else 0)
  | _ => .error (.typeError "%c requires int or char")
where
  /-- The character with a code. -/
  ofNumber (n : Int) : Except Fault Char :=
    if 0 ≤ n ∧ n < 0x110000 then .ok (Char.ofNat n.toNat)
    else .error (.overflow "%c arg not in range(0x110000)")

/-- The single byte a value is written as among bytes. -/
def byteFor (v : Value) : Except Fault Char :=
  match v.plain with
  | .bytes [b] | .bytearray _ [b] => .ok (Char.ofNat b.toNat)
  | .int n => ofNumber n
  | .bool b => ofNumber (if b then 1 else 0)
  | _ => .error (.typeError "%c requires an integer in range(256) or a single byte")
where
  /-- The byte with a number. -/
  ofNumber (n : Int) : Except Fault Char :=
    if 0 ≤ n ∧ n < 256 then .ok (Char.ofNat n.toNat)
    else .error (.overflow "%c arg not in range(256)")

/-- The bytes a value is put among bytes as. -/
def bytesFor (v : Value) : Except Fault String :=
  match v.plain.bytes? with
  | some bs => .ok (String.ofList (bs.map fun b => Char.ofNat b.toNat))
  | none => .error (.typeError
      ("%b requires a bytes-like object, or an object that implements __bytes__, not '" ++
        v.className ++ "'"))

/-- A value written with nothing beyond the first 128 characters. -/
def asciiWritten (v : Value) : String :=
  String.ofList (v.written.toList.flatMap fun c => if c.val < 128 then [c] else codeEscape c.toNat)

/-- A value that is short enough to be written. -/
def writable (v : Value) : Except Fault Value :=
  if v.isWritable then .ok v else .error Fault.tooManyDigits

/-- A value written as a text by a letter, if it is a letter for that. -/
def textFor? (form : Form) (letter : Char) (v : Value) : Option (Except Fault String) :=
  match form, letter with
  | .text, 's' => some (do return (← writable v).shown)
  | .text, 'r' => some (do return (← writable v).written)
  | _, 'a' | .bytes, 'r' => some (do return asciiWritten (← writable v))
  | .bytes, 's' | .bytes, 'b' => some (bytesFor v)
  | _, _ => none

/-- The text for a value in a place. -/
def convert (form : Form) (f : Flags) (width : Nat) (precision : Option Nat) (letter : Char)
    (v : Value) : Except Fault String := do
  match textFor? form letter v with
  | some text =>
    let text ← text
    pad f false width "" (match precision with
      | some p => String.ofList (text.toList.take p)
      | none => text)
  | none =>
    match letter with
    | 'c' =>
      let c ← match form with
        | .text => characterFor v
        | .bytes => byteFor v
      pad f false width "" (String.singleton c)
    | 'd' | 'i' | 'u' | 'o' | 'x' | 'X' =>
      let n ← integerFor (if form = .bytes ∧ letter = 'i' then 'd' else letter) v
      if (letter == 'd' || letter == 'i' || letter == 'u') && !intIsWritable n then
        throw Fault.tooManyDigits
      let text ← integerText letter (precision.getD 0) n.natAbs
      let mark := if f.alternate then baseMark letter else ""
      pad f true width (signOf f (n < 0) ++ mark) text
    | _ =>
      let x ← realFor form v
      if precision.getD 0 > placesLimit then throw .memory
      let text := realText f letter (precision.getD 6) (x.withSign false)
      let negative := x.negative && !x.isNaN && !(f.bareZero && isShownZero text)
      pad f true width (signOf f negative) text

/-- The letters a place can end with. -/
def letters (form : Form) : List Char :=
  let both := ['s', 'r', 'a', 'c', 'd', 'i', 'u', 'o', 'x', 'X', 'e', 'E', 'f', 'F', 'g', 'G']
  match form with
  | .text => both
  | .bytes => 'b' :: both

/-- The refusal of a letter at some index. -/
def badLetter (form : Form) (c : Char) (index : Nat) : Fault :=
  let shown := if form = .bytes ∨ (31 ≤ c.toNat ∧ c.toNat < 127) then c else '?'
  if form = .bytes ∧ c.toNat ≥ 128 then
    .overflow "character argument not in range(0x110000)"
  else
    .valueError ("unsupported format character '" ++ String.singleton shown ++ "' (0x" ++
      String.ofList (Nat.toDigits 16 c.toNat) ++ ") at index " ++ toString index)

/-- The key a text in brackets stands for. -/
def keyValue (form : Form) (key : List Char) : Value :=
  match form with
  | .text => .str (String.ofList key)
  | .bytes => .bytes (key.map fun c => UInt8.ofNat c.toNat)

/-- Takes the key in front, if there is one: what is under it is the next value. -/
def takeKeyed (form : Form) (cs : List Char) (s : Supply) : Except Fault (List Char × Supply) :=
  match cs with
  | '(' :: rest =>
    match s.mapping with
    | none => throw (.typeError "format requires a mapping")
    | some m =>
      match takeKey 0 rest with
      | none => throw (.valueError "incomplete format key")
      | some (key, rest) => do
        return (rest, { s with pending := [← m.subscript (keyValue form key)] })
  | cs => return (cs, s)

/-- Takes the precision in front, if there is one. -/
def takePrecision (form : Form) (cs : List Char) (s : Supply) :
    Except Fault (Option Nat × List Char × Supply) :=
  match cs with
  | '.' :: rest => do
    let (p, rest, s) ← takeSize (precisionLimit form) rest s
    return (some p.toNat, rest, s)
  | cs => return (none, cs, s)

/-- Drops the letter in front that says how long a number is. -/
def dropLength : List Char → List Char
  | 'h' :: rest | 'l' :: rest | 'L' :: rest => rest
  | cs => cs

/-- Writes the next value as the letter in front says. -/
def convertNext (form : Form) (total : Nat) (f : Flags) (width : Nat) (precision : Option Nat)
    (cs : List Char) (s : Supply) : Except Fault (String × List Char × Supply) :=
  match cs with
  | [] => throw (.valueError "incomplete format")
  | c :: rest => do
    let (v, s) ← s.next
    if !(letters form).contains c then throw (badLetter form c (total - rest.length - 1))
    return (← convert form f width precision c v, rest, s)

/-- Fills one place.  `total` is the length of the whole template. -/
def fillPlace (form : Form) (total : Nat) (cs : List Char) (s : Supply) :
    Except Fault (String × List Char × Supply) := do
  let (cs, s) ← takeKeyed form cs s
  let (f, cs) := takeFlags form {} cs
  let (w, cs, s) ← takeSize widthLimit cs s
  let f := if w < 0 then { f with left := true } else f
  let (precision, cs, s) ← takePrecision form cs s
  convertNext form total f w.natAbs precision (dropLength cs) s

/-- Fills the places of a template from the left; `fuel` bounds the number of steps,
each of which takes a character.  Two signs of a place stand for one that is none. -/
def fillFrom (form : Form) (total : Nat) :
    Nat → List Char → Supply → Except Fault (List Char × Supply)
  | 0, _, s => .ok ([], s)
  | _ + 1, [], s => .ok ([], s)
  | fuel + 1, '%' :: '%' :: cs, s => do
    let (rest, s) ← fillFrom form total fuel cs s
    return ('%' :: rest, s)
  | fuel + 1, '%' :: cs, s => do
    let (text, cs, s) ← fillPlace form total cs s
    let (rest, s) ← fillFrom form total fuel cs s
    return (text.toList ++ rest, s)
  | fuel + 1, c :: cs, s => do
    let (rest, s) ← fillFrom form total fuel cs s
    return (c :: rest, s)

/-- Fills a template with what stands behind it; nothing may be left over. -/
def fillChars (form : Form) (cs : List Char) (v : Value) : Except Fault (List Char) := do
  let (out, s) ← fillFrom form cs.length cs.length cs (Supply.ofValue form v)
  if !s.pending.isEmpty && s.mapping.isNone then
    throw (.typeError (match form with
      | .text => "not all arguments converted during string formatting"
      | .bytes => "not all arguments converted during bytes formatting"))
  return out

/-- Fills a template that is a text. -/
def fill (template : String) (v : Value) : Except Fault String := do
  return String.ofList (← fillChars .text template.toList v)

/-- Fills a template that is made of bytes. -/
def fillBytes (template : List UInt8) (v : Value) : Except Fault (List UInt8) := do
  let out ← fillChars .bytes (template.map fun b => Char.ofNat b.toNat) v
  return out.map fun c => UInt8.ofNat c.toNat

end Template

end Marginalia
