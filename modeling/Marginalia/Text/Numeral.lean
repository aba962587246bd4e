/-
Reading numbers from texts.

Digits of every script count, blanks around a number are left out, and a single
underscore may stand between two digits.
-/
import Marginalia.Decimal.Binary64
import Marginalia.Text.Digits

namespace Marginalia

namespace Numeral

/-- Whether a character may stand around a number: of the first 128 characters fewer
count than elsewhere. -/
def isMargin (c : Char) : Bool :=
  if c.toNat < 128 then c == ' ' || ('\t' ≤ c && c ≤ '\r') else isBlank c

/-- A text without blanks at its ends. -/
def stripBlank (cs : List Char) : List Char :=
  ((cs.dropWhile isMargin).reverse.dropWhile isMargin).reverse

/-- A character with digits of other scripts replaced by ours. -/
def plainDigit (c : Char) : Char :=
  match digitValue? c with
  | some d => Char.ofNat (48 + d)
  | none => c

/-- The value of a letter or digit as a digit. -/
def digitIn? (base : Nat) (c : Char) : Option Nat :=
  let v : Option Nat :=
    if c.isDigit then some (c.toNat - 48)
    else if 'a' ≤ c ∧ c ≤ 'z' then some (c.toNat - 87)
    else if 'A' ≤ c ∧ c ≤ 'Z' then some (c.toNat - 55)
    else none
  v.bind fun d => if d < base then some d else none

/-- Digits with single underscores between them; there must be one at least. -/
def digitsIn? (base : Nat) : List Char → Option (List Nat)
  | [] => none
  | c :: cs => do
    let d ← digitIn? base c
    match cs with
    | [] => return [d]
    | '_' :: rest => return d :: (← digitsIn? base rest)
    | rest => return d :: (← digitsIn? base rest)

/-- The number that digits stand for. -/
def ofDigits (base : Nat) (ds : List Nat) : Nat := ds.foldl (fun n d => n * base + d) 0

/-- The base that a prefix of two characters stands for. -/
def prefixBase? : List Char → Option (Nat × List Char)
  | '0' :: 'x' :: cs | '0' :: 'X' :: cs => some (16, cs)
  | '0' :: 'o' :: cs | '0' :: 'O' :: cs => some (8, cs)
  | '0' :: 'b' :: cs | '0' :: 'B' :: cs => some (2, cs)
  | _ => none

/-- Takes a sign in front. -/
def takeSign : List Char → Bool × List Char
  | '-' :: cs => (true, cs)
  | '+' :: cs => (false, cs)
  | cs => (false, cs)

/-- An integer read in a base, as a sign, its base and its digits.  Base zero takes
the base from the prefix, and then a number in base ten cannot start with a zero
unless it is zero. -/
def readInt? (base : Nat) (text : List Char) : Option (Bool × Nat × List Nat) := do
  let (neg, cs) := takeSign ((stripBlank text).map plainDigit)
  let afterPrefix (cs : List Char) : List Char := match cs with
    | '_' :: rest => rest
    | cs => cs
  match prefixBase? cs with
  | some (b, rest) =>
    if base = 0 ∨ base = b then return (neg, b, ← digitsIn? b (afterPrefix rest))
    else return (neg, base, ← digitsIn? base cs)
  | none =>
    if base = 0 then
      let ds ← digitsIn? 10 cs
      if ds.head? = some 0 ∧ ds.any (· ≠ 0) then none else return (neg, 10, ds)
    else return (neg, base, ← digitsIn? base cs)

/-- The number nearest to `± m · 10 ^ e`. -/
def decimalReal (neg : Bool) (m : Nat) (e : Int) : Binary64 :=
  let size : Int := e + (Nat.toDigits 10 m).length
  if m = 0 then Binary64.zero neg
  else if size > 320 then Binary64.infinity neg
  else if size < -340 then Binary64.zero neg
  else if e ≥ 0 then Binary64.ofRatio neg (m * Nat.pow 10 e.toNat) 1
  else Binary64.ofRatio neg m (Nat.pow 10 (-e).toNat)

/-- Takes digits in front, without underscores. -/
def takeDigits (cs : List Char) : List Nat × List Char :=
  ((cs.takeWhile Char.isDigit).map fun c => c.toNat - 48, cs.dropWhile Char.isDigit)

/-- Takes an exponent in front, if a whole one is there. -/
def takeExponent (cs : List Char) : Int × List Char :=
  match cs with
  | [] => (0, [])
  | c :: rest =>
    if c == 'e' || c == 'E' then
      let (neg, digits) := takeSign rest
      let (ds, rest') := takeDigits digits
      if ds.isEmpty then (0, cs)
      else (if neg then -(ofDigits 10 ds : Int) else ofDigits 10 ds, rest')
    else (0, cs)

/-- Whether a text starts with a word in small letters, whatever the case. -/
def startsWithWord (word : List Char) (cs : List Char) : Bool :=
  word.isPrefixOf (cs.map Char.toLower)

/-- Takes a real number in front, without blanks or underscores. -/
def takeReal? (text : List Char) : Option (Binary64 × List Char) :=
  let (neg, cs) := takeSign text
  if startsWithWord "infinity".toList cs then some (Binary64.infinity neg, cs.drop 8)
  else if startsWithWord "inf".toList cs then some (Binary64.infinity neg, cs.drop 3)
  else if startsWithWord "nan".toList cs then some (Binary64.nan.withSign neg, cs.drop 3)
  else
    let (whole, rest) := takeDigits cs
    let (fraction, rest) := match rest with
      | '.' :: more => takeDigits more
      | rest => ([], rest)
    if whole.isEmpty && fraction.isEmpty then none
    else
      let ds := whole ++ fraction
      let (e, rest) := takeExponent rest
      some (decimalReal neg (ofDigits 10 ds) (e - fraction.length), rest)

/-- Leaves out underscores, each of which must stand between two digits. -/
def withoutUnderscores? (before : Bool) : List Char → Option (List Char)
  | [] => some []
  | '_' :: c :: cs =>
    if before && c.isDigit then (withoutUnderscores? true cs).map (c :: ·) else none
  | '_' :: [] => none
  | c :: cs => (withoutUnderscores? c.isDigit cs).map (c :: ·)

/-- Whether a text has an underscore that does not stand between two digits, or has one and
NUL as well.  Nothing counts from the first character on that belongs in no number in any script. -/
def misplacesUnderscore (text : List Char) : Bool :=
  let seen := (text.map plainDigit).takeWhile fun c => c.toNat < 128 || isBlank c
  let front := seen.takeWhile (·.toNat ≠ 0)
  front.contains '_' && (front.length < seen.length || (withoutUnderscores? false front).isNone)

/-- A real number that is the whole of a text. -/
def readReal? (text : List Char) : Option Binary64 := do
  let cs ← withoutUnderscores? false ((stripBlank text).map plainDigit)
  let (x, rest) ← takeReal? cs
  if rest.isEmpty then some x else none

/-- A complex number that is the whole of a text, possibly in brackets: a real part,
an imaginary part, or both with a sign between. -/
def readComplex? (text : List Char) : Option (Binary64 × Binary64) := do
  let cs ← withoutUnderscores? false ((stripBlank text).map plainDigit)
  let cs ← match cs with
    | '(' :: rest =>
      let rest := stripBlank rest
      if rest.getLast? = some ')' then some (stripBlank rest.dropLast) else none
    | cs => some cs
  let zero := Binary64.zero false
  let isUnit (c : Char) : Bool := c == 'j' || c == 'J'
  let unit (neg : Bool) : Binary64 := Binary64.ofRatio neg 1 1
  match takeReal? cs with
  | some (x, []) => some (x, zero)
  | some (x, c :: rest) =>
    if isUnit c then if rest.isEmpty then some (zero, x) else none
    else if c == '+' || c == '-' then
      match takeReal? (c :: rest) with
      | some (y, [d]) => if isUnit d then some (x, y) else none
      | some _ => none
      | none => match rest with
        | [d] => if isUnit d then some (x, unit (c == '-')) else none
        | _ => none
    else none
  | none =>
    let (neg, rest) := takeSign cs
    match rest with
    | [d] => if isUnit d then some (zero, unit neg) else none
    | _ => none

end Numeral

end Marginalia
