/-
Numbers as they are written in source texts.

Digits can be set apart by single underscores; `0x`, `0o` and `0b` choose another
base; a point or an exponent makes a real number, a final `j` an imaginary one.
-/
import Marginalia.Source.Token
import Marginalia.Text.Numeral
import Marginalia.Value.Text

namespace Marginalia

namespace SourceNumber

/-- Takes digits in front, which single underscores may set apart; nothing when an
underscore has no digit behind it. -/
def takeDigits? (isDigit : Char → Bool) : List Char → Option (List Char × List Char)
  | '_' :: c :: cs =>
    if isDigit c then (takeDigits? isDigit cs).map fun (ds, rest) => (c :: ds, rest) else none
  | ['_'] => none
  | c :: cs =>
    if isDigit c then (takeDigits? isDigit cs).map fun (ds, rest) => (c :: ds, rest)
    else some ([], c :: cs)
  | [] => some ([], [])

/-- Whether a character could go on with a name. -/
def joinsName (c : Char) : Bool :=
  c.isAlphanum || c == '_' || c.toNat ≥ 128

/-- Whether a number can end here: before a word that can follow a number, or before
what is no letter of the Latin alphabet. -/
def canEndBefore (rest : List Char) : Bool :=
  let isPart (cs : List Char) : Bool := cs.head?.any joinsName
  ["if", "in", "is"].any (fun w => w.toList.isPrefixOf rest) ||
    ["and", "else", "for", "or", "not"].any (fun w =>
      w.toList.isPrefixOf rest && !isPart (rest.drop w.length)) ||
    !(rest.head?.any fun c => joinsName c && c.toNat < 128)

/-- The integer that digits stand for, unless they are too many. -/
def integer? (base : Nat) (ds : List Char) : Option Literal :=
  if base = 10 ∧ ds.length > digitLimit then none
  else some (.int (Numeral.ofDigits base (ds.map hexDigit)))

/-- The real number that digits with a point or an exponent stand for. -/
def real (cs : List Char) : Binary64 := (Numeral.readReal? cs).getD (Binary64.zero false)

/-- Takes the digits of a base behind its prefix. -/
private def takeBase? (base : Nat) (cs : List Char) : Option (Option Literal × List Char) := do
  let isDigit (c : Char) : Bool :=
    if base = 16 then c.isDigit || ('a' ≤ c ∧ c ≤ 'f') || ('A' ≤ c ∧ c ≤ 'F')
    else '0' ≤ c ∧ c.toNat < 48 + base
  let (ds, rest) ← takeDigits? isDigit cs
  if ds.isEmpty || rest.head?.any Char.isDigit || !canEndBefore rest then none
  else some (integer? base ds, rest)

/-- Takes the exponent of a number, if there is one. -/
private def takeExponent? : List Char → Option (List Char × List Char)
  | [] => some ([], [])
  | e :: rest =>
    if e != 'e' && e != 'E' then some ([], e :: rest)
    else match rest with
      | sign :: c :: more =>
        if sign == '+' || sign == '-' then
          if c.isDigit then (takeDigits? Char.isDigit (c :: more)).map fun (ds, r) => (e :: sign :: ds, r)
          else none
        else if sign.isDigit then (takeDigits? Char.isDigit rest).map fun (ds, r) => (e :: ds, r)
        else some ([], e :: rest)
      | [c] =>
        if c.isDigit then some ([e, c], [])
        else if c == '+' || c == '-' then none
        else some ([], e :: rest)
      | [] => some ([], [e])

/-- Takes a number in base ten. -/
private def takeDecimal? (cs : List Char) : Option (Option Literal × List Char) := do
  let (whole, rest) ← takeDigits? Char.isDigit cs
  let (point, rest) ← match rest with
    | '.' :: c :: more =>
      if c.isDigit then (takeDigits? Char.isDigit (c :: more)).map fun (ds, r) => ('.' :: ds, r)
      else some (['.'], c :: more)
    | ['.'] => some (['.'], [])
    | rest => some ([], rest)
  let (exponent, rest) ← takeExponent? rest
  let text := whole ++ point ++ exponent
  match rest with
  | 'j' :: more | 'J' :: more =>
    if canEndBefore more then some (some (.imaginary (real text)), more) else none
  | rest =>
    if !canEndBefore rest then none
    else if !point.isEmpty || !exponent.isEmpty then some (some (.real (real text)), rest)
    else if whole.head? == some '0' && whole.any (· != '0') then none
    else some (integer? 10 whole, rest)

/-- Takes a number in front of a text that starts with a digit, or with a point and a
digit.  The literal is missing when it has too many digits; there is no answer when
the number is malformed. -/
def take? (cs : List Char) : Option (Option Literal × List Char) :=
  match cs with
  | '0' :: 'x' :: rest | '0' :: 'X' :: rest => takeBase? 16 rest
  | '0' :: 'o' :: rest | '0' :: 'O' :: rest => takeBase? 8 rest
  | '0' :: 'b' :: rest | '0' :: 'B' :: rest => takeBase? 2 rest
  | cs => takeDecimal? cs

end SourceNumber

end Marginalia
