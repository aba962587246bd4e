/-
Encodings of Japanese texts.

The rows of the sets are shifted two to a first byte, or named by bytes of the upper half; the
extended set comes in two editions.
-/
import Marginalia.Text.Charset.Jis0208
import Marginalia.Text.Charset.Jis0212
import Marginalia.Text.Charset.Jis0213
import Marginalia.Text.Charset.Windows932
import Marginalia.Text.Codec.Multibyte

namespace Marginalia

namespace Japanese

/-- The narrow letter with a byte of the upper half. -/
def narrow? (b : Nat) : Option Char :=
  if 0xa1 ≤ b ∧ b ≤ 0xdf then some (Char.ofNat (0xfec0 + b)) else none

/-- The byte of a narrow letter. -/
def narrowByte? (c : Char) : Option Nat :=
  if 0xff61 ≤ c.toNat ∧ c.toNat ≤ 0xff9f then some (c.toNat - 0xfec0) else none

/-- The signs that take the places of the backslash and the tilde. -/
def romanSigns : List (Char × Nat) := [('¥', 0x5c), ('‾', 0x7e)]

/-- The place that two bytes name, two rows to a first byte. -/
def shiftedPlace (a b : Nat) : Grid.Place :=
  let lead := if a < 0xa0 then a - 0x81 else a - 0xc1
  if b < 0x40 ∨ b = 0x7f ∨ 0xfc < b then (0, 0)
  else
    let i := if b < 0x7f then b - 0x40 else b - 0x41
    (2 * lead + i / 94 + 1, i % 94 + 1)

/-- The two bytes that name a place. -/
def shiftedBytes (p : Grid.Place) : Nat × Nat :=
  let lead := (p.1 - 1) / 2
  let i := (p.1 - 1) % 2 * 94 + (p.2 - 1)
  (if lead < 0x1f then lead + 0x81 else lead + 0xc1, if i < 63 then i + 0x40 else i + 0x41)

/-- The basic set and narrow letters, shifted. -/
def shifted : Multibyte where
  label := "shift_jis"
  size? b _ :=
    if b < 0x80 ∨ (narrow? b).isSome then some 1
    else if (0x81 ≤ b ∧ b ≤ 0x9f) ∨ (0xe0 ≤ b ∧ b ≤ 0xea) then some 2
    else none
  read
    | [b] => some [(narrow? b).getD (Char.ofNat b)]
    | [a, b] => (Charset.jis0208.char? (shiftedPlace a b)).map ([·])
    | _ => none
  write c _ :=
    if c.toNat < 0x80 then some ([c.toNat], false)
    else match (romanSigns.lookup c).or (narrowByte? c) with
      | some b => some ([b], false)
      | none => (Charset.jis0208.place? c).map fun p =>
        ([(shiftedBytes p).1, (shiftedBytes p).2], false)

/-- Places that the code page 932 gives to other characters than the basic set. -/
def page932Changed : List (Grid.Place × Char) :=
  [((1, 33), '\uff5e'), ((1, 34), '\u2225'), ((1, 61), '\uff0d'), ((1, 81), '\uffe0'),
    ((1, 82), '\uffe1'), ((2, 44), '\uffe2')]

/-- Single bytes of the code page 932 that stand for characters for private use. -/
def page932Singles : List (Nat × Char) :=
  [(0xa0, '\uf8f0'), (0xfd, '\uf8f1'), (0xfe, '\uf8f2'), (0xff, '\uf8f3')]

/-- The first of twenty rows for users. -/
def page932UserRow : Nat := 95

/-- The code point of the first character in them. -/
def page932User : Nat := 0xe000

/-- A character of the rows of users. -/
def page932UserChar? (p : Grid.Place) : Option Char :=
  if page932UserRow ≤ p.1 ∧ p.1 < page932UserRow + 20 then
    some (Char.ofNat (page932User + (p.1 - page932UserRow) * 94 + (p.2 - 1)))
  else none

/-- The place of a character in the rows of users. -/
def page932UserPlace? (c : Char) : Option Grid.Place :=
  if page932User ≤ c.toNat ∧ c.toNat < page932User + 20 * 94 then
    let n := c.toNat - page932User
    some (page932UserRow + n / 94, n % 94 + 1)
  else none

/-- A character of the code page 932 by its place. -/
def page932Char? (p : Grid.Place) : Option Char :=
  (page932Changed.lookup p).or <|
    (Charset.jis0208.char? p).or <|
    (Charset.windows932.char? p).or (page932UserChar? p)

/-- The place of a character of the code page 932. -/
def page932Place? (c : Char) : Option Grid.Place :=
  ((page932Changed.find? fun e => e.2 == c).map Prod.fst).or <|
    (Charset.jis0208.place? c).or <|
    (Charset.windows932.place? c).or (page932UserPlace? c)

/-- The form of one vendor. -/
def page932 : Multibyte where
  label := "cp932"
  size? b _ :=
    if b ≤ 0x80 ∨ (narrow? b).isSome ∨ (page932Singles.lookup b).isSome then some 1 else some 2
  read
    | [b] => some [((narrow? b).or (page932Singles.lookup b)).getD (Char.ofNat b)]
    | [a, b] =>
      let p := shiftedPlace a b
      if p.1 = 0 then none else (page932Char? p).map ([·])
    | _ => none
  write c _ :=
    if c.toNat ≤ 0x80 then some ([c.toNat], false)
    else match (narrowByte? c).or ((page932Singles.find? fun e => e.2 == c).map Prod.fst) with
      | some b => some ([b], false)
      | none => (page932Place? c).map fun p => ([(shiftedBytes p).1, (shiftedBytes p).2], false)

/-- How many bytes a character has whose first byte can be a sign for another set. -/
def extendedSize? (b : Nat) (_ : Option Nat) : Option Nat :=
  if b < 0x80 then some 1 else if b = 0x8f then some 3 else some 2

/-- The sign before a narrow letter. -/
def narrowSign : Nat := 0x8e

/-- The sign before a character of the other set. -/
def otherSign : Nat := 0x8f

/-- The basic and the supplementary set by bytes of the upper half. -/
def extended : Multibyte where
  label := "euc_jp"
  size? := extendedSize?
  read
    | [b] => some [Char.ofNat b]
    | [a, b] =>
      (if a = narrowSign then narrow? b
        else Charset.jis0208.char? (UpperHalf.place a b)).map ([·])
    | [_, a, b] => (Charset.jis0212.char? (UpperHalf.place a b)).map ([·])
    | _ => none
  write c _ :=
    if c.toNat < 0x80 then some ([c.toNat], false)
    else match romanSigns.lookup c, narrowByte? c with
      | some b, _ => some ([b], false)
      | _, some b => some ([narrowSign, b], false)
      | none, none =>
        match (Charset.jis0208.place? c).map UpperHalf.bytes,
          (Charset.jis0212.place? c).map UpperHalf.bytes with
        | some (a, b), _ => some ([a, b], false)
        | none, some (a, b) => some ([otherSign, a, b], false)
        | none, none => none

/-- The editions of the extended set, by their years. -/
inductive Edition where
  | year2000 | year2004
deriving DecidableEq, Repr

/-- A place of the second plane that the editions give to different ideographs. -/
def changedPlace : Grid.Place := (93, 27)

/-- The ideograph at that place. -/
def changedChar : Edition → Char
  | .year2000 => '\u9b1d'
  | .year2004 => '\u9b1c'

/-- The characters at a place of the first plane. -/
def firstPlane? (e : Edition) (p : Grid.Place) : Option (List Char) :=
  if e = .year2000 ∧ Charset.jis0213Late.contains p then none
  else (((Charset.jis0208.char? p).or (Charset.jis0213.char? p)).map ([·])).or
    ((Charset.jis0213Pairs.find? fun e => (e.1, e.2.1) == p).map fun e => [e.2.2.1, e.2.2.2])

/-- The character at a place of the second plane. -/
def secondPlane? (e : Edition) (p : Grid.Place) : Option Char :=
  if p == changedPlace then some (changedChar e) else Charset.jis0213Second.char? p

/-- The place of two characters that stand together.  The first of two that have a place
together takes in a null behind it as well. -/
def pairPlace? (c : Char) (next : Option Char) : Option Grid.Place :=
  match next with
  | none => none
  | some d =>
    let pairs := Charset.jis0213Pairs.filter fun e => e.2.2.1 == c
    if d == '\x00' ∧ !pairs.isEmpty then (Charset.jis0208.place? c).or (Charset.jis0213.place? c)
    else (pairs.find? fun e => e.2.2.2 == d).map fun e => (e.1, e.2.1)

/-- Whether an edition has a character, as far as the editions differ. -/
def inEdition (e : Edition) (c : Char) : Bool :=
  match e with
  | .year2000 => c != changedChar .year2004 &&
    !((Charset.jis0213.place? c).any Charset.jis0213Late.contains)
  | .year2004 => true

/-- The place of a character in the first plane. -/
def firstPlace? (e : Edition) (c : Char) : Option Grid.Place :=
  if inEdition e c then (Charset.jis0208.place? c).or (Charset.jis0213.place? c) else none

/-- The place of a character in the second plane. -/
def secondPlace? (e : Edition) (c : Char) : Option Grid.Place :=
  if c == changedChar e then some changedPlace
  else if c == changedChar .year2004 then none
  else Charset.jis0213Second.place? c

/-- The rows of the second plane in the order in which they follow when shifted. -/
def secondRows : List Nat := [1, 8, 3, 4, 5, 12, 13, 14, 15] ++ List.range' 78 17

/-- Plain signs at places where other texts have wide ones. -/
def plainSigns : List (Grid.Place × Char) := [((1, 32), '\\'), ((2, 18), '~')]

/-- The extended set, shifted. -/
def shiftedExtended (e : Edition) : Multibyte where
  label := match e with
    | .year2000 => "shift_jisx0213"
    | .year2004 => "shift_jis_2004"
  size? b _ :=
    if b < 0x80 ∨ (narrow? b).isSome then some 1
    else if (0x81 ≤ b ∧ b ≤ 0x9f) ∨ (0xe0 ≤ b ∧ b ≤ 0xfc) then some 2
    else none
  read
    | [b] => some [((romanSigns.find? fun s => s.2 == b).map Prod.fst).getD
        ((narrow? b).getD (Char.ofNat b))]
    | [a, b] =>
      let p := shiftedPlace a b
      if p.1 ≤ 94 then ((plainSigns.lookup p).map ([·])).or (firstPlane? e p)
      else (secondRows[p.1 - 95]?).bind fun row => (secondPlane? e (row, p.2)).map ([·])
    | _ => none
  write c next :=
    let at_ (p : Grid.Place) (both : Bool) : List Nat × Bool :=
      ([(shiftedBytes p).1, (shiftedBytes p).2], both)
    match (plainSigns.find? fun s => s.2 == c).map Prod.fst, romanSigns.lookup c with
    | some p, _ => some (at_ p false)
    | none, some b => some ([b], false)
    | none, none =>
      if c.toNat < 0x80 then some ([c.toNat], false)
      else if c == '\uff3c' then none
      else match narrowByte? c, pairPlace? c next, firstPlace? e c, secondPlace? e c with
        | some b, _, _, _ => some ([b], false)
        | _, some p, _, _ => some (at_ p true)
        | _, _, some p, _ => some (at_ p false)
        | _, _, _, some p => (secondRows.idxOf? p.1).map fun i => at_ (95 + i, p.2) false
        | none, none, none, none => none
  refused bs := match bs with
    | [a, b] =>
      if e = .year2000 ∧ Charset.jis0213Late.contains (shiftedPlace a b) then 2 else 1
    | _ => 1

/-- The wide tilde. -/
def wideTilde : Char := '\uff5e'

/-- Its place in texts by bytes of the upper half. -/
def wideTildePlace : Grid.Place := (2, 18)

/-- The extended set by bytes of the upper half, with the supplementary one beside its
second plane. -/
def upperExtended (e : Edition) : Multibyte where
  label := match e with
    | .year2000 => "euc_jisx0213"
    | .year2004 => "euc_jis_2004"
  size? := extendedSize?
  read
    | [b] => some [Char.ofNat b]
    | [a, b] =>
      let p := UpperHalf.place a b
      if a = narrowSign then (narrow? b).map ([·])
      else if p == wideTildePlace then some [wideTilde]
      else firstPlane? e p
    | [_, a, b] =>
      let p := UpperHalf.place a b
      ((secondPlane? e p).or (Charset.jis0212.char? p)).map ([·])
    | _ => none
  write c next :=
    let first (p : Grid.Place) (both : Bool) : List Nat × Bool :=
      ([(UpperHalf.bytes p).1, (UpperHalf.bytes p).2], both)
    let second (p : Grid.Place) : List Nat × Bool :=
      ([otherSign, (UpperHalf.bytes p).1, (UpperHalf.bytes p).2], false)
    if c.toNat < 0x80 then some ([c.toNat], false)
    else if c == wideTilde then some (first wideTildePlace false)
    else match narrowByte? c, pairPlace? c next, firstPlace? e c, secondPlace? e c with
      | some b, _, _, _ => some ([narrowSign, b], false)
      | _, some p, _, _ => some (first p true)
      | _, _, some p, _ => some (first p false)
      | _, _, _, some p => some (second p)
      | none, none, none, none =>
        if inEdition e c then (Charset.jis0212.place? c).map second else none
  refused bs := match bs with
    | [a, b] =>
      if e = .year2000 ∧ Charset.jis0213Late.contains (UpperHalf.place a b) then 2 else 1
    | _ => 1

end Japanese

end Marginalia
