/-
Encodings whose bytes mean characters of one set or another, as signs between them say.

A sign names the set for what follows; other signs shift between two sets in use.  Texts start
and end with plain characters.
-/
import Marginalia.Text.Codec.Japanese
import Marginalia.Text.Charset.Gb2312
import Marginalia.Text.Charset.Ksx1001
import Marginalia.Text.Codec.SingleByte

namespace Marginalia

namespace Switching

/-- A set by the letter of its sign, and whether its characters have two bytes. -/
structure SetName where
  letter : Char
  isDouble : Bool
deriving DecidableEq, Repr

/-- The plain characters. -/
def plain : SetName := ⟨'B', false⟩

/-- A set as an encoding uses it. -/
structure CodedSet where
  name : SetName
  /-- The set is used while the text is shifted. -/
  whenShifted : Bool := false
  /-- The characters of bytes of the lower half. -/
  read : List Nat → Option (List Char)
  /-- The bytes of a character, or of that character and the one behind it; says whether both
  are written. -/
  write : Char → Option Char → Option (List Nat × Bool)

/-- How many bytes the characters of a set have. -/
def SetName.width (n : SetName) : Nat := if n.isDouble then 2 else 1

/-- The place that two bytes of the lower half name. -/
def lowerPlace (a b : Nat) : Grid.Place := (a - 0x20, b - 0x20)

/-- The two bytes of the lower half that name a place. -/
def lowerBytes (p : Grid.Place) : List Nat := [p.1 + 0x20, p.2 + 0x20]

/-- A set in rows and cells. -/
def gridSet (letter : Char) (g : Grid) : CodedSet where
  name := ⟨letter, true⟩
  read
    | [a, b] => (g.char? (lowerPlace a b)).map ([·])
    | _ => none
  write c _ := (g.place? c).map fun p => (lowerBytes p, false)

/-- The Roman set: as the plain characters, but for two signs. -/
def roman : CodedSet where
  name := ⟨'J', false⟩
  read
    | [b] => some [((Japanese.romanSigns.find? fun s => s.2 == b).map Prod.fst).getD (Char.ofNat b)]
    | _ => none
  write c _ := (Japanese.romanSigns.lookup c).map fun b => ([b], false)

/-- The narrow letters. -/
def narrow : CodedSet where
  name := ⟨'I', false⟩
  read
    | [b] => (Japanese.narrow? (b + 0x80)).map ([·])
    | _ => none
  write c _ := (Japanese.narrowByte? c).map fun b => ([b - 0x80], false)

/-- A set that is only used by a sign before each of its characters. -/
def byCharacter (letter : Char) : CodedSet where
  name := ⟨letter, false⟩
  read _ := none
  write _ _ := none

/-- The tilde at its place in the extended set. -/
def plainTilde : Grid.Place × Char := (Japanese.wideTildePlace, '~')

/-- The first plane of the extended set. -/
def firstPlane (letter : Char) (e : Japanese.Edition) : CodedSet where
  name := ⟨letter, true⟩
  read
    | [a, b] =>
      let p := lowerPlace a b
      if p == plainTilde.1 then some [plainTilde.2] else Japanese.firstPlane? e p
    | _ => none
  write c _ := (Japanese.firstPlace? e c).map fun p => (lowerBytes p, false)

/-- The first plane of the extended set, for two characters that stand together. -/
def pairsOnly (letter : Char) (e : Japanese.Edition) : CodedSet :=
  { firstPlane letter e with
    write := fun c next => (Japanese.pairPlace? c next).map fun p => (lowerBytes p, true) }

/-- The second plane of the extended set. -/
def secondPlane (letter : Char) (e : Japanese.Edition) : CodedSet where
  name := ⟨letter, true⟩
  read
    | [a, b] => (Japanese.secondPlane? .year2004 (lowerPlace a b)).map ([·])
    | _ => none
  write c _ := (Japanese.secondPlace? e c).map fun p => (lowerBytes p, false)

/-- An encoding by signs. -/
structure Scheme where
  label : String
  /-- The sets in the order in which characters are looked for. -/
  sets : List CodedSet
  /-- Two bytes shift between the sets. -/
  hasShift : Bool := false
  /-- There are signs for single characters. -/
  hasSingles : Bool := false
  /-- There is a long sign for the basic Japanese set. -/
  hasLongSign : Bool := true

/-- The basic Japanese set. -/
def jis0208 : CodedSet := gridSet 'B' Charset.jis0208

/-- The basic Japanese set under its older letter. -/
def jis0208Old : CodedSet := gridSet '@' Charset.jis0208

/-- The supplementary Japanese set. -/
def jis0212 : CodedSet := gridSet 'D' Charset.jis0212

/-- The basic Korean set. -/
def ksx1001 : CodedSet := gridSet 'C' Charset.ksx1001

/-- The basic Chinese set. -/
def gb2312 : CodedSet := gridSet 'A' Charset.gb2312

/-- The schemes. -/
def schemes : List Scheme :=
  [⟨"iso2022_kr", [{ ksx1001 with whenShifted := true }], true, false, false⟩,
    ⟨"iso2022_jp", [jis0208, roman, jis0208Old], false, false, true⟩,
    ⟨"iso2022_jp_1", [jis0208, jis0212, roman, jis0208Old], false, false, true⟩,
    ⟨"iso2022_jp_2", [jis0208, jis0212, ksx1001, gb2312, roman, jis0208Old, byCharacter 'A',
      byCharacter 'F'], false, true, true⟩,
    ⟨"iso2022_jp_2004", [pairsOnly 'Q' .year2004, jis0208, firstPlane 'Q' .year2004,
      secondPlane 'P' .year2004], false, false, true⟩,
    ⟨"iso2022_jp_3", [pairsOnly 'O' .year2000, jis0208, firstPlane 'O' .year2000,
      secondPlane 'P' .year2000], false, false, true⟩,
    ⟨"iso2022_jp_ext", [jis0208, jis0212, roman, narrow, jis0208Old], false, false, true⟩]

/-- Which sets are in use. -/
structure State where
  /-- The set in use, the one while the text is shifted, and the one for single characters. -/
  current : SetName := plain
  shifted : SetName := plain
  single : SetName := plain
  isShifted : Bool := false
  /-- An unknown sign is read as it stands, up to its last character. -/
  inUnknown : Bool := false
deriving Repr

/-- The byte that signs start with. -/
def sign : Nat := 0x1b

/-- The byte that shifts to the other set. -/
def shiftOut : Nat := 0x0e

/-- The byte that shifts back. -/
def shiftIn : Nat := 0x0f

/-- Whether a byte ends a sign. -/
def endsSign (b : Nat) : Bool := (0x41 ≤ b && b ≤ 0x5a) || b == 0x40

/-- The bytes of a sign from the second on up to its last one; none if it is too long, and
whether the end of the bytes came first. -/
def signBytes (long : Bool) : Nat → List Nat → Except Bool (List Nat)
  | 0, _ => .error false
  | _, [] => .error true
  | fuel + 1, b :: bs =>
    if endsSign b then .ok [b]
    else match long, b, bs with
      | true, 0x26, 0x40 :: c :: d :: rest => (signBytes long (fuel - 2) (d :: rest)).map ([b, 0x40, c] ++ ·)
      | true, 0x26, 0x40 :: _ => .error true
      | _, _, _ => (signBytes long fuel bs).map (b :: ·)

/-- Which of the sets in use a set becomes. -/
inductive Role where
  | current | shifted | single
deriving DecidableEq, Repr

/-- The meaning of the bytes behind the first one of a sign; none if it has none. -/
def meaning? (s : Scheme) (bs : List Nat) : Option (SetName × Role) :=
  let known (n : SetName) (r : Role) : Option (SetName × Role) :=
    if n = plain ∨ s.sets.any fun c => c.name == n then some (n, r) else none
  match bs.map Char.ofNat with
  | ['$', l] => known ⟨l, true⟩ .current
  | ['(', l] => known ⟨l, false⟩ .current
  | [')', l] => known ⟨l, false⟩ .shifted
  | ['.', l] => if s.hasSingles then known ⟨l, false⟩ .single else none
  | ['$', '(', l] => known ⟨l, true⟩ .current
  | ['$', ')', l] => known ⟨l, true⟩ .shifted
  | [_, _, '\x1b', '$', 'B'] => if s.hasLongSign then known ⟨'B', true⟩ .current else none
  | _ => none

/-- Changes the sets in use. -/
def State.use (s : State) (n : SetName) : Role → State
  | .current => { s with current := n }
  | .shifted => { s with shifted := n }
  | .single => { s with single := n }

/-- The code points of the upper half of the Greek table for single characters. -/
def greek? (b : Nat) : Option Char :=
  match b with
  | 0xa1 => some '\u2018'
  | 0xa2 => some '\u2019'
  | 0xaf => some '\u2015'
  | _ =>
    if [0xa4, 0xa5, 0xaa].contains b then none
    else ((SingleByte.codesOfTable ((SingleByte.tables.lookup "iso8859_7").getD ""))[b]?.join).map
      Char.ofNat

/-- Reads the single character behind a sign for one. -/
def readSingle (n : SetName) (b : Nat) : Option Char :=
  if n = plain then (if b < 0x80 then some (Char.ofNat b) else none)
  else if n.letter == 'A' then (if b < 0x80 then some (Char.ofNat (b + 0x80)) else none)
  else greek? (b ^^^ 0x80)

/-- What reading a step answers. -/
abbrev Step := Except BadBytes (List Char × Nat × State)

/-- Reads a character of the set in use. -/
def readInSet (s : Scheme) (st : State) (b : Nat) (bs : List Nat) : Step :=
  let set := if st.isShifted then st.shifted else st.current
  if set = plain then .ok ([Char.ofNat b], 0, st)
  else
    let unit := b :: bs.take (set.width - 1)
    if unit.length < set.width then .error ⟨unit.length, Multibyte.incomplete⟩
    else match (s.sets.find? fun c => c.name == set).bind fun c => c.read unit with
      | some cs => .ok (cs, set.width - 1, st)
      | none => .error ⟨set.width, Multibyte.illegal⟩

/-- How many bytes a reader looks ahead; no sign is longer. -/
def lookAhead : Nat := 20

/-- Reads a sign; `left` is the number of bytes that there are behind its first one. -/
def readSign (s : Scheme) (st : State) (left : Nat) (bs : List Nat) : Step :=
  match bs with
  | [] => .error ⟨1, Multibyte.incomplete⟩
  | b :: rest =>
    if [0x28, 0x29, 0x24, 0x2e, 0x26].contains b then
      match signBytes s.hasLongSign 15 bs with
      | .error true => .error ⟨left + 1, Multibyte.incomplete⟩
      | .error false => .error ⟨1, Multibyte.illegal⟩
      | .ok found =>
        match meaning? s found with
        | some (n, r) => .ok ([], found.length, st.use n r)
        | none => .error ⟨found.length + 1, Multibyte.illegal⟩
    else if s.hasSingles ∧ b = 0x4e then
      match rest with
      | [] => .error ⟨2, Multibyte.incomplete⟩
      | c :: _ =>
        match readSingle st.single c with
        | some ch => .ok ([ch], 2, st)
        | none => .error ⟨3, Multibyte.illegal⟩
    else .ok ([Char.ofNat sign], 0, { st with inUnknown := true })

/-- Reads texts of a scheme. -/
def reader (s : Scheme) : StateReader State where
  label := s.label
  start := {}
  next st b bs :=
    let n := b.toNat
    let rest := (bs.take lookAhead).map UInt8.toNat
    if st.inUnknown then
      .ok ([Char.ofNat n], 0, { st with inUnknown := !endsSign n })
    else if n = sign then readSign s st bs.length rest
    else if n = shiftIn ∧ s.hasShift then .ok ([], 0, { st with isShifted := false })
    else if n = shiftOut ∧ s.hasShift then .ok ([], 0, { st with isShifted := true })
    else if n = 0x0a then .ok (['\n'], 0, { st with isShifted := false })
    else if n < 0x20 then .ok ([Char.ofNat n], 0, st)
    else if n ≥ 0x80 then .error ⟨1, Multibyte.illegal⟩
    else readInSet s st n rest

/-- The sign for a set in use. -/
def signOf (n : SetName) (whenShifted : Bool) : List Nat :=
  let role := if whenShifted then 0x29 else 0x28
  if !n.isDouble then [sign, role, n.letter.toNat]
  else if n == jis0208.name ∧ !whenShifted then [sign, 0x24, n.letter.toNat]
  else [sign, 0x24, role, n.letter.toNat]

/-- The bytes that bring a set into use. -/
def bringIn (st : State) (n : SetName) (whenShifted : Bool) : List Nat × State :=
  if whenShifted then
    ((if st.shifted = n then [] else signOf n true) ++ (if st.isShifted then [] else [shiftOut]),
      { st with shifted := n, isShifted := true })
  else
    ((if st.isShifted then [shiftIn] else []) ++ (if st.current = n then [] else signOf n false),
      { st with current := n, isShifted := false })

/-- The bytes that bring plain characters into use. -/
def bringPlain (st : State) : List Nat × State :=
  ((if st.current = plain then [] else signOf plain false) ++
    (if st.isShifted then [shiftIn] else []),
    { st with current := plain, isShifted := false })

/-- Writes texts of a scheme. -/
def writer (s : Scheme) : StateWriter State where
  label := s.label
  reason := Multibyte.illegal
  inRuns := false
  start := {}
  next st c cs :=
    let written := if c.toNat < 0x80 then some (bringPlain st, [c.toNat], false)
      else s.sets.findSome? fun set => (set.write c cs.head?).map fun (bs, both) =>
        (bringIn st set.name set.whenShifted, bs, both)
    written.map fun ((signs, st), bs, both) =>
      ((signs ++ bs).map UInt8.ofNat, if both then 1 else 0, st)
  finish st :=
    ((if st.isShifted then [shiftIn] else []) ++
      (if st.current = plain then [] else signOf plain false)).map UInt8.ofNat

/-- Reads texts in which tildes switch to the Chinese set and back. -/
def tildeReader : StateReader Bool where
  label := "hz"
  start := false
  next inSet b bs :=
    let n := b.toNat
    let rest := (bs.take 1).map UInt8.toNat
    if n = 0x7e then
      match inSet, rest with
      | _, [] => .error ⟨1, Multibyte.incomplete⟩
      | false, 0x7e :: _ => .ok (['~'], 1, false)
      | false, 0x7b :: _ => .ok ([], 1, true)
      | false, 0x0a :: _ => .ok ([], 1, false)
      | true, 0x7d :: _ => .ok ([], 1, false)
      | _, _ => .error ⟨1, Multibyte.illegal⟩
    else if n ≥ 0x80 then .error ⟨1, Multibyte.illegal⟩
    else if inSet then
      match rest with
      | [] => .error ⟨1, Multibyte.incomplete⟩
      | m :: _ => match gb2312.read [n, m] with
        | some cs => .ok (cs, 1, true)
        | none => .error ⟨1, Multibyte.illegal⟩
    else .ok ([Char.ofNat n], 0, false)

/-- Writes such texts. -/
def tildeWriter : StateWriter Bool where
  label := "hz"
  reason := Multibyte.illegal
  inRuns := false
  start := false
  next inSet c _ :=
    let bytes (ns : List Nat) (s : Bool) : List UInt8 × Nat × Bool := (ns.map UInt8.ofNat, 0, s)
    if c.toNat < 0x80 then
      some (bytes ((if inSet then [0x7e, 0x7d] else []) ++
        (if c == '~' then [0x7e, 0x7e] else [c.toNat])) false)
    else (gb2312.write c none).map fun (ns, _) =>
      bytes ((if inSet then [] else [0x7e, 0x7b]) ++ ns) true
  finish inSet := if inSet then [0x7e, 0x7d] else []

end Switching

end Marginalia
