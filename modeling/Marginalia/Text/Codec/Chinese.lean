/-
Encodings of Chinese texts.

GBK and GB 18030 contain GB 2312, and the vendor's and the Hong Kong form of Big5 contain most
of Big5.
-/
import Marginalia.Text.Charset.Big5
import Marginalia.Text.Charset.Gb18030
import Marginalia.Text.Charset.Gb2312
import Marginalia.Text.Charset.Hkscs
import Marginalia.Text.Codec.Multibyte

namespace Marginalia

namespace Chinese

/-- The basic set. -/
def gb2312 : Multibyte :=
  .pairs "gb2312" (fun a b => Charset.gb2312.char? (UpperHalf.place a b))
    fun c => (Charset.gb2312.place? c).map UpperHalf.bytes

/-- The ideographs that GBK adds: those up to U+9FA5 by their code points, and a few more. -/
def addedIdeographs : Array Char :=
  let first := 0x4e00
  let mark (seen : Array Bool) (c : Char) : Array Bool :=
    if first ≤ c.toNat then seen.setIfInBounds (c.toNat - first) true else seen
  let seen := Charset.gb2312.rows.foldl (fun seen row => row.foldl mark seen)
    (Array.replicate 20902 false)
  let added := seen.toList.zipIdx.filterMap fun (here, i) =>
    if here then none else some (Char.ofNat (first + i))
  (added ++ Charset.gbkLate.toList).toArray

/-- The number of a second byte that can be below the upper half. -/
def lowIndex? (b : Nat) : Option Nat :=
  if 0x40 ≤ b ∧ b < 0x7f then some (b - 0x40)
  else if 0x80 ≤ b ∧ b < 0xff then some (b - 0x41)
  else none

/-- The second byte with a number. -/
def lowByte (i : Nat) : Nat := if i < 63 then 0x40 + i else 0x41 + i

/-- The number of an added ideograph by its bytes. -/
def ideographIndex? (a b : Nat) : Option Nat := do
  let i ← lowIndex? b
  if 0x81 ≤ a ∧ a ≤ 0xa0 then some ((a - 0x81) * 190 + i)
  else if 0xaa ≤ a ∧ a ≤ 0xfe ∧ i < 96 then some (32 * 190 + (a - 0xaa) * 96 + i)
  else none

/-- The bytes of an added ideograph. -/
def ideographBytes (n : Nat) : Nat × Nat :=
  if n < 32 * 190 then (0x81 + n / 190, lowByte (n % 190))
  else (0xaa + (n - 32 * 190) / 96, lowByte ((n - 32 * 190) % 96))

/-- Places that GBK gives to other characters than GB 2312. -/
def gbkChanged : List ((Nat × Nat) × Char) := [((0xa1, 0xa4), '·'), ((0xa1, 0xaa), '—')]

/-- A character of GBK. -/
def gbkChar? (a b : Nat) : Option Char :=
  (gbkChanged.lookup (a, b)).or <|
    (Charset.gb2312.char? (UpperHalf.place a b)).or <|
    (Charset.gbkAdded.char? (UpperHalf.place a b)).or <|
    ((lowIndex? b).bind fun i =>
      if i < 96 then Charset.gbkSigns.char? (a - 0xa0, i + 1) else none).or <|
    (ideographIndex? a b).bind fun n => addedIdeographs[n]?

/-- The bytes of a character of GBK. -/
def gbkBytes? (c : Char) : Option (Nat × Nat) :=
  let unchanged (p : Nat × Nat) : Bool := !gbkChanged.any fun e => e.1 == p
  ((gbkChanged.find? fun e => e.2 == c).map Prod.fst).or <|
    (((Charset.gb2312.place? c).map UpperHalf.bytes).filter unchanged).or <|
    ((Charset.gbkAdded.place? c).map UpperHalf.bytes).or <|
    ((Charset.gbkSigns.place? c).map fun p => (p.1 + 0xa0, lowByte (p.2 - 1))).or <|
    (addedIdeographs.idxOf? c).map ideographBytes

/-- The basic set and all ideographs of its time. -/
def gbk : Multibyte := .pairs "gbk" gbkChar? gbkBytes?

/-- The first character for private use in an empty place of GBK. -/
def privateStart : Nat := 0xe766

/-- A character of two bytes that GB 18030 has in an empty place of GBK. -/
def holeChar? (a b : Nat) : Option Char := do
  let k ← Charset.gb18030Holes.rank? (a * 256 + b)
  let late := Charset.gb18030Late.findSome? fun (start, cs) =>
    if start ≤ k then (cs.toList[k - start]?).filter (· != '.') else none
  return late.getD (Char.ofNat (privateStart + k))

/-- The bytes of such a character. -/
def holeBytes? (c : Char) : Option (Nat × Nat) := do
  let late := Charset.gb18030Late.findSome? fun (start, cs) =>
    (cs.toList.idxOf? c).map (· + start)
  let k ← late.or (if privateStart ≤ c.toNat then some (c.toNat - privateStart) else none)
  let n ← Charset.gb18030Holes.nth? k
  if holeChar? (n / 256) (n % 256) == some c then some (n / 256, n % 256) else none

/-- Rows for users: the first row and the last one, whether the second byte is in the upper
half, and the first character. -/
def userRows : List (Nat × Nat × Bool × Nat) :=
  [(0xaa, 0xaf, true, 0xe000), (0xf8, 0xfe, true, 0xe234), (0xa1, 0xa7, false, 0xe4c6)]

/-- A character of the rows for users. -/
def userChar? (a b : Nat) : Option Char :=
  userRows.findSome? fun (first, last, upper, start) => do
    let i ← if upper then (if 0xa1 ≤ b ∧ b ≤ 0xfe then some (b - 0xa1) else none)
      else (lowIndex? b).filter (· < 96)
    if first ≤ a ∧ a ≤ last then
      some (Char.ofNat (start + (a - first) * (if upper then 94 else 96) + i))
    else none

/-- The bytes of such a character. -/
def userBytes? (c : Char) : Option (Nat × Nat) :=
  userRows.findSome? fun (first, last, upper, start) =>
    let width := if upper then 94 else 96
    if start ≤ c.toNat ∧ c.toNat < start + (last + 1 - first) * width then
      let n := c.toNat - start
      some (first + n / width, if upper then 0xa1 + n % width else lowByte (n % width))
    else none

/-- Four bytes as a number: the second and the fourth are digits. -/
def longIndex? : List Nat → Option Nat
  | [a, b, c, d] =>
    if 0x81 ≤ a ∧ a ≤ 0xfe ∧ 0x30 ≤ b ∧ b ≤ 0x39 ∧ 0x81 ≤ c ∧ c ≤ 0xfe ∧ 0x30 ≤ d ∧ d ≤ 0x39 then
      some ((((a - 0x81) * 10 + (b - 0x30)) * 126 + (c - 0x81)) * 10 + (d - 0x30))
    else none
  | _ => none

/-- The four bytes of a number. -/
def longBytes (n : Nat) : List Nat :=
  [0x81 + n / 12600, 0x30 + n / 1260 % 10, 0x81 + n / 10 % 126, 0x30 + n % 10]

/-- The number of the first character of four bytes beyond U+FFFF. -/
def longStart : Nat := 15 * 12600

/-- A character of four bytes. -/
def longChar? (bs : List Nat) : Option Char := do
  let n ← longIndex? bs
  if n < longStart then (Charset.gb18030Long.nth? n).map Char.ofNat
  else
    let code := n - longStart + 0x10000
    if code ≤ 0x10ffff then some (Char.ofNat code) else none

/-- The four bytes of a character. -/
def longBytes? (c : Char) : Option (List Nat) :=
  if c.toNat < 0x10000 then (Charset.gb18030Long.rank? c.toNat).map longBytes
  else some (longBytes (longStart + (c.toNat - 0x10000)))

/-- All characters. -/
def gb18030 : Multibyte where
  label := "gb18030"
  size? b next :=
    if b < 0x80 then some 1
    else if next.any fun n => 0x30 ≤ n ∧ n ≤ 0x39 then some 4
    else some 2
  read
    | [b] => some [Char.ofNat b]
    | [a, b] => ((gbkChar? a b).or ((holeChar? a b).or (userChar? a b))).map ([·])
    | bs => (longChar? bs).map ([·])
  write c _ :=
    if c.toNat < 0x80 then some ([c.toNat], false)
    else match (gbkBytes? c).or ((holeBytes? c).or (userBytes? c)) with
      | some (a, b) => some ([a, b], false)
      | none => (longBytes? c).map (·, false)

/-- The place in the rows of Big5 that two bytes name. -/
def bigPlace (a b : Nat) : Grid.Place :=
  (a, if 0x40 ≤ b ∧ b < 0x7f then b - 0x3f else if 0xa1 ≤ b ∧ b < 0xff then b - 0x61 else 0)

/-- The two bytes that name a place in the rows of Big5. -/
def bigBytes (p : Grid.Place) : Nat × Nat := (p.1, if p.2 ≤ 63 then p.2 + 0x3f else p.2 + 0x61)

/-- Traditional characters; of two places of a character the last is used. -/
def big5 : Multibyte :=
  .pairs "big5" (fun a b => Charset.big5.char? (bigPlace a b))
    fun c => (Charset.big5.places c).getLast?.map bigBytes

/-- Places that the code page 950 gives to other characters than Big5. -/
def page950Changed : List ((Nat × Nat) × Char) :=
  [((0xa1, 0x45), '\u2027'), ((0xa1, 0x4e), '\ufe51'), ((0xa1, 0xc2), '\u00af'),
    ((0xa1, 0xe3), '\uff5e'), ((0xa1, 0xf2), '\u2295'), ((0xa1, 0xf3), '\u2299'),
    ((0xa2, 0x41), '\u2215'), ((0xa2, 0x42), '\ufe68'), ((0xa2, 0x44), '\uffe5'),
    ((0xa2, 0x46), '\uffe0'), ((0xa2, 0x47), '\uffe1')]

/-- A character of the code page 950. -/
def page950Char? (a b : Nat) : Option Char :=
  (page950Changed.lookup (a, b)).or <|
    (Charset.big5.char? (bigPlace a b)).or (Charset.big5Added.char? (bigPlace a b))

/-- The bytes of a character of the code page 950; a character of Big5 that gave way keeps
its bytes when it is written. -/
def page950Bytes? (c : Char) : Option (Nat × Nat) :=
  let places := (Charset.big5.places c).map bigBytes
  let kept := places.filter fun p => !page950Changed.any fun e => e.1 == p
  let twice := ['\u5341', '\u5345']
  ((page950Changed.find? fun e => e.2 == c).map Prod.fst).or <|
    (if twice.contains c then kept.getLast? else kept.head?).or <|
    ((Charset.big5Added.place? c).map bigBytes).or places.getLast?

/-- The form of Big5 of one vendor. -/
def page950 : Multibyte := .pairs "cp950" page950Char? page950Bytes?

/-- Letters with two marks, of which the second is a character of its own. -/
def hongKongPairs : List ((Nat × Nat) × Char × Char) :=
  [((0x88, 0x62), '\u00ca', '\u0304'), ((0x88, 0x64), '\u00ca', '\u030c'),
    ((0x88, 0xa3), '\u00ea', '\u0304'), ((0x88, 0xa5), '\u00ea', '\u030c')]

/-- The form of Big5 of Hong Kong. -/
def hongKong : Multibyte where
  label := "big5hkscs"
  size? := Multibyte.oneOrTwo
  read
    | [b] => some [Char.ofNat b]
    | [a, b] =>
      let own := 0xc6a1 ≤ a * 256 + b ∧ a ≤ 0xc8
      let char := (if own then none else Charset.big5.char? (bigPlace a b)).or
        (Charset.hkscs.char? (bigPlace a b))
      (char.map ([·])).or ((hongKongPairs.lookup (a, b)).map fun (c, d) => [c, d])
    | _ => none
  write c next :=
    if c.toNat < 0x80 then some ([c.toNat], false)
    else match hongKongPairs.find? fun e => e.2.1 == c && some e.2.2 == next with
      | some ((a, b), _) => some ([a, b], true)
      | none =>
        let place := (Charset.hkscs.place? c).or (Charset.big5.places c).getLast?
        place.map fun p => ([(bigBytes p).1, (bigBytes p).2], false)

end Chinese

end Marginalia
