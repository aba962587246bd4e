/-
Characters in seven bits: most of the first 128 stand for themselves, and stretches of
others are written as units of sixteen bits, six bits to a byte, behind a plus sign.
-/
import Marginalia.Text.Codec.Utf

namespace Marginalia

namespace Utf7

/-- The characters that stand for six bits. -/
def digits : List Char :=
  "ABCDEFGHIJKLMNOPQRSTUVWXYZabcdefghijklmnopqrstuvwxyz0123456789+/".toList

/-- The six bits that a character stands for. -/
def digitOf? (c : Char) : Option Nat := digits.idxOf? c

/-- Whether a character is written as it is. -/
def isDirect (c : Char) : Bool :=
  c == '\t' || c == '\n' || c == '\r' ||
    (32 ≤ c.toNat && c.toNat < 127 && c != '+' && c != '\\' && c != '~')

/-- Bits that have not made up a digit or a unit yet. -/
structure Bits where
  count : Nat := 0
  value : Nat := 0

/-- Adds bits at the end. -/
def Bits.push (b : Bits) (count value : Nat) : Bits :=
  ⟨b.count + count, b.value * Nat.pow 2 count + value⟩

/-- Adds the units of a character. -/
def Bits.pushChar (b : Bits) (c : Char) : Bits :=
  (Utf16.units c).foldl (fun (b : Bits) n => b.push 16 n) b

/-- Takes bits off the front. -/
def Bits.pop (b : Bits) (count : Nat) : Nat × Bits :=
  let left := b.count - count
  (b.value / Nat.pow 2 left, ⟨left, b.value % Nat.pow 2 left⟩)

/-- Writes whole digits, of which there are at most `fuel`. -/
def Bits.flush : Nat → Bits → List Char × Bits
  | 0, b => ([], b)
  | fuel + 1, b =>
    if b.count < 6 then ([], b)
    else
      let (d, b) := b.pop 6
      let (cs, b) := flush fuel b
      (digits.getD d 'A' :: cs, b)

/-- Fills the last digit up with zeros. -/
def Bits.ending (b : Bits) : List Char :=
  if b.count = 0 then [] else [digits.getD (b.value * Nat.pow 2 (6 - b.count)) 'A']

/-- Writes characters; inside a stretch `bits` holds what is left of the units so far. -/
def encodeFrom : Option Bits → List Char → List Char
  | none, [] => []
  | some bits, [] => bits.ending ++ ['-']
  | stretch, c :: cs =>
    match stretch with
    | some bits =>
      if isDirect c then
        bits.ending ++ (if (digitOf? c).isSome || c == '-' then ['-', c] else [c]) ++
          encodeFrom none cs
      else
        let (ds, bits) := (bits.pushChar c).flush 6
        ds ++ encodeFrom (some bits) cs
    | none =>
      if c == '+' then '+' :: '-' :: encodeFrom none cs
      else if isDirect c then c :: encodeFrom none cs
      else
        let (ds, bits) := (Bits.pushChar {} c).flush 6
        '+' :: ds ++ encodeFrom (some bits) cs

/-- The bytes of a text. -/
def encode (cs : List Char) : List UInt8 := (encodeFrom none cs).map fun c => UInt8.ofNat c.toNat

/-- A stretch that is being read. -/
structure Stretch where
  /-- Where it starts. -/
  start : Nat
  bits : Bits := {}
  /-- The first half of a character whose second is still to come. -/
  half : Option Nat := none

/-- What the reading of bytes depends on. -/
structure Reading where
  handler : String
  bytes : List UInt8

/-- What stands in for the bytes between two positions. -/
def Reading.standIn (r : Reading) (start stop : Nat) (reason : String) :
    Except CodecError (List Char) :=
  match (r.bytes.drop start).take (stop - start) with
  | b :: more => BadBytes.standIn "utf7" r.handler start b more ⟨stop - start, reason⟩
  | [] => .ok []

/-- The character of a unit, after the first half of one. -/
private def unitChars (half : Option Nat) (n : Nat) : List Char × Option Nat :=
  let isLow := 0xdc00 ≤ n ∧ n < 0xe000
  let isHigh := 0xd800 ≤ n ∧ n < 0xdc00
  match half with
  | some h =>
    if isLow then ([Char.ofNat (0x10000 + (h - 0xd800) * 1024 + (n - 0xdc00))], none)
    else if isHigh then ([Char.ofNat h], some n)
    else ([Char.ofNat h, Char.ofNat n], none)
  | none => if isHigh then ([], some n) else ([Char.ofNat n], none)

/-- What is wrong with the bits that are left at the end of a stretch. -/
private def Stretch.fault? (s : Stretch) : Option String :=
  if s.bits.count ≥ 6 then some "partial character in shift sequence"
  else if s.bits.count > 0 ∧ s.bits.value ≠ 0 then
    some "non-zero padding bits in shift sequence"
  else none

/-- Reads bytes from a position on; `fuel` bounds the number of steps, each of which takes
a byte or ends a stretch.  `out` holds what has been read, the last first. -/
def decodeFrom (r : Reading) :
    Nat → Nat → Option Stretch → List UInt8 → List Char → Except CodecError (List Char)
  | 0, _, _, _, out => .ok out.reverse
  | _, _, none, [], out => .ok out.reverse
  | _, pos, some s, [], out => do
    if s.half.isSome || s.fault?.isSome then
      let cs ← r.standIn s.start pos "unterminated shift sequence"
      return (cs.reverse ++ out).reverse
    return out.reverse
  | fuel + 1, pos, some s, b :: bs, out =>
    let c := Char.ofNat b.toNat
    match digitOf? c with
    | some d =>
      let bits := s.bits.push 6 d
      if bits.count ≥ 16 then
        let (n, bits) := bits.pop 16
        let (cs, half) := unitChars s.half n
        decodeFrom r fuel (pos + 1) (some { s with bits, half }) bs (cs.reverse ++ out)
      else decodeFrom r fuel (pos + 1) (some { s with bits }) bs out
    | none =>
      match s.fault? with
      | some reason => do
        let cs ← r.standIn s.start (pos + 1) reason
        decodeFrom r fuel (pos + 1) none bs (cs.reverse ++ out)
      | none =>
        let out := match s.half with
          | some h => if c.toNat < 128 && c != '+' then Char.ofNat h :: out else out
          | none => out
        if c == '-' then decodeFrom r fuel (pos + 1) none bs out
        else decodeFrom r fuel pos none (b :: bs) out
  | fuel + 1, pos, none, b :: bs, out =>
    let c := Char.ofNat b.toNat
    if c == '+' then
      match bs with
      | b' :: rest =>
        let d := Char.ofNat b'.toNat
        if d == '-' then decodeFrom r fuel (pos + 2) none rest ('+' :: out)
        else if (digitOf? d).isNone then do
          let cs ← r.standIn pos (pos + 2) "ill-formed sequence"
          decodeFrom r fuel (pos + 2) none rest (cs.reverse ++ out)
        else decodeFrom r fuel (pos + 1) (some { start := pos }) bs out
      | [] => decodeFrom r fuel (pos + 1) (some { start := pos }) bs out
    else if b.toNat < 128 then decodeFrom r fuel (pos + 1) none bs (c :: out)
    else do
      let cs ← r.standIn pos (pos + 1) "unexpected special character"
      decodeFrom r fuel (pos + 1) none bs (cs.reverse ++ out)

/-- Reads bytes as a text. -/
def decode (handler : String) (bs : List UInt8) : Except CodecError (List Char) :=
  decodeFrom ⟨handler, bs⟩ (2 * bs.length + 1) 0 none bs []

end Utf7

end Marginalia
