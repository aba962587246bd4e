/-
The encodings that can write every character: units of eight, sixteen and thirty-two bits.

Units wider than a byte come with their lower or their higher byte first; a mark in front
of the text can tell which.
-/
import Marginalia.Text.Codec.Basic

namespace Marginalia

namespace Utf8

/-- The bytes of a character. -/
def ofChar (c : Char) : List UInt8 :=
  let n := c.toNat
  let tail (k : Nat) : UInt8 := UInt8.ofNat (0x80 + n / Nat.pow 64 k % 64)
  if n < 0x80 then [UInt8.ofNat n]
  else if n < 0x800 then [UInt8.ofNat (0xc0 + n / 64), tail 0]
  else if n < 0x10000 then [UInt8.ofNat (0xe0 + n / 4096), tail 1, tail 0]
  else [UInt8.ofNat (0xf0 + n / 262144), tail 2, tail 1, tail 0]

/-- The bytes of a text. -/
def encode (s : String) : List UInt8 := s.toList.flatMap ofChar

/-- How many bytes follow a first byte, what it contributes, and the range of the second. -/
def lead? (b : UInt8) : Option (Nat × Nat × Nat × Nat) :=
  let n := b.toNat
  if n < 0xc2 then none
  else if n < 0xe0 then some (1, n - 0xc0, 0x80, 0xbf)
  else if n < 0xf0 then
    some (2, n - 0xe0, if n = 0xe0 then 0xa0 else 0x80, if n = 0xed then 0x9f else 0xbf)
  else if n < 0xf5 then
    some (3, n - 0xf0, if n = 0xf0 then 0x90 else 0x80, if n = 0xf4 then 0x8f else 0xbf)
  else none

/-- Reads the bytes that follow a first one; on failure, how many belonged to it and why. -/
def follow : Nat → Nat → Nat → Nat → List UInt8 → Except BadBytes Nat
  | 0, value, _, _, _ => .ok value
  | _ + 1, _, _, _, [] => .error ⟨0, "unexpected end of data"⟩
  | k + 1, value, low, high, b :: bs =>
    if low ≤ b.toNat ∧ b.toNat ≤ high then
      match follow k (value * 64 + (b.toNat - 0x80)) 0x80 0xbf bs with
      | .ok r => .ok r
      | .error bad => .error ⟨bad.size + 1, bad.reason⟩
    else .error ⟨0, "invalid continuation byte"⟩

/-- Reads characters of one to four bytes. -/
def reader : ByteReader where
  label := "utf-8"
  next b bs :=
    if b.toNat < 0x80 then .ok ([Char.ofNat b.toNat], 0)
    else match lead? b with
      | none => .error ⟨1, "invalid start byte"⟩
      | some (k, value, low, high) =>
        match follow k value low high bs with
        | .ok n => .ok ([Char.ofNat n], k)
        | .error bad => .error ⟨bad.size + 1, bad.reason⟩

/-- The bytes of the mark that can stand in front of a text. -/
def mark : List UInt8 := [0xef, 0xbb, 0xbf]

end Utf8

/-- Which byte of a unit comes first. -/
inductive ByteOrder where
  | little | big
deriving DecidableEq, Repr

namespace ByteOrder

/-- How refusals tell the orders apart. -/
def suffix : ByteOrder → String
  | little => "-le"
  | big => "-be"

/-- The number that bytes stand for. -/
def value (o : ByteOrder) (bs : List UInt8) : Nat :=
  match o with
  | little => bs.foldr (fun b n => n * 256 + b.toNat) 0
  | big => bs.foldl (fun n b => n * 256 + b.toNat) 0

/-- So many bytes of a number. -/
def bytes (o : ByteOrder) (width n : Nat) : List UInt8 :=
  let low := (List.range width).map fun k => UInt8.ofNat (n / Nat.pow 256 k % 256)
  match o with
  | little => low
  | big => low.reverse

end ByteOrder

namespace Utf16

/-- The units of a character. -/
def units (c : Char) : List Nat :=
  let n := c.toNat
  if n < 0x10000 then [n] else [0xd800 + (n - 0x10000) / 1024, 0xdc00 + (n - 0x10000) % 1024]

/-- The bytes of a text. -/
def encode (o : ByteOrder) (cs : List Char) : List UInt8 :=
  (cs.flatMap units).flatMap (o.bytes 2)

/-- Reads one or two units. -/
def reader (o : ByteOrder) : ByteReader where
  label := "utf-16" ++ o.suffix
  next b bs :=
    match bs with
    | [] => .error ⟨1, "truncated data"⟩
    | b' :: rest =>
      let n := o.value [b, b']
      if 0xd800 ≤ n ∧ n < 0xdc00 then
        match rest with
        | c :: c' :: _ =>
          let m := o.value [c, c']
          if 0xdc00 ≤ m ∧ m < 0xe000 then
            .ok ([Char.ofNat (0x10000 + (n - 0xd800) * 1024 + (m - 0xdc00))], 3)
          else .error ⟨2, "illegal UTF-16 surrogate"⟩
        | _ => .error ⟨2 + rest.length, "unexpected end of data"⟩
      else if 0xdc00 ≤ n ∧ n < 0xe000 then .error ⟨2, "illegal encoding"⟩
      else .ok ([Char.ofNat n], 1)

end Utf16

namespace Utf32

/-- The bytes of a text. -/
def encode (o : ByteOrder) (cs : List Char) : List UInt8 :=
  cs.flatMap fun c => o.bytes 4 c.toNat

/-- Reads one unit. -/
def reader (o : ByteOrder) : ByteReader where
  label := "utf-32" ++ o.suffix
  next b bs :=
    let unit := b :: bs.take 3
    if unit.length < 4 then .error ⟨unit.length, "truncated data"⟩
    else
      let n := o.value unit
      if 0xd800 ≤ n ∧ n < 0xe000 then
        .error ⟨4, "code point in surrogate code point range(0xd800, 0xe000)"⟩
      else if n < 0x110000 then .ok ([Char.ofNat n], 3)
      else .error ⟨4, "code point not in range(0x110000)"⟩

end Utf32

end Marginalia
