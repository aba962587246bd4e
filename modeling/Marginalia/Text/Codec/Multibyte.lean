/-
Encodings in which the first bytes of a character tell how many it has.

`Multibyte` says what an encoding makes of characters and bytes as numbers; `reader` and
`writer` turn texts.
-/
import Marginalia.Text.Charset.Grid
import Marginalia.Text.Codec.Basic

namespace Marginalia

/-- An encoding whose characters have one byte or several. -/
structure Multibyte where
  /-- The name of the encoding in refusals. -/
  label : String
  /-- How many bytes a character has that starts with a byte, and then another one if there is
  one; none if no character starts so. -/
  size? : Nat → Option Nat → Option Nat
  /-- The characters that bytes stand for. -/
  read : List Nat → Option (List Char)
  /-- The bytes of a character, or of that character and the one behind it; says whether both
  are written. -/
  write : Char → Option Char → Option (List Nat × Bool)
  /-- How many bytes of a character are refused if they stand for nothing. -/
  refused : List Nat → Nat := fun _ => 1

namespace Multibyte

/-- What is wrong with bytes or with a character. -/
def illegal : String := "illegal multibyte sequence"

/-- What is wrong with bytes at the end. -/
def incomplete : String := "incomplete multibyte sequence"

/-- Reads a character of one byte or several. -/
def reader (m : Multibyte) : ByteReader where
  label := m.label
  next b bs :=
    match m.size? b.toNat (bs.head?.map UInt8.toNat) with
    | none => .error ⟨1, illegal⟩
    | some n =>
      let unit := (b :: bs.take (n - 1)).map UInt8.toNat
      if unit.length < n then .error ⟨unit.length, incomplete⟩
      else match m.read unit with
        | some cs => .ok (cs, n - 1)
        | none => .error ⟨m.refused unit, illegal⟩

/-- Writes a character. -/
def writer (m : Multibyte) : StateWriter Unit where
  label := m.label
  reason := illegal
  inRuns := false
  start := ()
  next _ c cs := (m.write c cs.head?).map fun (ns, both) =>
    (ns.map UInt8.ofNat, if both then 1 else 0, ())
  finish _ := []

/-- How many bytes there are when all but the first 128 characters have two. -/
def oneOrTwo (b : Nat) (_ : Option Nat) : Option Nat := some (if b < 0x80 then 1 else 2)

/-- An encoding in which the first 128 characters have one byte and the others two. -/
def pairs (label : String) (read : Nat → Nat → Option Char)
    (write : Char → Option (Nat × Nat)) : Multibyte where
  label
  size? := oneOrTwo
  read
    | [b] => some [Char.ofNat b]
    | [a, b] => (read a b).map ([·])
    | _ => none
  write c _ :=
    if c.toNat < 0x80 then some ([c.toNat], false)
    else (write c).map fun (a, b) => ([a, b], false)

end Multibyte

namespace UpperHalf

/-- The place among rows and cells up to 94 that two bytes of the upper half name. -/
def place (a b : Nat) : Grid.Place := (a - 0xa0, b - 0xa0)

/-- The two bytes of the upper half that name a place. -/
def bytes (p : Grid.Place) : Nat × Nat := (p.1 + 0xa0, p.2 + 0xa0)

end UpperHalf

end Marginalia
