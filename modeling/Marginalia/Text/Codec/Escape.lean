/-
Texts with backslash escapes as bytes.

In the full form everything but the visible first 128 characters is escaped; in the raw
form only the characters beyond the first 256 are, and nothing else is taken for an escape.
-/
import Marginalia.Text.Codec.Basic

namespace Marginalia

namespace Escape

/-- The bytes of characters below 256. -/
private def codes (cs : List Char) : List UInt8 := cs.map fun c => UInt8.ofNat c.toNat

/-- A character in the full form. -/
def escaped (c : Char) : List Char :=
  if c == '\\' then ['\\', '\\']
  else match letterEscape? c with
    | some cs => cs
    | none => if 32 ≤ c.toNat ∧ c.toNat < 127 then [c] else codeEscape c.toNat

/-- The full form of a text. -/
def encode (cs : List Char) : List UInt8 := codes (cs.flatMap escaped)

/-- The raw form of a text. -/
def encodeRaw (cs : List Char) : List UInt8 :=
  codes (cs.flatMap fun c => if c.toNat < 256 then [c] else codeEscape c.toNat)

/-- Whether a byte is a digit in base sixteen. -/
private def isHex (b : UInt8) : Bool :=
  let c := Char.ofNat b.toNat
  c.isDigit || ('a' ≤ c && c ≤ 'f') || ('A' ≤ c && c ≤ 'F')

/-- The value of digits in base sixteen. -/
private def hexOfBytes (bs : List UInt8) : Nat := hexValue (bs.map fun b => Char.ofNat b.toNat)

/-- Reads so many digits behind a backslash and a letter. -/
def readHex (count : Nat) (reason tooLarge : String) (bs : List UInt8) :
    Except BadBytes (List Char × Nat) :=
  let ds := (bs.take count).takeWhile isHex
  if ds.length < count then .error ⟨2 + ds.length, reason⟩
  else
    let n := hexOfBytes ds
    if n < 0x110000 then .ok ([Char.ofNat n], 1 + count) else .error ⟨2 + count, tooLarge⟩

/-- Reads a name in braces behind a backslash and its letter. -/
def readName (bs : List UInt8) : Except BadBytes (List Char × Nat) :=
  let malformed := "malformed \\N character escape"
  match bs with
  | 0x7b :: rest =>
    let name := rest.takeWhile (· != 0x7d)
    if name.length = rest.length then .error ⟨3 + name.length, malformed⟩
    else if name.isEmpty then .error ⟨3, malformed⟩
    else match charNamed? (String.ofList (name.map fun b => Char.ofNat b.toNat)) with
      | some c => .ok ([c], 3 + name.length)
      | none => .error ⟨4 + name.length, "unknown Unicode character name"⟩
  | _ => .error ⟨2, malformed⟩

/-- The character that a letter stands for behind a backslash. -/
def letter? : Char → Option (List Char)
  | '\n' => some []
  | '\\' => some ['\\']
  | '\'' => some ['\'']
  | '"' => some ['"']
  | 'b' => some ['\x08']
  | 'f' => some ['\x0c']
  | 't' => some ['\t']
  | 'n' => some ['\n']
  | 'r' => some ['\r']
  | 'v' => some ['\x0b']
  | 'a' => some ['\x07']
  | _ => none

/-- Whether a byte is a digit in base eight. -/
private def isOctal (b : UInt8) : Bool := 48 ≤ b && b < 56

/-- Reads the full form. -/
def reader : ByteReader where
  label := "unicodeescape"
  next b bs :=
    if b != 0x5c then .ok ([Char.ofNat b.toNat], 0)
    else match bs with
      | [] => .error ⟨1, "\\ at end of string"⟩
      | e :: rest =>
        let c := Char.ofNat e.toNat
        match letter? c with
        | some cs => .ok (cs, 1)
        | none =>
          if isOctal e then
            let ds := (bs.take 3).takeWhile isOctal
            .ok ([Char.ofNat (ds.foldl (fun n d => n * 8 + (d.toNat - 48)) 0)], ds.length)
          else match c with
            | 'x' => readHex 2 "truncated \\xXX escape" "illegal Unicode character" rest
            | 'u' => readHex 4 "truncated \\uXXXX escape" "illegal Unicode character" rest
            | 'U' => readHex 8 "truncated \\UXXXXXXXX escape" "illegal Unicode character" rest
            | 'N' => readName rest
            | c => .ok (['\\', c], 1)

/-- Reads the raw form. -/
def rawReader : ByteReader where
  label := "rawunicodeescape"
  next b bs :=
    if b != 0x5c then .ok ([Char.ofNat b.toNat], 0)
    else match bs with
      | [] => .ok (['\\'], 0)
      | e :: rest =>
        match Char.ofNat e.toNat with
        | 'u' => readHex 4 "truncated \\uXXXX escape" "\\Uxxxxxxxx out of range" rest
        | 'U' => readHex 8 "truncated \\UXXXXXXXX escape" "\\Uxxxxxxxx out of range" rest
        | c => .ok (['\\', c], 1)

end Escape

end Marginalia
