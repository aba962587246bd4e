/-
Texts in letters, digits and hyphens.

The first 128 characters of a text come first.  The others follow behind a hyphen as
numbers that tell where each is put in; a number has digits of base thirty-six, the lowest
first, and the digit that ends it is below a threshold that moves with the numbers before.
-/
import Marginalia.Text.Codec.Basic

namespace Marginalia

namespace Punycode

/-- The threshold of the digit at some place. -/
def threshold (place bias : Nat) : Nat :=
  let n := 36 * (place + 1)
  if n < bias + 1 then 1 else if n > bias + 26 then 26 else n - bias

/-- The part of the bias that large numbers give. -/
def divisions (delta : Nat) : Nat × Nat :=
  if 455 < delta then
    let (d, k) := divisions (delta / 35)
    (d, k + 36)
  else (delta, 0)
termination_by delta
decreasing_by omega

/-- The bias after a number. -/
def adapt (delta : Nat) (isFirst : Bool) (count : Nat) : Nat :=
  let delta := if isFirst then delta / 700 else delta / 2
  let (delta, k) := divisions (delta + delta / count)
  k + 36 * delta / (delta + 38)

/-- The character of a digit. -/
def digit (n : Nat) : Char := if n < 26 then Char.ofNat (97 + n) else Char.ofNat (22 + n)

theorem threshold_pos (place bias : Nat) : 1 ≤ threshold place bias := by
  simp only [threshold]
  split
  · omega
  · split <;> omega

/-- The digits of a number from a place on. -/
def digitsFrom (bias place n : Nat) : List Char :=
  let t := threshold place bias
  if n < t then [digit n]
  else digit (t + (n - t) % (36 - t)) :: digitsFrom bias (place + 1) ((n - t) / (36 - t))
termination_by n
decreasing_by
  have h := threshold_pos place bias
  have := Nat.div_le_self (n - threshold place bias) (36 - threshold place bias)
  omega

/-- What has been written of the characters put in. -/
structure Writing where
  /-- The digits so far, number by number, the last first. -/
  numbers : List (List Char) := []
  delta : Nat := 0
  bias : Nat := 72
  /-- How many characters stand already. -/
  count : Nat

/-- Goes past a character of the text while a code point is put in. -/
def Writing.pass (code : Nat) (w : Writing) (c : Char) : Writing :=
  if c.toNat < code then { w with delta := w.delta + 1 }
  else if c.toNat = code then
    { numbers := digitsFrom w.bias 0 w.delta :: w.numbers, delta := 0,
      bias := adapt w.delta w.numbers.isEmpty (w.count + 1), count := w.count + 1 }
  else w

/-- Puts code points in, in ascending order, after those below `done`. -/
def Writing.putIn (cs : List Char) : Nat → List Nat → Writing → Writing
  | _, [], w => w
  | done, n :: ns, w =>
    let w := { w with delta := w.delta + (n - done) * (w.count + 1) }
    let w := cs.foldl (Writing.pass n) w
    putIn cs (n + 1) ns { w with delta := w.delta + 1 }

/-- The characters that come first. -/
def basic (cs : List Char) : List Char := cs.filter fun c => c.toNat < 128

/-- A text in letters, digits and hyphens. -/
def encode (cs : List Char) : List Char :=
  let codes := ((cs.filter fun c => c.toNat ≥ 128).map Char.toNat).eraseDups.mergeSort (· ≤ ·)
  let start := basic cs
  let w := Writing.putIn cs 128 codes { count := start.length }
  (if start.isEmpty then [] else start ++ ['-']) ++ w.numbers.reverse.flatten

/-- What is wrong with a digit, or with there being none. -/
inductive DigitFault where
  | missing
  | wrong (c : Char)

/-- Reads a number; `weight` is that of the next digit. -/
def readNumber (bias : Nat) :
    Nat → Nat → Nat → List Char → Except DigitFault (Nat × List Char)
  | _, _, _, [] => .error .missing
  | place, weight, n, c :: cs =>
    let d? : Option Nat :=
      if 'A' ≤ c ∧ c ≤ 'Z' then some (c.toNat - 65)
      else if c.isDigit then some (c.toNat - 22)
      else none
    match d? with
    | none => .error (.wrong c)
    | some d =>
      let t := threshold place bias
      if d < t then .ok (n + d * weight, cs)
      else readNumber bias (place + 1) (weight * (36 - t)) (n + d * weight) cs

/-- What has been read of a text. -/
structure Reading where
  text : List Char
  code : Nat := 128
  /-- Where the next character goes if it is the same. -/
  place : Nat := 0
  bias : Nat := 72
  isFirst : Bool := true

/-- Puts characters in; `fuel` bounds their number.  Unless `strict`, what cannot be read
ends the text, and a number beyond all characters stands for a question mark. -/
def readFrom (strict : Bool) : Nat → Reading → List Char → Except String (List Char)
  | 0, r, _ | _, r, [] => .ok r.text
  | fuel + 1, r, cs =>
    match readNumber r.bias 0 1 0 cs with
    | .error fault =>
      if strict then .error (match fault with
        | .missing => "incomplete punicode string"
        | .wrong c => "Invalid extended code point '" ++ String.singleton c ++ "'")
      else .ok r.text
    | .ok (delta, rest) =>
      let size := r.text.length + 1
      let at_ := r.place + delta
      let code := r.code + at_ / size
      if code > 0x10ffff && strict then
        .error ("Invalid character U+" ++ String.ofList (Nat.toDigits 16 code))
      else
        let code := if code > 0x10ffff then '?'.toNat else code
        let place := at_ % size
        let text := r.text.take place ++ Char.ofNat code :: r.text.drop place
        readFrom strict fuel
          { text, code, place := place + 1, bias := adapt delta r.isFirst size, isFirst := false }
          rest

/-- Reads a text in letters, digits and hyphens. -/
def decode (handler : String) (bs : List UInt8) : Except CodecError (List Char) := do
  if !(["strict", "replace", "ignore"].contains handler) then
    throw (.refused ("Unsupported error handling " ++ handler))
  let behind := (bs.reverse.takeWhile (· != 45)).reverse
  let ascii := Bytewise.reader "ascii" 128
  let start ← ascii.read handler (bs.take (bs.length - behind.length - 1))
  let digits ← ascii.read "strict" behind
  match readFrom (handler == "strict") digits.length { text := start } (digits.map Char.toUpper) with
  | .ok cs => return cs
  | .error reason => throw (.refused reason)

end Punycode

end Marginalia
