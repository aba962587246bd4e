/-
Encodings of Korean texts.

The basic set has only some of the syllables; the encodings beyond it count the others, spell
them, or name each by the letters it is made of.
-/
import Marginalia.Text.Charset.Ksx1001
import Marginalia.Text.Codec.Multibyte

namespace Marginalia

namespace Korean

/-- The code point of the first syllable. -/
def firstSyllable : Nat := 0xac00

/-- How many syllables there are. -/
def syllableCount : Nat := 11172

/-- The parts of a syllable: its first letter, its vowel, and its last letter or none. -/
def parts? (c : Char) : Option (Nat × Nat × Nat) :=
  if firstSyllable ≤ c.toNat ∧ c.toNat < firstSyllable + syllableCount then
    let n := c.toNat - firstSyllable
    some (n / 588, n / 28 % 21, n % 28)
  else none

/-- The syllable with some parts. -/
def syllable (first vowel last : Nat) : Char :=
  Char.ofNat (firstSyllable + first * 588 + vowel * 28 + last)

/-- The letters a syllable can start with. -/
def initials : List Char :=
  ['ㄱ', 'ㄲ', 'ㄴ', 'ㄷ', 'ㄸ', 'ㄹ', 'ㅁ', 'ㅂ', 'ㅃ', 'ㅅ', 'ㅆ', 'ㅇ', 'ㅈ', 'ㅉ', 'ㅊ', 'ㅋ', 'ㅌ', 'ㅍ', 'ㅎ']

/-- The letters a syllable can end with. -/
def finals : List Char :=
  ['ㄱ', 'ㄲ', 'ㄳ', 'ㄴ', 'ㄵ', 'ㄶ', 'ㄷ', 'ㄹ', 'ㄺ', 'ㄻ', 'ㄼ', 'ㄽ', 'ㄾ', 'ㄿ', 'ㅀ', 'ㅁ', 'ㅂ', 'ㅄ',
    'ㅅ', 'ㅆ', 'ㅇ', 'ㅈ', 'ㅊ', 'ㅋ', 'ㅌ', 'ㅍ', 'ㅎ']

/-- The code point of the first vowel. -/
def firstVowel : Nat := 0x314f

/-- The first byte of letters. -/
def letterRow : Nat := 0xa4

/-- The second byte of the sign for a letter that is missing. -/
def fillerByte : Nat := 0xd4

/-- The second byte of a letter. -/
def letterByte (c : Char) : Nat := c.toNat - 0x3131 + 0xa1

/-- The letter with a second byte. -/
def letter (b : Nat) : Char := Char.ofNat (0x3131 + (b - 0xa1))

/-- The syllable that four letters spell, the first of which is the filler. -/
def spelled? : List Nat → Option Char
  | [_, _, r, first, r', vowel, r'', last] => do
    if r = letterRow ∧ r' = letterRow ∧ r'' = letterRow ∧ 0xbf ≤ vowel ∧ vowel ≤ 0xd3 ∧
        0xa1 ≤ first ∧ 0xa1 ≤ last then
      let i ← initials.idxOf? (letter first)
      let k ← if last = fillerByte then some 0 else (finals.idxOf? (letter last)).map (· + 1)
      return syllable i (vowel - 0xbf) k
    else none
  | _ => none

/-- The bytes of a syllable that is spelled. -/
def spelling? (c : Char) : Option (List Nat) := do
  let (i, v, k) ← parts? c
  let first ← initials[i]?
  let last := if k = 0 then fillerByte else ((finals[k - 1]?).map letterByte).getD fillerByte
  return [letterRow, fillerByte, letterRow, letterByte first, letterRow, v + 0xbf, letterRow, last]

/-- The basic set; other syllables are spelled. -/
def basic : Multibyte where
  label := "euc_kr"
  size? b next :=
    if b < 0x80 then some 1
    else if b = letterRow ∧ next = some fillerByte then some 8
    else some 2
  read
    | [b] => some [Char.ofNat b]
    | [a, b] => (Charset.ksx1001.char? (UpperHalf.place a b)).map ([·])
    | bs => (spelled? bs).map ([·])
  write c _ :=
    if c.toNat < 0x80 then some ([c.toNat], false)
    else match Charset.ksx1001.place? c with
      | some p => some ([(UpperHalf.bytes p).1, (UpperHalf.bytes p).2], false)
      | none => (spelling? c).map (·, false)

/-- The syllables that are not in the basic set. -/
def otherSyllables : Array Char :=
  let mark (seen : Array Bool) (c : Char) : Array Bool :=
    if firstSyllable ≤ c.toNat then seen.setIfInBounds (c.toNat - firstSyllable) true else seen
  let seen := Charset.ksx1001.rows.foldl (fun seen row => row.foldl mark seen)
    (Array.replicate syllableCount false)
  (seen.toList.zipIdx.filterMap fun (here, i) =>
    if here then none else some (Char.ofNat (firstSyllable + i))).toArray

/-- The number of a second byte: capitals, small letters, and the upper half. -/
def secondIndex? (b : Nat) : Option Nat :=
  if 0x41 ≤ b ∧ b ≤ 0x5a then some (b - 0x41)
  else if 0x61 ≤ b ∧ b ≤ 0x7a then some (b - 0x47)
  else if 0x81 ≤ b ∧ b ≤ 0xfe then some (b - 0x4d)
  else none

/-- The second byte with a number. -/
def secondByte (i : Nat) : Nat :=
  if i < 26 then 0x41 + i else if i < 52 then 0x47 + i else 0x4d + i

/-- The number of another syllable by its bytes. -/
def otherIndex? (a b : Nat) : Option Nat := do
  let i ← secondIndex? b
  if 0x81 ≤ a ∧ a ≤ 0xa0 then some ((a - 0x81) * 178 + i)
  else if 0xa1 ≤ a ∧ i < 84 then some (32 * 178 + (a - 0xa1) * 84 + i)
  else none

/-- The bytes of another syllable. -/
def otherBytes (n : Nat) : Nat × Nat :=
  if n < 32 * 178 then (0x81 + n / 178, secondByte (n % 178))
  else (0xa1 + (n - 32 * 178) / 84, secondByte ((n - 32 * 178) % 84))

/-- The basic set and all syllables. -/
def unified : Multibyte :=
  .pairs "cp949"
    (fun a b => (Charset.ksx1001.char? (UpperHalf.place a b)).or
      ((otherIndex? a b).bind fun n => otherSyllables[n]?))
    fun c => ((Charset.ksx1001.place? c).map UpperHalf.bytes).or
      ((otherSyllables.idxOf? c).map otherBytes)

/-- Numbers of five bits for first letters; as in the lists below, the first of them stands
for none. -/
def initialCodes : List Nat := List.range' 1 20

/-- Numbers of five bits for vowels. -/
def vowelCodes : List Nat :=
  List.range' 2 6 ++ List.range' 10 6 ++ List.range' 18 6 ++ List.range' 26 4

/-- Numbers of five bits for last letters. -/
def finalCodes : List Nat := List.range' 1 17 ++ List.range' 19 11

/-- The character of three numbers of five bits. -/
def combined? (n : Nat) : Option Char := do
  let i ← initialCodes.idxOf? (n / 1024 % 32)
  let v ← vowelCodes.idxOf? (n / 32 % 32)
  let k ← finalCodes.idxOf? (n % 32)
  match i, v, k with
  | 0, 0, 0 => some '\u3000'
  | 0, 0, k => finals[k - 1]?
  | 0, v, 0 => some (Char.ofNat (firstVowel + (v - 1)))
  | 0, _, _ => none
  | i, 0, 0 => initials[i - 1]?
  | _, 0, _ => none
  | i, v, k => some (syllable (i - 1) (v - 1) k)

/-- The three numbers of a syllable or a letter. -/
def combination? (c : Char) : Option (Nat × Nat) := do
  let (i, v, k) ← match parts? c with
    | some (i, v, k) => some (i + 1, v + 1, k)
    | none =>
      match initials.idxOf? c, finals.idxOf? c with
      | some i, _ => some (i + 1, 0, 0)
      | none, some k => some (0, 0, k + 1)
      | none, none =>
        if firstVowel ≤ c.toNat ∧ c.toNat < firstVowel + 21 then
          some (0, c.toNat - firstVowel + 1, 0)
        else none
  let n := 0x8000 + (initialCodes[i]?.getD 0) * 1024 + (vowelCodes[v]?.getD 0) * 32 +
    finalCodes[k]?.getD 0
  return (n / 256, n % 256)

/-- Where the signs and hanja of the basic set stand: two rows to a first byte. -/
def signPlace? (a b : Nat) : Option Grid.Place := do
  let i ← if 0x31 ≤ b ∧ b ≤ 0x7e then some (b - 0x31)
    else if 0x91 ≤ b ∧ b ≤ 0xfe then some (b - 0x43)
    else none
  if a = 0xda ∧ 0xa1 ≤ b ∧ b ≤ 0xd3 then none
  else if 0xd9 ≤ a ∧ a ≤ 0xde then some (2 * (a - 0xd9) + i / 94 + 1, i % 94 + 1)
  else if 0xe0 ≤ a ∧ a ≤ 0xf9 then some (2 * (a - 0xe0) + 42 + i / 94, i % 94 + 1)
  else none

/-- The bytes of a sign or hanja. -/
def signBytes? (p : Grid.Place) : Option (Nat × Nat) :=
  let at_ (lead row : Nat) : Nat × Nat :=
    let i := row % 2 * 94 + (p.2 - 1)
    (lead + row / 2, if i < 78 then i + 0x31 else i + 0x43)
  if 1 ≤ p.1 ∧ p.1 ≤ 12 then some (at_ 0xd9 (p.1 - 1))
  else if 42 ≤ p.1 ∧ p.1 ≤ 93 then some (at_ 0xe0 (p.1 - 42))
  else none

/-- Syllables and letters by their parts, and the other characters of the basic set. -/
def combining : Multibyte :=
  .pairs "johab"
    (fun a b =>
      if a < 0xd8 then combined? (a * 256 + b)
      else (signPlace? a b).bind Charset.ksx1001.char?)
    fun c => (combination? c).or ((Charset.ksx1001.place? c).bind signBytes?)

end Korean

end Marginalia
