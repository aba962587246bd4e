/-
Decimal texts of binary64 numbers.

`shortest` gives the fewest digits that read back as the same number, and of
those the nearest; `roundTo` rounds to a given decimal place, a tie to the even
digit.  How the digits are laid out (where positional notation ends, whether a
lone `.0` is kept) is one record, `Style`.
-/
import Marginalia.Decimal.Binary64

namespace Marginalia

namespace Decimal

/-- The digits of a natural in base ten. -/
def digits (n : Nat) : List Char := Nat.toDigits 10 n

/-- The exponent `k` with `10 ^ k ≤ n / d < 10 ^ (k + 1)`, for `0 < n`. -/
def exponent (n d : Nat) : Int :=
  if n ≥ d then ((digits (n / d)).length : Int) - 1
  else -((digits ((d + n - 1) / n - 1)).length : Int)

/-- `n / d` in units of `10 ^ s`, as a quotient. -/
def inUnits (n d : Nat) (s : Int) : Nat × Nat :=
  if s ≥ 0 then (n, d * Nat.pow 10 s.toNat) else (n * Nat.pow 10 (-s).toNat, d)

/-- The open or closed interval of reals that round to a positive finite number,
in units of `2 ^ (scale - 2)`, with its ends. -/
private def interval (x : Binary64) : Nat × Nat × Bool :=
  let m := x.mantissa
  let below := if m = Nat.pow 2 52 ∧ x.scale > -1074 then 1 else 2
  (4 * m - below, 4 * m + 2, m % 2 == 0)

/-- Whether `c · 10 ^ s` rounds to the number whose interval is given. -/
private def reads (x : Binary64) (c : Nat) (s : Int) : Bool :=
  let (lo, hi, closed) := interval x
  let q := x.scale - 2
  let c₁ := if s ≥ 0 then c * Nat.pow 10 s.toNat else c
  let k := if s ≥ 0 then 1 else Nat.pow 10 (-s).toNat
  let p₁ := if q ≥ 0 then 1 else Nat.pow 2 (-q).toNat
  let p₂ := if q ≥ 0 then Nat.pow 2 q.toNat else 1
  let v := c₁ * p₁
  let l := lo * p₂ * k
  let h := hi * p₂ * k
  if closed then l ≤ v && v ≤ h else l < v && v < h

/-- The best of the two points of the grid of `k` digits around the number, if
one of them reads back: the nearer, and of two equally near the even one. -/
private def onGrid (x : Binary64) (e : Int) (k : Nat) : Option (Nat × Int) :=
  let s := e - (k : Int) + 1
  let (n, d) := x.ratio
  let (a, b) := inUnits n d s
  let c := a / b
  let r := a % b
  let lower := r ≠ 0 → reads x c s
  let upper := r ≠ 0 ∧ reads x (c + 1) s
  if lower ∧ upper then
    if 2 * r < b ∨ (2 * r = b ∧ c % 2 = 0) then some (c, s) else some (c + 1, s)
  else if lower then some (c, s)
  else if upper then some (c + 1, s)
  else none

/-- Digits and the exponent of the first one, for a positive finite number:
the fewest digits that read back. -/
def shortest (x : Binary64) : List Char × Int :=
  let (n, d) := x.ratio
  let e := exponent n d
  let found := (List.range 17).findSome? fun k => onGrid x e (k + 1)
  let (c, s) := found.getD (Binary64.roundDiv (inUnits n d (e - 16)).1 (inUnits n d (e - 16)).2, e - 16)
  let ds := digits c
  let trimmed := (ds.reverse.dropWhile (· == '0')).reverse
  (trimmed, s + ds.length - 1)

/-- `n / d` rounded to `places` decimals, as the integer of its last place. -/
def roundTo (n d places : Nat) : Nat := Binary64.roundDiv (n * Nat.pow 10 places) d

/-- How a number is laid out. -/
structure Style where
  /-- Exponents from this one up are positional. -/
  least : Int := -4
  /-- Exponents from this one up are scientific. -/
  limit : Int := 16
  /-- An integral number keeps `.0`. -/
  pointZero : Bool := true
deriving DecidableEq, Repr

/-- An exponent has a sign and at least two digits. -/
def exponentText (e : Int) (mark : Char) : String :=
  let ds := toString e.natAbs
  let ds := if ds.length < 2 then "0" ++ ds else ds
  String.singleton mark ++ (if e < 0 then "-" else "+") ++ ds

/-- Lays out digits whose first one has the given exponent. -/
def layout (style : Style) (ds : List Char) (e : Int) : String :=
  if style.least ≤ e ∧ e < style.limit then
    if e < 0 then "0." ++ String.ofList (List.replicate (-e - 1).toNat '0' ++ ds)
    else
      let whole := ds.take (e.toNat + 1)
      let pad := List.replicate (e.toNat + 1 - ds.length) '0'
      let rest := ds.drop (e.toNat + 1)
      let tail := if rest.isEmpty then (if style.pointZero then ".0" else "") else "." ++ String.ofList rest
      String.ofList (whole ++ pad) ++ tail
  else
    let rest := ds.drop 1
    String.ofList (ds.take 1) ++ (if rest.isEmpty then "" else "." ++ String.ofList rest) ++ exponentText e 'e'

/-- The text of any number in a style. -/
def text (style : Style) (x : Binary64) : String :=
  if x.isNaN then "nan"
  else
    let sign := if x.negative then "-" else ""
    if x.isInfinite then sign ++ "inf"
    else if x.isZero then sign ++ layout style ['0'] 0
    else
      let (ds, e) := shortest x
      sign ++ layout style ds e

end Decimal

end Marginalia
