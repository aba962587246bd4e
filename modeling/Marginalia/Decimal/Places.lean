/-
Decimal texts with a given number of digits.

Finite magnitudes are rounded once, a tie to the even digit, and laid out with
so many places behind the point, in scientific form, or in the shorter of the
two.
-/
import Marginalia.Decimal.Shortest

namespace Marginalia

namespace Decimal

/-- Digits with a point before the last `places`. -/
def pointed (n places : Nat) (keepPoint : Bool) : String :=
  let ds := digits n
  let ds := List.replicate (places + 1 - ds.length) '0' ++ ds
  let whole := ds.take (ds.length - places)
  let rest := ds.drop (ds.length - places)
  String.ofList whole ++
    (if rest.isEmpty then (if keepPoint then "." else "") else "." ++ String.ofList rest)

/-- A magnitude with so many places behind the point. -/
def fixed (x : Binary64) (places : Nat) (keepPoint : Bool) : String :=
  let (n, d) := x.ratio
  pointed (roundTo n d places) places keepPoint

/-- A magnitude rounded to `places + 1` digits, with the exponent of the first one. -/
def significant (x : Binary64) (places : Nat) : Nat × Int :=
  if x.isZero then (0, 0)
  else
    let (n, d) := x.ratio
    let e := exponent n d
    let (a, b) := inUnits n d (e - places)
    let r := Binary64.roundDiv a b
    if r = Nat.pow 10 (places + 1) then (Nat.pow 10 places, e + 1) else (r, e)

/-- A magnitude in scientific form. -/
def scientific (x : Binary64) (places : Nat) (keepPoint : Bool) (mark : Char) : String :=
  let (n, e) := significant x places
  pointed n places keepPoint ++ exponentText e mark

/-- Drops zeros at the end of a fraction, and the point if nothing is left behind it. -/
def trimFraction (s : String) : String :=
  let cs := s.toList
  if cs.contains '.' then
    let cs := (cs.reverse.dropWhile (· == '0')).dropWhile (· == '.')
    String.ofList cs.reverse
  else s

/-- A magnitude with so many digits, positional for exponents from -4 up to that many. -/
def general (x : Binary64) (precision : Nat) (keepZeros : Bool) (mark : Char) : String :=
  let p := if precision = 0 then 1 else precision
  let (n, e) := significant x (p - 1)
  if -4 ≤ e ∧ e < p then
    let s := fixed x ((p : Int) - 1 - e).toNat keepZeros
    if keepZeros then s else trimFraction s
  else
    let s := pointed n (p - 1) keepZeros
    (if keepZeros then s else trimFraction s) ++ exponentText e mark

end Decimal

end Marginalia
