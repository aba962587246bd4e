/-
Sixty-four bit binary numbers, worked out exactly.

A `Binary64` is its bit pattern.  A finite one stands for `± mantissa · 2 ^ scale`,
and each operation takes that quotient, computes in `Nat` and rounds once with
`ofRatio`, so nothing here depends on the machine's own arithmetic.  A result
that is not a number keeps the first operand that was none; one born of two
numbers has the sign bit set.
-/

namespace Marginalia

/-- A number in the binary64 format, given by its bits. -/
structure Binary64 where
  bits : UInt64
deriving DecidableEq, Repr, Inhabited

namespace Binary64

/-- The sign bit. -/
def negative (x : Binary64) : Bool := x.bits.toNat ≥ Nat.pow 2 63

/-- The bits without the sign. -/
def magnitude (x : Binary64) : Nat := x.bits.toNat % Nat.pow 2 63

/-- The magnitude of infinity: all exponent bits set, no fraction. -/
def infiniteMagnitude : Nat := 2047 * Nat.pow 2 52

def isNaN (x : Binary64) : Bool := x.magnitude > infiniteMagnitude
def isInfinite (x : Binary64) : Bool := x.magnitude == infiniteMagnitude
def isFinite (x : Binary64) : Bool := x.magnitude < infiniteMagnitude
def isZero (x : Binary64) : Bool := x.magnitude == 0

/-- A bit pattern from a sign and a magnitude. -/
def ofMagnitude (neg : Bool) (m : Nat) : Binary64 :=
  ⟨UInt64.ofNat (m + if neg then Nat.pow 2 63 else 0)⟩

def zero (neg : Bool := false) : Binary64 := ofMagnitude neg 0
def infinity (neg : Bool := false) : Binary64 := ofMagnitude neg infiniteMagnitude

/-- The quiet pattern that reading a text as a number gives. -/
def nan : Binary64 := ofMagnitude false (infiniteMagnitude + Nat.pow 2 51)

/-- The quiet pattern of an operation that has no result. -/
def undefined : Binary64 := ofMagnitude true (infiniteMagnitude + Nat.pow 2 51)

/-- Sets the bit that makes a pattern quiet. -/
def quiet (x : Binary64) : Binary64 := ⟨x.bits ||| 0x8000000000000⟩

/-- The integer part of `mantissa · 2 ^ scale`. -/
def mantissa (x : Binary64) : Nat :=
  if x.magnitude < Nat.pow 2 52 then x.magnitude else x.magnitude % Nat.pow 2 52 + Nat.pow 2 52

/-- The power of two of a finite number. -/
def scale (x : Binary64) : Int :=
  (if x.magnitude < Nat.pow 2 52 then 1 else (x.magnitude / Nat.pow 2 52 : Nat)) - 1075

/-- A finite magnitude as a quotient of naturals. -/
def ratio (x : Binary64) : Nat × Nat :=
  if x.scale ≥ 0 then (x.mantissa * Nat.pow 2 x.scale.toNat, 1)
  else (x.mantissa, Nat.pow 2 (-x.scale).toNat)

/-- Rounds `n / d` to the nearest natural, a half to the even one. -/
def roundDiv (n d : Nat) : Nat :=
  let q := n / d
  let r := n % d
  if 2 * r > d ∨ (2 * r = d ∧ q % 2 = 1) then q + 1 else q

/-- `n / d` in units of `2 ^ q`, as a quotient. -/
private def inUnits (n d : Nat) (q : Int) : Nat × Nat :=
  if q ≥ 0 then (n, d * Nat.pow 2 q.toNat) else (n * Nat.pow 2 (-q).toNat, d)

/-- The magnitude nearest to `n / d`; it can reach `infiniteMagnitude` and beyond. -/
def nearestMagnitude (n d : Nat) : Nat :=
  if n = 0 then 0 else
    let low : Int := (n.log2 : Int) - d.log2 - 53
    let q₀ : Int := if low < -1074 then -1074 else low
    let (a, b) := inUnits n d q₀
    let q : Int := if a / b ≥ Nat.pow 2 53 then q₀ + 1 else q₀
    let (a, b) := inUnits n d q
    (q + 1074).toNat * Nat.pow 2 52 + roundDiv a b

/-- The number nearest to `± n / d`, or none when it lies beyond the largest one. -/
def ofRatio? (neg : Bool) (n d : Nat) : Option Binary64 :=
  let m := nearestMagnitude n d
  if m < infiniteMagnitude then some (ofMagnitude neg m) else none

/-- As `ofRatio?`, with infinity for what is too large. -/
def ofRatio (neg : Bool) (n d : Nat) : Binary64 :=
  (ofRatio? neg n d).getD (infinity neg)

/-- The nearest number to an integer, if it is in range. -/
def ofInt? (n : Int) : Option Binary64 := ofRatio? (n < 0) n.natAbs 1

/-- The order key: numbers that are not `NaN` compare as their keys do. -/
def key (x : Binary64) : Int := if x.negative then -(x.magnitude : Int) else x.magnitude

/-- Numerical equality: both zeros are equal, and `NaN` equals nothing. -/
def equals (x y : Binary64) : Bool := !x.isNaN && !y.isNaN && x.key == y.key

def less (x y : Binary64) : Bool := !x.isNaN && !y.isNaN && x.key < y.key

def lessEq (x y : Binary64) : Bool := !x.isNaN && !y.isNaN && x.key ≤ y.key

def neg (x : Binary64) : Binary64 := ofMagnitude (!x.negative) x.magnitude

/-- A signed quotient over a power of two, for the exact sum. -/
private def signedOver (x : Binary64) (q : Int) : Int :=
  let m : Int := x.mantissa * Nat.pow 2 (x.scale - q).toNat
  if x.negative then -m else m

private def ofScaled (neg : Bool) (n : Nat) (q : Int) : Binary64 :=
  if q ≥ 0 then ofRatio neg (n * Nat.pow 2 q.toNat) 1 else ofRatio neg n (Nat.pow 2 (-q).toNat)

/-- The operand that is not a number, if there is one. -/
private def passNaN (x y : Binary64) (otherwise : Unit → Binary64) : Binary64 :=
  if x.isNaN then x.quiet else if y.isNaN then y.quiet else otherwise ()

def add (x y : Binary64) : Binary64 := passNaN x y fun _ =>
  if x.isInfinite then
    if y.isInfinite && x.negative != y.negative then undefined else x
  else if y.isInfinite then y
  else
    let q := min x.scale y.scale
    let s := signedOver x q + signedOver y q
    if s = 0 then zero (x.negative && y.negative)
    else ofScaled (s < 0) s.natAbs q

def sub (x y : Binary64) : Binary64 := if y.isNaN then passNaN x y fun _ => y else add x y.neg

def mul (x y : Binary64) : Binary64 := passNaN x y fun _ =>
  let neg := x.negative != y.negative
  if x.isInfinite || y.isInfinite then
    if x.isZero || y.isZero then undefined else infinity neg
  else ofScaled neg (x.mantissa * y.mantissa) (x.scale + y.scale)

/-- The quotient; division by zero gives infinity or nothing, as the format lays down. -/
def div (x y : Binary64) : Binary64 := passNaN x y fun _ =>
  let neg := x.negative != y.negative
  if x.isInfinite then if y.isInfinite then undefined else infinity neg
  else if y.isInfinite then zero neg
  else if y.isZero then if x.isZero then undefined else infinity neg
  else
    let (a, b) := x.ratio
    let (c, d) := y.ratio
    ofRatio neg (a * d) (b * c)

/-- The remainder with the sign of the dividend; exact. -/
def remainder (x y : Binary64) : Binary64 := passNaN x y fun _ =>
  if x.isInfinite || y.isZero then undefined
  else if y.isInfinite || x.isZero then x
  else
    let q := min x.scale y.scale
    let a := x.mantissa * Nat.pow 2 (x.scale - q).toNat
    let b := y.mantissa * Nat.pow 2 (y.scale - q).toNat
    ofScaled x.negative (a % b) q

/-- The integer toward zero, for a finite number. -/
def truncate (x : Binary64) : Int :=
  let (a, b) := x.ratio
  let n : Int := (a / b : Nat)
  if x.negative then -n else n

/-- Whether a finite number has no fractional part. -/
def isIntegral (x : Binary64) : Bool :=
  x.isFinite && (let (a, b) := x.ratio; a % b == 0)

/-- The largest integral number that is not above. -/
def floor (x : Binary64) : Binary64 :=
  if !x.isFinite || x.isIntegral then x
  else
    let t := x.truncate
    let t := if x.negative then t - 1 else t
    ofRatio (t < 0 || (t == 0 && x.negative)) t.natAbs 1

/-- Gives a number the sign of another. -/
def withSign (x : Binary64) (neg : Bool) : Binary64 := ofMagnitude neg x.magnitude

/-- Through the machine's number, for the functions that have no exact rule. -/
def toFloat (x : Binary64) : Float := Float.ofBits x.bits

def ofFloat (f : Float) : Binary64 := if f.isNaN then undefined else ⟨f.toBits⟩

/-- Refines the root of a square from above, one step of Newton's method at a time. -/
private def rootBelow (n : Nat) : Nat → Nat → Nat
  | 0, r => r
  | k + 1, r =>
    let next := (r + n / r) / 2
    if next < r then rootBelow n k next else r

/-- The integral part of a square root. -/
def naturalRoot (n : Nat) : Nat :=
  if n = 0 then 0 else rootBelow n (n.log2 + 8) (Nat.pow 2 (n.log2 / 2 + 1))

/-- The length of the diagonal of a rectangle, rounded once. -/
def hypotenuse (x y : Binary64) : Binary64 :=
  if x.isInfinite || y.isInfinite then infinity
  else passNaN x y fun _ =>
    let q := min x.scale y.scale
    let a := x.mantissa * Nat.pow 2 (x.scale - q).toNat
    let b := y.mantissa * Nat.pow 2 (y.scale - q).toNat
    -- enough digits behind the point for the last one to say whether the root is exact
    let n := (a * a + b * b) * Nat.pow 4 64
    let r := naturalRoot n
    ofScaled false (2 * r + if r * r = n then 0 else 1) (q - 65)

/-- Exact comparison with an integer. -/
def compareInt (x : Binary64) (n : Int) : Option Ordering :=
  if x.isNaN then none
  else if x.isInfinite then some (if x.negative then .lt else .gt)
  else
    let (a, b) := x.ratio
    let s : Int := if x.negative then -(a : Int) else a
    some (compare s (n * b))

end Binary64

end Marginalia
