/-
Arithmetic on quantities.

Integers are exact; real and complex numbers follow the binary64 format.  The
only results that are not worked out exactly are powers, which go through the
machine's own functions.
-/
import Marginalia.Fault
import Marginalia.Value.Equal

namespace Marginalia

/-- The arithmetic operators. -/
inductive BinaryOp where
  | add | sub | mul | div | floorDiv | mod | pow
  | shiftLeft | shiftRight | bitOr | bitXor | bitAnd | matMul
deriving DecidableEq, Repr

/-- How an operator is spelled in a refusal. -/
def BinaryOp.symbol : BinaryOp → String
  | add => "+"
  | sub => "-"
  | mul => "*"
  | div => "/"
  | floorDiv => "//"
  | mod => "%"
  | pow => "** or pow()"
  | shiftLeft => "<<"
  | shiftRight => ">>"
  | bitOr => "|"
  | bitXor => "^"
  | bitAnd => "&"
  | matMul => "@"

namespace IntBits

/-- Bitwise and, in two's complement. -/
def and : Int → Int → Int
  | .ofNat m, .ofNat n => .ofNat (m &&& n)
  | .ofNat m, .negSucc n => .ofNat (m ^^^ (m &&& n))
  | .negSucc m, .ofNat n => .ofNat (n ^^^ (m &&& n))
  | .negSucc m, .negSucc n => .negSucc (m ||| n)

/-- Bitwise or, in two's complement. -/
def or : Int → Int → Int
  | .ofNat m, .ofNat n => .ofNat (m ||| n)
  | .ofNat m, .negSucc n => .negSucc (n ^^^ (m &&& n))
  | .negSucc m, .ofNat n => .negSucc (m ^^^ (m &&& n))
  | .negSucc m, .negSucc n => .negSucc (m &&& n)

/-- Bitwise exclusive or, in two's complement. -/
def xor : Int → Int → Int
  | .ofNat m, .ofNat n => .ofNat (m ^^^ n)
  | .ofNat m, .negSucc n => .negSucc (m ^^^ n)
  | .negSucc m, .ofNat n => .negSucc (m ^^^ n)
  | .negSucc m, .negSucc n => .ofNat (m ^^^ n)

/-- Bitwise complement. -/
def complement (n : Int) : Int := -n - 1

/-- The number of binary digits of the magnitude. -/
def length (n : Int) : Nat := if n = 0 then 0 else n.natAbs.log2 + 1

/-- The number of binary digits beyond which an integer is not made. -/
def limit : Nat := Nat.pow 2 33

/-- `n · 2 ^ k`. -/
def shiftLeft (n k : Int) : Except Fault Int :=
  if k < 0 then .error (.valueError "negative shift count")
  else if n = 0 then .ok 0
  else if k ≥ Nat.pow 2 63 then .error (.overflow "too many digits in integer")
  else if k ≥ limit then .error .memory
  else .ok (n * Nat.pow 2 k.toNat)

/-- `n / 2 ^ k`, rounded down. -/
def shiftRight (n k : Int) : Except Fault Int :=
  if k < 0 then .error (.valueError "negative shift count")
  else if k ≥ length n then .ok (if n < 0 then -1 else 0)
  else .ok (n.fdiv (Nat.pow 2 k.toNat))

/-- `a ^ b` for a natural `b`. -/
def power (a : Int) (b : Nat) : Except Fault Int :=
  if b = 0 then .ok 1
  else if a.natAbs ≤ 1 then .ok (if b % 2 = 0 then a * a else a)
  else if length a * b > limit then .error .memory
  else
    let m : Int := Nat.pow a.natAbs b
    .ok (if a < 0 ∧ b % 2 = 1 then -m else m)

end IntBits

/-- The nearest real number to an integer. -/
def realOfInt (n : Int) : Except Fault Binary64 :=
  match Binary64.ofInt? n with
  | some x => .ok x
  | none => .error (.overflow "int too large to convert to float")

namespace Binary64

/-- The number one. -/
def one : Binary64 := ofRatio false 1 1

/-- The number two. -/
def two : Binary64 := ofRatio false 2 1

/-- A half. -/
def half : Binary64 := ofRatio false 1 2

/-- Adjusts a quotient and a remainder so that the remainder has the divisor's sign. -/
private def adjusted (x y : Binary64) : Binary64 × Binary64 :=
  let r := x.remainder y
  let q := (x.sub r).div y
  if r.isZero then (q, zero y.negative)
  else if !r.isNaN && y.negative != r.negative then (q.sub one, r.add y)
  else (q, r)

/-- The quotient rounded down, for a divisor that is not zero. -/
def floorDiv (x y : Binary64) : Binary64 :=
  let q := (adjusted x y).1
  if q.isZero then zero (x.div y).negative
  else
    let f := q.floor
    if half.less (q.sub f) then f.add one else f

/-- The remainder with the sign of the divisor, for a divisor that is not zero. -/
def modulo (x y : Binary64) : Binary64 := (adjusted x y).2

/-- Whether a number is an odd integer. -/
def isOdd (x : Binary64) : Bool := ((x.withSign false).remainder two).equals one

/-- `x ^ y` for a positive finite `x` other than one and a finite `y` other than zero. -/
def positivePower (x y : Binary64) : Except Fault Binary64 :=
  let r := ofFloat (Float.pow x.toFloat y.toFloat)
  if r.isInfinite then .error (.overflow "(34, 'Numerical result out of range')") else .ok r

/-- `x ^ y`; none when it is a complex number. -/
def power (x y : Binary64) : Except Fault (Option Binary64) :=
  if y.isZero then .ok (some one)
  else if x.isNaN then .ok (some x)
  else if y.isNaN then .ok (some (if x.equals one then one else y))
  else if y.isInfinite then
    let m := x.withSign false
    .ok (some (if m.equals one then one
      else if y.negative != (one.less m) then infinity false
      else zero false))
  else if x.isInfinite then
    .ok (some (if !y.negative then (if y.isOdd then x else x.withSign false)
      else if y.isOdd then zero x.negative else zero false))
  else if x.isZero then
    if y.negative then .error (.zeroDivision "0.0 cannot be raised to a negative power")
    else .ok (some (if y.isOdd then x else zero false))
  else if x.negative && !y.isIntegral then .ok none
  else
    let m := x.withSign false
    let sign (r : Binary64) : Binary64 := if x.negative && y.isOdd then r.neg else r
    if m.equals one then .ok (some (sign one))
    else (positivePower m y).map fun r => some (sign r)

end Binary64

/-- A complex number by its parts. -/
structure Parts where
  re : Binary64
  im : Binary64

namespace Parts

def add (a b : Parts) : Parts := ⟨a.re.add b.re, a.im.add b.im⟩
def sub (a b : Parts) : Parts := ⟨a.re.sub b.re, a.im.sub b.im⟩

def mul (a b : Parts) : Parts :=
  ⟨(a.re.mul b.re).sub (a.im.mul b.im), (a.re.mul b.im).add (a.im.mul b.re)⟩

def isZero (a : Parts) : Bool := a.re.isZero && a.im.isZero

/-- The quotient by the part of larger magnitude; none for a zero divisor. -/
def div? (a b : Parts) : Option Parts :=
  let m := b.re.withSign false
  let n := b.im.withSign false
  if n.lessEq m then
    if m.isZero then none
    else
      let r := b.im.div b.re
      let d := b.re.add (b.im.mul r)
      some ⟨(a.re.add (a.im.mul r)).div d, (a.im.sub (a.re.mul r)).div d⟩
  else if m.lessEq n then
    let r := b.re.div b.im
    let d := (b.re.mul r).add b.im
    some ⟨((a.re.mul r).add a.im).div d, ((a.im.mul r).sub a.re).div d⟩
  else some ⟨Binary64.nan, Binary64.nan⟩

/-- The number one. -/
def one : Parts := ⟨Binary64.one, Binary64.zero false⟩

/-- A natural power by repeated squaring; `r` is what has been gathered. -/
private def squaring (p r : Parts) (n : Nat) : Parts :=
  if h : n = 0 then r
  else squaring (p.mul p) (if n % 2 = 1 then r.mul p else r) (n / 2)
termination_by n
decreasing_by omega

/-- A natural power. -/
def naturalPower (a : Parts) (n : Nat) : Parts := squaring a one n

/-- The magnitude, rounded once. -/
def magnitude (a : Parts) : Binary64 := a.re.hypotenuse a.im

/-- What a function of the machine gives for a number. -/
private def viaFloat (f : Float → Float) (x : Binary64) : Binary64 :=
  if x.isNaN then x.quiet else Binary64.ofFloat (f x.toFloat)

/-- What a function of the machine gives for two numbers. -/
private def viaFloat₂ (f : Float → Float → Float) (x y : Binary64) : Binary64 :=
  if x.isNaN || y.isNaN then x.add y else Binary64.ofFloat (f x.toFloat y.toFloat)

/-- The machine's power of a magnitude; anything to the power zero is one, and so is
any power of one. -/
private def magnitudePower (m y : Binary64) : Binary64 :=
  if y.isZero || m.equals Binary64.one then Binary64.one else viaFloat₂ Float.pow m y

/-- A power in polar form, for a base that is not zero; none when the angle is infinite. -/
private def polarPower (a b : Parts) : Option Parts :=
  let m := a.magnitude
  let angle := (viaFloat₂ (fun x y => Float.atan2 y x) a.re a.im)
  let len := magnitudePower m b.re
  let phase := angle.mul b.re
  let len := if b.im.isZero then len else len.div (viaFloat Float.exp (angle.mul b.im))
  let phase := if b.im.isZero then phase else phase.add (b.im.mul (viaFloat Float.log m))
  if phase.isInfinite then none
  else some ⟨len.mul (viaFloat Float.cos phase), len.mul (viaFloat Float.sin phase)⟩

/-- `a ^ b`. -/
def power (a b : Parts) : Except Fault Parts :=
  let noPower := Fault.zeroDivision "0.0 to a negative or complex power"
  let result : Except Fault Parts :=
    if b.im.isZero && b.re.isIntegral && b.re.truncate.natAbs ≤ 100 then
      let n := b.re.truncate
      if n > 0 then .ok (a.naturalPower n.toNat)
      else match one.div? (a.naturalPower n.natAbs) with
        | some r => .ok r
        | none => .error noPower
    else if a.isZero then
      if !b.im.isZero || b.re.negative then .error noPower
      else .ok ⟨Binary64.zero false, Binary64.zero false⟩
    else match polarPower a b with
      | some r => .ok r
      | none => .error noPower
  result.bind fun r =>
    if r.re.isInfinite || r.im.isInfinite then .error (.overflow "complex exponentiation")
    else .ok r

end Parts

namespace Quantity

/-- A quantity as a real number, if it is not complex. -/
def toReal? : Quantity → Option (Except Fault Binary64)
  | int n => some (realOfInt n)
  | real x => some (.ok x)
  | complex _ _ => none

/-- A quantity as a complex number. -/
def toParts : Quantity → Except Fault Parts
  | int n => (realOfInt n).map fun x => ⟨x, Binary64.zero false⟩
  | real x => .ok ⟨x, Binary64.zero false⟩
  | complex re im => .ok ⟨re, im⟩

/-- True division of integers, rounded once. -/
def intQuotient (m n : Int) : Except Fault Value :=
  if n = 0 then .error (.zeroDivision "division by zero")
  else match Binary64.ofRatio? ((m < 0) != (n < 0)) m.natAbs n.natAbs with
    | some x => .ok (.float x 0)
    | none => .error (.overflow "integer division result too large for a float")

/-- A complex number as a value. -/
def ofParts (p : Parts) : Value := .complex p.re p.im 0

/-- A power of real numbers, complex where no real one exists. -/
def realPower (x y : Binary64) : Except Fault Value := do
  match ← x.power y with
  | some r => return .float r 0
  | none => return ofParts (← Parts.power ⟨x, Binary64.zero false⟩ ⟨y, Binary64.zero false⟩)

/-- A power of integers; a negative exponent makes it one of real numbers. -/
def intPower (m n : Int) : Except Fault Value := do
  if n ≥ 0 then return .int (← IntBits.power m n.toNat)
  realPower (← realOfInt m) (← realOfInt n)

/-- The rule of an operator for integers. -/
def intRule : BinaryOp → Option (Int → Int → Except Fault Value)
  | .add => some fun m n => .ok (.int (m + n))
  | .sub => some fun m n => .ok (.int (m - n))
  | .mul => some fun m n => .ok (.int (m * n))
  | .div => some intQuotient
  | .floorDiv => some fun m n =>
    if n = 0 then .error (.zeroDivision "integer division or modulo by zero")
    else .ok (.int (m.fdiv n))
  | .mod => some fun m n =>
    if n = 0 then .error (.zeroDivision "integer modulo by zero") else .ok (.int (m.fmod n))
  | .pow => some intPower
  | .shiftLeft => some fun m n => (IntBits.shiftLeft m n).map Value.int
  | .shiftRight => some fun m n => (IntBits.shiftRight m n).map Value.int
  | .bitOr => some fun m n => .ok (.int (IntBits.or m n))
  | .bitXor => some fun m n => .ok (.int (IntBits.xor m n))
  | .bitAnd => some fun m n => .ok (.int (IntBits.and m n))
  | .matMul => none

/-- The rule of an operator for real numbers. -/
def realRule : BinaryOp → Option (Binary64 → Binary64 → Except Fault Value)
  | .add => some fun x y => .ok (.float (x.add y) 0)
  | .sub => some fun x y => .ok (.float (x.sub y) 0)
  | .mul => some fun x y => .ok (.float (x.mul y) 0)
  | .div => some fun x y =>
    if y.isZero then .error (.zeroDivision "float division by zero")
    else .ok (.float (x.div y) 0)
  | .floorDiv => some fun x y =>
    if y.isZero then .error (.zeroDivision "float floor division by zero")
    else .ok (.float (x.floorDiv y) 0)
  | .mod => some fun x y =>
    if y.isZero then .error (.zeroDivision "float modulo") else .ok (.float (x.modulo y) 0)
  | .pow => some realPower
  | _ => none

/-- The rule of an operator for complex numbers. -/
def partsRule : BinaryOp → Option (Parts → Parts → Except Fault Value)
  | .add => some fun a b => .ok (ofParts (a.add b))
  | .sub => some fun a b => .ok (ofParts (a.sub b))
  | .mul => some fun a b => .ok (ofParts (a.mul b))
  | .div => some fun a b => match a.div? b with
    | some r => .ok (ofParts r)
    | none => .error (.zeroDivision "complex division by zero")
  | .pow => some fun a b => (Parts.power a b).map ofParts
  | _ => none

/-- Arithmetic on quantities of any kind; none when the operator has no rule for them. -/
def apply (op : BinaryOp) (a b : Quantity) : Option (Except Fault Value) :=
  match a, b with
  | int m, int n => (intRule op).map fun f => f m n
  | _, _ =>
    match a.toReal?, b.toReal? with
    | some x, some y => (realRule op).map fun f => do f (← x) (← y)
    | _, _ => (partsRule op).map fun f => do f (← a.toParts) (← b.toParts)

end Quantity

end Marginalia
