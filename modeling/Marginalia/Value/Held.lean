/-
Values as expressions hold them.

Values with equal content can still be two objects.  Some kinds carry a mark for that;
the others are told apart by their origin, the number of the step of evaluation that
made them, which is zero for whatever was there before the first step.  Of a few simple
contents there is one object only, whatever step asks for it.
-/
import Marginalia.Value.Equal

namespace Marginalia

/-- A value, and the step that made it. -/
structure Held where
  value : Value
  origin : Nat := 0
deriving Repr, Inhabited

namespace Value

/-- Whether an object is told from all others by what the value itself says: there is
one object with the content, or the value has a mark. -/
def standsAlone : Value → Bool
  | int n => -5 ≤ n ∧ n ≤ 256
  | str s => s.length ≤ 1 ∧ s.toList.all fun c => c.toNat < 256
  | bytes bs => bs.length ≤ 1
  | tuple vs => vs.isEmpty
  | float x _ => x.isNaN
  | complex a b _ => a.isNaN || b.isNaN
  | frozenset _ | derived .. | slice .. => false
  | method (type _) n => !ownMethods.contains n
  | method .. => false
  | type (.generic ..) | type (.union _) => false
  | _ => true

/-- Whether a value keeps its parts in one place for all who ask. -/
def isLasting : Value → Bool
  | type _ | member .. | space .. | function _ => true
  | _ => false

end Value

namespace Held

/-- Whether two values are one object. -/
def isSame (a b : Held) : Bool :=
  a.value.isSame b.value && (a.value.standsAlone || a.origin == b.origin)

/-- A part of a value, which lasts as long as the whole does. -/
def part (whole : Held) (v : Value) : Held :=
  ⟨v, if whole.value.isLasting then 0 else whole.origin⟩

/-- Whether the result of an operation is one of its operands: an operation on values
that never change has no use for a second object with the class and content of the first. -/
def remains (a : Held) (result : Value) : Bool :=
  match a.value with
  | .int _ | .float .. | .complex .. | .str _ | .bytes _ | .tuple _ | .frozenset _ =>
    a.value.isSame result
  | _ => false

end Held

end Marginalia
