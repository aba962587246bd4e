/-
Equivalence of values: whether they denote the same constant.

Values of different classes are never equivalent.  Numbers with a fraction are
compared by their bits, containers and records part by part, members of
enumerations by class and content; everything else by equality.
-/
import Marginalia.Value.Equal

namespace Marginalia

namespace Value

/-- Two values are of one class. -/
def sameClass (v w : Value) : Bool := v.typeOf.equals w.typeOf

mutual

/-- Whether two values denote the same constant. -/
def equivalent : Value → Value → Bool
  | float x _, w => match w with
    | float y _ => x == y
    | _ => false
  | complex a b _, w => match w with
    | complex c d _ => a == c && b == d
    | _ => false
  | tuple vs, w => match w with
    | tuple ws => equivalentAll vs ws
    | _ => false
  | frozenset vs, w => match w with
    | frozenset ws => vs.length == ws.length && partnered vs ws
    | _ => false
  | derived c v, w => match w with
    | derived d w => c.module == d.module && c.name == d.name && equivalent v w
    | _ => false
  | record c _ vs, w => match w with
    | record d _ ws => c.module == d.module && c.name == d.name && equivalentAll vs ws
    | _ => false
  | member c d, w => match w with
    | member c' d' => c.isSame c' && d.equals d'
    | _ => false
  | v, w => v.sameClass w && v.equals w

/-- Item by item. -/
def equivalentAll : List Value → List Value → Bool
  | [], [] => true
  | v :: vs, w :: ws => equivalent v w && equivalentAll vs ws
  | _, _ => false

/-- Each of the first has an equivalent among the others. -/
def partnered : List Value → List Value → Bool
  | [], _ => true
  | v :: vs, ws => (ws.any fun w => equivalent v w) && partnered vs ws

end

end Value

end Marginalia
