/-
Truth values and order.

Numbers other than complex ones are ordered by quantity, texts and bytes by
their units, sequences by the first items that differ, and sets by inclusion.
Everything else is unordered, but for classes whose objects answer a comparison
themselves.
-/
import Marginalia.Fault
import Marginalia.Value.Equal

namespace Marginalia

/-- The four questions about order. -/
inductive Comparison where
  | less | lessEq | greater | greaterEq
deriving DecidableEq, Repr

namespace Comparison

/-- How a question is spelled. -/
def symbol : Comparison → String
  | less => "<"
  | lessEq => "<="
  | greater => ">"
  | greaterEq => ">="

/-- The answer to a question, by the order of the two sides. -/
def holds : Comparison → Ordering → Bool
  | less, o => o == .lt
  | lessEq, o => o != .gt
  | greater, o => o == .gt
  | greaterEq, o => o != .lt

/-- The same question with its sides exchanged. -/
def mirror : Comparison → Comparison
  | less => greater
  | lessEq => greaterEq
  | greater => less
  | greaterEq => lessEq

end Comparison

/-- The order of two quantities: the outer option is empty for complex numbers,
the inner one when one side is no number. -/
def Quantity.order? : Quantity → Quantity → Option (Option Ordering)
  | int m, int n => some (some (compare m n))
  | int m, real y => some ((y.compareInt m).map Ordering.swap)
  | real x, int n => some (x.compareInt n)
  | real x, real y =>
    some (if x.isNaN || y.isNaN then none else some (compare x.key y.key))
  | _, _ => none

namespace Value

/-- Whether a value counts as true. -/
def truth (v : Value) : Except Fault Bool :=
  match v.plain with
  | nothing => .ok false
  | bool b => .ok b
  | int n => .ok (n != 0)
  | float x _ => .ok !x.isZero
  | complex a b _ => .ok !(a.isZero && b.isZero)
  | str s => .ok !s.isEmpty
  | bytes bs | bytearray _ bs => .ok !bs.isEmpty
  | tuple vs | list _ vs | set _ vs | frozenset vs => .ok !vs.isEmpty
  | dict _ ks _ => .ok !ks.isEmpty
  | member c d =>
    match c.flavour, d.asNumber? with
    | .bits, some n => .ok (n != 0)
    | _, _ => .ok true
  | object c _ =>
    match c.truthRefusal with
    | some t => .error (.runtime t)
    | none => .ok true
  | _ => .ok true

/-- Whether the class of a value is derived from a built-in one. -/
def isDerived : Value → Bool
  | derived .. => true
  | _ => false

/-- What an object answers itself when asked about order. -/
def ownAnswer? (op : Comparison) (v w : Value) : Option Value :=
  match op, v, w with
  | .less, object c m, _ => if c.lessAnswersSelf then some (object c m) else none
  | .greater, _, object c m => if c.lessAnswersSelf then some (object c m) else none
  | _, _, _ => none

/-- The refusal to order two values. -/
def unordered {α : Type} (op : Comparison) (v w : Value) : Except Fault α :=
  .error (.unordered op.symbol v.className w.className)

/-- The order of units, one after the other. -/
def lexicographic : List Nat → List Nat → Ordering
  | [], [] => .eq
  | [], _ => .lt
  | _, [] => .gt
  | a :: as, b :: bs => match compare a b with
    | .eq => lexicographic as bs
    | o => o

/-- The refusal to order two values; namespaces are spoken of as the mappings they are. -/
def refuseOrder (op : Comparison) (v w : Value) : Except Fault Value :=
  match v, w with
  | space .., space .. => .error (.unordered op.symbol "dict" "dict")
  | _, _ => unordered op v w

/-- The answer to a question about order for two sets. -/
def holdsOfSets (op : Comparison) (vs ws : List Value) : Bool :=
  match op with
  | .lessEq => allFound vs ws
  | .less => allFound vs ws && vs.length < ws.length
  | .greaterEq => allFound ws vs
  | .greater => allFound ws vs && ws.length < vs.length

/-- Answers a question about order for values that are no numbers. -/
def compareContents (op : Comparison) (v w : Value) : Except Fault Value :=
  match v.plain, w.plain with
  | str s, str t =>
    .ok (bool (op.holds (lexicographic (s.toList.map Char.toNat) (t.toList.map Char.toNat))))
  | v', w' =>
    match v'.bytes?, w'.bytes? with
    | some a, some b =>
      .ok (bool (op.holds (lexicographic (a.map UInt8.toNat) (b.map UInt8.toNat))))
    | _, _ =>
      match v'.setItems?, w'.setItems? with
      | some a, some b => .ok (bool (holdsOfSets op a b))
      | _, _ => refuseOrder op v w

/-- Answers a question about order for values without items. -/
def compareAtoms (op : Comparison) (v w : Value) : Except Fault Value :=
  match ownAnswer? op v w with
  | some a => .ok a
  | none =>
    match v.quantity?, w.quantity? with
    | some a, some b =>
      match a.order? b with
      | some (some o) => .ok (bool (op.holds o))
      | some none => .ok (bool false)
      | none => unordered op v w
    | _, _ => compareContents op v w

mutual

/-- Answers whether `v` stands in an order to `w`.  The question is put to `v`, or, turned round,
to `w`; of two sequences it is put to the one whose class is derived from the other's. -/
def compareAsked (op : Comparison) (turned : Bool) : Value → Value → Except Fault Value
  | tuple vs, w => match w.plain with
    | tuple ws => compareItems op (turned || w.isDerived) vs ws
    | _ => if turned then compareAtoms op.mirror w (tuple vs) else compareAtoms op (tuple vs) w
  | list m vs, w => match w.plain with
    | list _ ws => compareItems op turned vs ws
    | _ => if turned then compareAtoms op.mirror w (list m vs) else compareAtoms op (list m vs) w
  | derived c (tuple vs), w => match w.plain with
    | tuple ws => compareItems op (turned && w.isDerived) vs ws
    | _ =>
      if turned then compareAtoms op.mirror w (derived c (tuple vs))
      else compareAtoms op (derived c (tuple vs)) w
  | v, w => if turned then compareAtoms op.mirror w v else compareAtoms op v w

/-- Compares the first items that differ, or the lengths. -/
def compareItems (op : Comparison) (turned : Bool) : List Value → List Value → Except Fault Value
  | [], [] => .ok (bool (op.holds .eq))
  | [], _ :: _ => .ok (bool (op.holds .lt))
  | _ :: _, [] => .ok (bool (op.holds .gt))
  | v :: vs, w :: ws =>
    if matching v w then compareItems op turned vs ws else compareAsked op turned v w

end

/-- Answers a question about order. -/
def compare (op : Comparison) (v w : Value) : Except Fault Value := compareAsked op false v w

end Value

end Marginalia
