/-
Equality of values.

Inside containers two values match when they are the same object or compare
equal; a number that is none matches itself although it equals nothing.
`equals` is the comparison of whole values, where no such exception is made.
Numbers of all kinds compare by the quantity they stand for, texts that are
enumeration members compare as texts, and derived containers as the containers
they are.
-/
import Marginalia.Value.Basic

namespace Marginalia

/-- A quantity: an integer, or a number with a real and an imaginary part. -/
inductive Quantity where
  | int (n : Int)
  | real (x : Binary64)
  | complex (re im : Binary64)

namespace Quantity

/-- Numerical equality; integers are compared exactly. -/
def equals : Quantity → Quantity → Bool
  | int m, int n => m == n
  | int m, real x => x.compareInt m == some .eq
  | real x, int n => x.compareInt n == some .eq
  | real x, real y => x.equals y
  | complex a b, complex c d => a.equals c && b.equals d
  | complex a b, real y => a.equals y && b.isZero
  | real y, complex a b => a.equals y && b.isZero
  | complex a b, int n => a.compareInt n == some .eq && b.isZero
  | int n, complex a b => a.compareInt n == some .eq && b.isZero

end Quantity

namespace Value

/-- The built-in value behind a value of a derived class or of an enumeration
whose members are numbers or texts. -/
def plain : Value → Value
  | derived _ v => v
  | member c d =>
    match c.flavour with
    | .integer | .string => d.toValue
    | _ => member c d
  | v => v

/-- The quantity a value counts as, if it is a number. -/
def quantity? (v : Value) : Option Quantity :=
  match v.plain with
  | bool b => some (.int (if b then 1 else 0))
  | int n => some (.int n)
  | float x _ => some (.real x)
  | complex a b _ => some (.complex a b)
  | _ => none

/-- The bytes of a value that holds bytes. -/
def bytes? : Value → Option (List UInt8)
  | bytes bs => some bs
  | bytearray _ bs => some bs
  | _ => none

/-- The items of a set of either kind. -/
def setItems? : Value → Option (List Value)
  | set _ vs => some vs
  | frozenset vs => some vs
  | _ => none

/-- Equality of values that have no parts. -/
def equalsAtom (v w : Value) : Bool :=
  match v.quantity?, w.quantity? with
  | some a, some b => a.equals b
  | some _, none | none, some _ => false
  | none, none =>
    match v.plain, w.plain with
    | nothing, nothing => true
    | ellipsis, ellipsis => true
    | str s, str t => s == t
    | member c d, member c' d' => c.isSame c' && d.equals d'
    | object _ m, object _ n => m == n
    | type t, type t' => t.equals t'
    | function f, function g => f == g
    | v, w =>
      match v.bytes?, w.bytes? with
      | some a, some b => a == b
      | _, _ => false

/-- The same number that is none: the same bits under the same mark. -/
def sameUndefined (v w : Value) : Bool :=
  match v.plain, w.plain with
  | float x m, float y n => x.isNaN && x == y && m == n
  | complex a b m, complex c d n => (a.isNaN || b.isNaN) && a == c && b == d && m == n
  | _, _ => false

mutual

/-- Whether two values are one object or compare equal. -/
def matching : Value → Value → Bool
  | derived _ v, w => matching v w
  | tuple vs, w => match w.plain with
    | tuple ws => matchingAll vs ws
    | _ => false
  | list _ vs, w => match w.plain with
    | list _ ws => matchingAll vs ws
    | _ => false
  | set _ vs, w => match w.plain.setItems? with
    | some ws => vs.length == ws.length && allFound vs ws
    | none => false
  | frozenset vs, w => match w.plain.setItems? with
    | some ws => vs.length == ws.length && allFound vs ws
    | none => false
  | dict _ ks vs, w => match w.plain with
    | dict _ ks' ws =>
      ks.length == ks'.length &&
        match places ks ks' with
        | some is => matchingAll vs (is.filterMap fun i => ws[i]?)
        | none => false
    | _ => false
  | record c m vs, w => match w with
    | record d n ws =>
      c.module == d.module && c.name == d.name &&
        if c.equatable then matchingFields c.fields vs ws else m == n
    | _ => false
  | slice a b c, w => match w with
    | slice a' b' c' => matching a a' && matching b b' && matching c c'
    | _ => false
  | method v f, w => match w with
    | method v' g => f == g && matching v v'
    | _ => false
  | slot t n, w => match w with
    | slot t' n' => t.equals t' && n == n'
    | _ => false
  | space ns vs, w => match w with
    | space ns' ws => ns == ns' && matchingAll vs ws
    | _ => false
  | v, w => sameUndefined v w || equalsAtom v w

/-- Item by item. -/
def matchingAll : List Value → List Value → Bool
  | [], [] => true
  | v :: vs, w :: ws => matching v w && matchingAll vs ws
  | _, _ => false

/-- Field by field, for the fields that take part. -/
def matchingFields : List RecordField → List Value → List Value → Bool
  | f :: fs, v :: vs, w :: ws => (!f.compared || matching v w) && matchingFields fs vs ws
  | _, [], [] => true
  | _, _, _ => false

/-- Each of the first matches one of the others. -/
def allFound : List Value → List Value → Bool
  | [], _ => true
  | v :: vs, ws => (ws.any fun w => matching v w) && allFound vs ws

/-- Where each of the first is among the others. -/
def places : List Value → List Value → Option (List Nat)
  | [], _ => some []
  | v :: vs, ws => do
    let i ← ws.findIdx? fun w => matching v w
    let is ← places vs ws
    return i :: is

end

/-- Whether a value is a number that is none. -/
def isUndefined (v : Value) : Bool :=
  match v.plain with
  | float x _ => x.isNaN
  | complex a b _ => a.isNaN || b.isNaN
  | _ => false

/-- Equality of whole values: as `matching`, but no number that is none equals anything. -/
def equals (v w : Value) : Bool := !v.isUndefined && !w.isUndefined && matching v w

/-- Whether a value is among others. -/
def isAmong (v : Value) (ws : List Value) : Bool := ws.any fun w => matching v w

/-- Each value once, in order of first occurrence. -/
def distinct (vs : List Value) : List Value :=
  vs.foldl (fun ws v => if v.isAmong ws then ws else ws ++ [v]) []

/-- Whether two values are one object.  Values without a mark are one object when
their kind and content agree. -/
def isSame (v w : Value) : Bool :=
  match v, w with
  | list m _, list n _ => m == n
  | set m _, set n _ => m == n
  | dict m _ _, dict n _ _ => m == n
  | bytearray m _, bytearray n _ => m == n
  | record _ m _, record _ n _ => m == n
  | object _ m, object _ n => m == n
  | float x m, float y n => if x.isNaN || y.isNaN then m == n else x == y
  | complex a b _, complex c d _ => if v.isUndefined || w.isUndefined then sameUndefined v w else a == c && b == d
  | _, _ => v.typeOf.equals w.typeOf && matching v w

mutual

/-- The name of the class that keeps a value from being a key or a member of a set. -/
def unhashable? : Value → Option String
  | tuple vs => unhashableItem? vs
  | frozenset _ => none
  | derived _ v => unhashable? v
  | record c m vs =>
    if !c.equatable then none
    else if !c.frozen then some (className (record c m vs))
    else unhashableField? c.fields vs
  | list m vs => some (className (list m vs))
  | set m vs => some (className (set m vs))
  | dict m ks vs => some (className (dict m ks vs))
  | bytearray m bs => some (className (bytearray m bs))
  | slice a b c => some (className (slice a b c))
  | space ns vs => some (className (space ns vs))
  | type (.generic _ _ name) => name
  | _ => none

/-- The first among items. -/
def unhashableItem? : List Value → Option String
  | [] => none
  | v :: vs => (unhashable? v).or (unhashableItem? vs)

/-- The first among the fields that take part in comparisons. -/
def unhashableField? : List RecordField → List Value → Option String
  | f :: fs, v :: vs =>
    (if f.compared then unhashable? v else none).or (unhashableField? fs vs)
  | _, _ => none

end

end Value

end Marginalia
