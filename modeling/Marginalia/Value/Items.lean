/-
Iterating, searching and subscripting.

`items` lists what a value yields one by one, `contains` answers whether a value
is found in another, and `subscript` takes an item or a slice out of one.
Positions count from the end when negative.
-/
import Marginalia.Value.Number
import Marginalia.Value.Order

namespace Marginalia

namespace EnumClass

/-- The members of an enumeration, each once. -/
def memberValues (c : EnumClass) : List Value := c.canonical.map fun m => Value.member c m.2

end EnumClass

namespace Value

/-- The byte a number is, if it is one. -/
def ofByte (b : UInt8) : Value := int b.toNat

/-- What a value yields one by one. -/
def items (v : Value) : Except Fault (List Value) :=
  match v.plain with
  | str s => .ok (s.toList.map fun c => str (String.singleton c))
  | bytes bs | bytearray _ bs => .ok (bs.map ofByte)
  | tuple vs | list _ vs | set _ vs | frozenset vs => .ok vs
  | dict _ ks _ => .ok ks
  | type (.enumeration c) => .ok c.memberValues
  | type (.generic t text flaw) => .ok [type (.generic t ("*" ++ text) flaw)]
  | member c d =>
    match c.flavour, d with
    | .bits, .number n =>
      .ok (c.canonical.filterMap fun m => match m.2 with
        | .number k =>
          if k > 0 ∧ IntBits.and n k = k then some (member c m.2) else none
        | _ => none)
    | _, _ => .error (.notIterable v.className)
  | _ => .error (.notIterable v.className)

/-- The integer a value stands for where a position or a count is asked for. -/
def index? (v : Value) : Option Int :=
  match v.plain with
  | bool b => some (if b then 1 else 0)
  | int n => some n
  | _ => none

/-- A value that can be a key or a member of a set. -/
def hashable (v : Value) : Except Fault Unit :=
  match v.unhashable? with
  | some name => .error (.unhashable name)
  | none => .ok ()

/-- Whether a run of items occurs in another. -/
def occursIn [BEq α] (part : List α) : List α → Bool
  | [] => part.isEmpty
  | x :: xs => part.isPrefixOf (x :: xs) || occursIn part xs

/-- Whether a member is found in a combination of bits. -/
def bitsContain (c : EnumClass) (d : Datum) (v : Value) : Except Fault Bool :=
  match v with
  | member c' d' =>
    if c.isSame c' then
      match d, d' with
      | .number n, .number k => .ok (IntBits.and n k == k)
      | _, _ => .ok false
    else .error (.typeError ("unsupported operand type(s) for 'in': '" ++ v.typeName ++ "' and '" ++ c.name ++ "'"))
  | _ => .error (.typeError ("unsupported operand type(s) for 'in': '" ++ v.typeName ++ "' and '" ++ c.name ++ "'"))

/-- Whether a value is among the members of a set; a set is looked for as it is. -/
def amongMembers (v : Value) (vs : List Value) : Except Fault Bool :=
  match v with
  | set _ _ => .ok (v.isAmong vs)
  | _ => do
    v.hashable
    return v.isAmong vs

/-- Whether a value is among what another one yields, which is refused by the name of a class. -/
def amongItems (v other : Value) (className : String) : Except Fault Bool :=
  match other.items with
  | .ok vs => .ok (v.isAmong vs)
  | .error _ => .error (.notSearchable className)

/-- Whether a value is found in another one. -/
def contains (v inside : Value) : Except Fault Bool :=
  match inside.plain with
  | str s =>
    match v.plain with
    | str t => .ok (occursIn t.toList s.toList)
    | _ => .error (.typeError ("'in <string>' requires string as left operand, not " ++ v.className))
  | bytes bs | bytearray _ bs =>
    match v.index? with
    | some n =>
      if 0 ≤ n ∧ n < 256 then .ok (bs.any fun b => (b.toNat : Int) == n)
      else .error (.valueError "byte must be in range(0, 256)")
    | none =>
      match v.plain.bytes? with
      | some part => .ok (occursIn part bs)
      | none => .error (.typeError ("a bytes-like object is required, not '" ++ v.className ++ "'"))
  | tuple vs | list _ vs => .ok (v.isAmong vs)
  | set _ vs | frozenset vs => v.amongMembers vs
  | dict _ ks _ => do
    v.hashable
    return v.isAmong ks
  | type (.enumeration c) =>
    match v with
    | member c' d => .ok (c.isSame c' && c.canonical.any fun m => m.2.equals d)
    | _ => .error (.typeError ("unsupported operand type(s) for 'in': '" ++ v.typeName ++ "' and 'EnumType'"))
  | member c d =>
    match c.flavour with
    | .bits => bitsContain c d v
    | _ => .error (.notSearchable inside.className)
  | other => v.amongItems other inside.className

/-- A position counted from the front, when there is an item at it. -/
def position? (n : Int) (length : Nat) : Option Nat :=
  if 0 ≤ n ∧ n < length then some n.toNat
  else if n < 0 ∧ -(length : Int) ≤ n then some (n + length).toNat
  else none

/-- The largest position a machine can count to. -/
def positionLimit : Int := Nat.pow 2 63

/-- The item at a position. -/
def itemAt {α : Type} (what : String) (n : Int) (xs : List α) : Except Fault α :=
  if n ≥ positionLimit ∨ n < -positionLimit then
    .error (.outOfRange "cannot fit 'int' into an index-sized integer")
  else match (position? n xs.length).bind fun i => xs[i]? with
    | some x => .ok x
    | none => .error (.outOfRange (what ++ " out of range"))

/-- A part of a slice: nothing or an integer. -/
def slicePart (v : Value) : Except Fault (Option Int) :=
  match v with
  | nothing => .ok none
  | _ => match v.index? with
    | some n => .ok (some n)
    | none =>
      .error (.typeError "slice indices must be integers or None or have an __index__ method")

/-- A bound of a slice, brought between two limits. -/
def clampBound (n : Int) (length : Nat) (low high : Int) : Int :=
  let n := if n < 0 then n + length else n
  if n < low then low else if n > high then high else n

/-- The positions from one bound toward another by a step. -/
def stride (start step : Int) : Nat → List Nat
  | 0 => []
  | k + 1 => start.toNat :: stride (start + step) step k

/-- The positions a slice selects among items. -/
def slicePositions (start stop step : Option Int) (length : Nat) : Except Fault (List Nat) :=
  let step := step.getD 1
  if step = 0 then .error (.valueError "slice step cannot be zero")
  else if step > 0 then
    let a := match start with
      | some n => clampBound n length 0 length
      | none => 0
    let b := match stop with
      | some n => clampBound n length 0 length
      | none => length
    .ok (stride a step (if a < b then ((b - a - 1) / step + 1).toNat else 0))
  else
    let top : Int := (length : Int) - 1
    let a := match start with
      | some n => clampBound n length (-1) top
      | none => top
    let b := match stop with
      | some n => clampBound n length (-1) top
      | none => -1
    .ok (stride a step (if b < a then ((a - b - 1) / (-step) + 1).toNat else 0))

/-- The items a slice selects.  The step is read before the bounds. -/
def sliced {α : Type} (start stop step : Value) (xs : List α) : Except Fault (List α) := do
  let step ← slicePart step
  if step = some 0 then throw (.valueError "slice step cannot be zero")
  let start ← slicePart start
  let stop ← slicePart stop
  let ps ← slicePositions start stop step xs.length
  return ps.filterMap fun i => xs[i]?

/-- Takes an item, or the items of a slice, out of a sequence. -/
def pick {α : Type} (what refusal : String) (xs : List α) (one : α → Value)
    (many : List α → Value) (i : Value) : Except Fault Value :=
  match i.index? with
  | some n => (itemAt what n xs).map one
  | none =>
    match i with
    | slice a b c => (sliced a b c xs).map many
    | _ => .error (.typeError refusal)

/-- The value under a key. -/
def lookupKey (key : Value) : List Value → List Value → Option Value
  | k :: ks, v :: vs => if matching k key then some v else lookupKey key ks vs
  | _, _ => none

/-- A part of a type written in brackets. -/
def bracketText (v : Value) : String :=
  match v with
  | type t => t.displayName
  | ellipsis => "..."
  | v => v.written

/-- What is written in the brackets behind a class. -/
def bracketsText (i : Value) : String :=
  match i with
  | tuple [] => "()"
  | tuple vs => ", ".intercalate (vs.map bracketText)
  | v => v.bracketText

/-- A class of the language with a type written behind it in brackets. -/
def genericOf (t : TypeTerm) (i : Value) : Value :=
  type (.generic t (t.displayName ++ "[" ++ i.bracketsText ++ "]") i.unhashable?)

/-- What a value gives for a subscript. -/
def subscript (v i : Value) : Except Fault Value :=
  match v.plain with
  | str s =>
    pick "string index" ("string indices must be integers, not '" ++ i.className ++ "'") s.toList
      (fun c => str (String.singleton c)) (fun cs => str (String.ofList cs)) i
  | bytes bs =>
    pick "index" ("byte indices must be integers or slices, not " ++ i.className) bs
      ofByte bytes i
  | bytearray _ bs =>
    pick "bytearray index" ("bytearray indices must be integers or slices, not " ++ i.className) bs
      ofByte (bytearray 0) i
  | tuple vs =>
    pick "tuple index" ("tuple indices must be integers or slices, not " ++ i.className) vs
      id tuple i
  | list _ vs =>
    pick "list index" ("list indices must be integers or slices, not " ++ i.className) vs
      id (list 0) i
  | dict _ ks vs => do
    i.hashable
    match lookupKey i ks vs with
    | some w => return w
    | none => throw (.missingKey i)
  | type (.enumeration c) => do
    i.hashable
    match i.plain with
    | str n =>
      match c.content? n with
      | some d => return member c d
      | none => throw (.missingKey i)
    | _ => throw (.missingKey i)
  | type (.builtin .tuple) => .ok (genericOf (.builtin .tuple) i)
  | type (.builtin .frozenset) => .ok (genericOf (.builtin .frozenset) i)
  | type (.derived c) =>
    if c.base = .tuple ∨ c.base = .frozenset then .ok (genericOf (.derived c) i)
    else .error (.classNotSubscriptable c.name)
  | type (.generic _ text _) => .error (.typeError (text ++ " is not a generic class"))
  | type (.union parts) =>
    .error (.typeError (" | ".intercalate parts ++ " is not a generic class"))
  | type t => .error (.classNotSubscriptable t.shortName)
  | _ => .error (.notSubscriptable v.className)

end Value

end Marginalia
