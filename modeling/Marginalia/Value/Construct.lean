/-
Making values by calling classes.

A record class takes its fields, an enumeration the content of a member, a
derived tuple its named items.  What a record class accepts beyond that is for
the host to say.
-/
import Marginalia.Value.Methods

namespace Marginalia

namespace Value

/-- The parameters a record class is called with. -/
def recordParameters (c : RecordClass) : List Arguments.Parameter :=
  c.fields.map fun f => ⟨f.name, f.default?.map Datum.toValue⟩

/-- A record from the arguments of a call. -/
def recordFrom (c : RecordClass) (accepts : RecordClass → List Value → Except Fault Unit)
    (a : Arguments) : Except Fault Value := do
  let vs ← a.bind (c.name ++ ".__init__") (recordParameters c)
  accepts c vs
  return record c 0 vs

/-- Digits in base two behind the digit of the sign. -/
private def bitsText (n : Int) (width : Nat) : String :=
  let size := IntBits.length n
  let low : Nat := (if n ≥ 0 then n else n + Nat.pow 2 size).toNat
  let ds := if size = 0 then [] else Nat.toDigits 2 low
  let ds := List.replicate (size - ds.length) '0' ++ ds
  let sign := if n ≥ 0 then '0' else '1'
  let ds := List.replicate (width - ds.length) sign ++ ds
  "0b" ++ String.singleton sign ++ " " ++ String.ofList ds

/-- A combination of bits from a number. -/
def bitsMember (c : EnumClass) (n : Int) : Except Fault Value :=
  let mask := allBits c
  let all : Int := Nat.pow 2 (IntBits.length mask) - 1
  if n < -all - 1 ∨ n > all ∨ IntBits.and n (IntBits.xor all mask) ≠ 0 then
    let width := max (IntBits.length n) (IntBits.length mask)
    .error (.valueError ((TypeTerm.enumeration c).written ++ " invalid value " ++ toString n ++
      "\n    given " ++ bitsText n width ++ "\n  allowed " ++ bitsText mask width))
  else .ok (member c (.number (if n < 0 then all + 1 + n else n)))

/-- The content of a member of an enumeration. -/
def memberContent? (c : EnumClass) : Value → Option Datum
  | member c' d => if c.isSame c' then some d else none
  | _ => none

/-- The refusal of a value that is the content of no member. -/
def refuseMember (c : EnumClass) (v : Value) : Except Fault Value :=
  if v.isWritable then .error (.valueError (v.written ++ " is not a valid " ++ c.name))
  else .error Fault.tooManyDigits

/-- The member for a number that is the content of no member alone. -/
def numberedMember (c : EnumClass) (v : Value) : Except Fault Value :=
  match c.flavour, v.plain with
  | .bits, int n => bitsMember c n
  | .bits, bool b => bitsMember c (if b then 1 else 0)
  | _, _ => refuseMember c v

/-- The member with some content, or that is the value itself. -/
def memberOf (c : EnumClass) (v : Value) : Except Fault Value :=
  match memberContent? c v with
  | some d => .ok (member c d)
  | none =>
    match c.canonical.find? fun m => equals m.2.toValue v with
    | some m => .ok (member c m.2)
    | none => numberedMember c v

/-- A member from the arguments of a call. -/
def memberFrom (c : EnumClass) (a : Arguments) : Except Fault Value := do
  -- what else can be said of a new enumeration says nothing about a member
  let vs ← a.bindBeside "EnumType.__call__" [⟨"value", none⟩, ⟨"names", some nothing⟩]
    ["module", "qualname", "type", "start", "boundary"]
  match vs with
  | [v, nothing] => memberOf c v
  | v :: _ => throw (.typeError ("<enum " ++ v.written ++ "> cannot extend " ++
      (TypeTerm.enumeration c).written))
  | [] => return nothing

/-- An integer from its bytes, as an object of a class of integers. -/
def fromBytes (t : TypeTerm) (a : Arguments) : Except Fault Value := do
  let n ← integerFromBytes a
  match t with
  | .builtin .bool => return bool (n != 0)
  | .enumeration c => memberOf c (int n)
  | .derived c => return derived c (int n)
  | _ => return int n

/-- Calls a method of a class itself, if it is one of those that are written out here. -/
def callOwnMethod? (t : TypeTerm) (name : String) (a : Arguments) : Option (Except Fault Value) :=
  if name = "from_bytes" then some (fromBytes t a) else none

/-- Calls a bound method, or a method read off a class, that changes nothing. -/
def callBound? (self : Value) (name : String) (a : Arguments) : Option (Except Fault Value) :=
  if ownMethods.contains name then
    match self with
    | type t => callOwnMethod? t name a
    | v => callOwnMethod? v.typeOf name a
  else
    match receiver self name a with
    | .error f => some (.error f)
    | .ok (v, c, a) => v.callMethod? c a

/-- A named tuple from the arguments of a call. -/
def namedTupleFrom (c : DerivedClass) (names : List String) (a : Arguments) :
    Except Fault Value := do
  let vs ← a.bind (c.name ++ ".__new__") (names.map fun n => ⟨n, none⟩)
  return derived c (tuple vs)

/-- A plain object from the arguments of a call, of which there must be none. -/
def objectFrom (c : ObjectClass) (a : Arguments) : Except Fault Value :=
  if a.count = 0 then .ok (object c 0)
  else .error (.typeError (c.name ++ "() takes no arguments"))

/-- Calls a class, if it is one of those that make values here. -/
def callClass? (accepts : RecordClass → List Value → Except Fault Unit) (t : TypeTerm)
    (a : Arguments) : Option (Except Fault Value) :=
  match t with
  | .builtin b => callBuiltin? b a
  | .generic t _ _ => callClass? accepts t a
  | .record c => some (recordFrom c accepts a)
  | .enumeration c => some (memberFrom c a)
  | .derived c =>
    match c.fieldNames with
    | some ns => some (namedTupleFrom c ns a)
    | none => (callBuiltin? c.base a).map fun r => r.map (derived c)
  | .object c => some (objectFrom c a)
  | _ => none

/-- Whether a value can be called. -/
def isCallable : Value → Bool
  | type t => t.isClass || (match t with
    | .generic .. | .distinct .. | .function _ => true
    | _ => false)
  | function _ => true
  | method _ _ => true
  | _ => false

/-- A value with the members of a set, if it is one, in some order. -/
def arranged (order : List Value → List Value) : Value → Value
  | set m vs => set m (order vs)
  | frozenset vs => frozenset (order vs)
  | derived c v => derived c (arranged order v)
  | v => v

/-- Gives a value that has an identity of its own a mark, unless it has one. -/
def marked (m : Mark) : Value → Value
  | float x 0 => if x.isNaN then float x m else float x 0
  | complex a b 0 => if a.isNaN || b.isNaN then complex a b m else complex a b 0
  | bytearray 0 bs => bytearray m bs
  | list 0 vs => list m vs
  | set 0 vs => set m vs
  | dict 0 ks vs => dict m ks vs
  | record c 0 vs => record c m vs
  | object c 0 => object c m
  | v => v

end Value

end Marginalia
