/-
Objects that change.

Some objects have methods that change them in place.  A value is a snapshot of the objects in
it, so what became of an object is kept beside the values, under its mark: `Value.now` brings a
value up to date, and `Value.change?` carries out a method that changes its object, if it is one
of those that are written out here.

A value has no room for an object inside itself, so putting one there is not written out.
-/
import Marginalia.Value.Held
import Marginalia.Value.Methods

namespace Marginalia

/-- What the objects that have been changed hold now. -/
abbrev Changes := List (Mark × Value)

namespace Value

mutual

/-- A value with the objects in it as they are now. -/
def now (cs : Changes) : Value → Value
  | list m vs => (cs.lookup m).getD (list m (nowAll cs vs))
  | set m vs => (cs.lookup m).getD (set m (nowAll cs vs))
  | dict m ks vs => (cs.lookup m).getD (dict m (nowAll cs ks) (nowAll cs vs))
  | tuple vs => tuple (nowAll cs vs)
  | frozenset vs => frozenset (nowAll cs vs)
  | slice a b c => slice (now cs a) (now cs b) (now cs c)
  | record c m vs => record c m (nowAll cs vs)
  | derived c v => derived c (now cs v)
  | method v n => method (now cs v) n
  | space ns vs => space ns (nowAll cs vs)
  | nothing => nothing
  | ellipsis => ellipsis
  | bool b => bool b
  | int n => int n
  | float x m => float x m
  | complex a b m => complex a b m
  | str s => str s
  | bytes bs => bytes bs
  | bytearray m bs => (cs.lookup m).getD (bytearray m bs)
  | member c d => member c d
  | object c m => object c m
  | type t => type t
  | function n => function n
  | slot t n => slot t n

/-- Several values with the objects in them as they are now. -/
def nowAll (cs : Changes) : List Value → List Value
  | [] => []
  | v :: vs => now cs v :: nowAll cs vs

end

mutual

/-- Whether an object is a value or found in it. -/
def holds (m : Mark) : Value → Bool
  | list n vs | set n vs => n == m || holdsAny m vs
  | dict n ks vs => n == m || holdsAny m ks || holdsAny m vs
  | bytearray n _ => n == m
  | tuple vs | frozenset vs | record _ _ vs | space _ vs => holdsAny m vs
  | slice a b c => holds m a || holds m b || holds m c
  | derived _ v | method v _ => holds m v
  | _ => false

/-- Whether an object is among values or found in one of them. -/
def holdsAny (m : Mark) : List Value → Bool
  | [] => false
  | v :: vs => holds m v || holdsAny m vs

end

end Value

/-- A value that is held, with the objects in it as they are now. -/
def Held.now (cs : Changes) (h : Held) : Held := { h with value := h.value.now cs }

/-- Notes what an object holds after a change; it may be found in others that were changed. -/
def Changes.put (cs : Changes) (m : Mark) (v : Value) : Changes :=
  (m, v) :: (cs.filter fun e => e.1 != m).map fun e => (e.1, e.2.now [(m, v)])

/-- What a method that changes its object answers, which object it is, and what the object holds
afterwards. -/
structure Change where
  answer : Value := .nothing
  mark : Mark
  object : Value

namespace Value

/-- A position where one is asked for. -/
def requirePosition (v : Value) : Except Fault Int := do
  let n ← v.requireIndex
  if n ≥ positionLimit ∨ n < -positionLimit then
    throw (.overflow "Python int too large to convert to C ssize_t")
  return n

/-- Where something is put in among items; beyond them, at the end that is nearer. -/
def insertion (n : Int) (length : Nat) : Nat :=
  if n < 0 then (n + length).toNat else min n.toNat length

/-- Puts a value in among items. -/
def insertItem (c : Callee) (vs : List Value) (a : Arguments) :
    Except Fault (Value × List Value) := do
  let given ← a.onlyPositional c.full
  match given with
  | [place, v] =>
    let n ← place.requirePosition
    return (nothing, vs.insertIdx (insertion n vs.length) v)
  | _ => throw (.typeError ("insert expected 2 arguments, got " ++ toString given.length))

/-- Takes an item out, the last one unless a position is given. -/
def popItem (c : Callee) (vs : List Value) (a : Arguments) :
    Except Fault (Value × List Value) := do
  let given ← a.onlyPositional c.full
  Arguments.expected given "pop" 0 1
  let n ← requirePosition (given[0]?.getD (int (-1)))
  if vs.isEmpty then throw (.outOfRange "pop from empty list")
  match position? n vs.length with
  | some i => return (vs[i]?.getD nothing, vs.eraseIdx i)
  | none => throw (.outOfRange "pop index out of range")

/-- Takes out the first item that matches a value. -/
def removeItem (c : Callee) (vs : List Value) (a : Arguments) :
    Except Fault (Value × List Value) := do
  let v ← a.exactlyOne c.full
  match vs.findIdx? fun w => matching w v with
  | some i => return (nothing, vs.eraseIdx i)
  | none => throw (.valueError "list.remove(x): x not in list")

/-- Puts what a value yields behind items. -/
def extendItems (c : Callee) (vs : List Value) (a : Arguments) :
    Except Fault (Value × List Value) := do
  let more ← (← a.exactlyOne c.full).items
  return (nothing, vs ++ more)

/-- The answer and the items after a method of a list. -/
def changeItems? (c : Callee) (vs : List Value) (a : Arguments) :
    Option (Except Fault (Value × List Value)) :=
  match c.name with
  | "append" => some ((a.exactlyOne c.full).map fun v => (nothing, vs ++ [v]))
  | "clear" => some ((a.none c.full).map fun _ => (nothing, []))
  | "extend" => some (extendItems c vs a)
  | "insert" => some (insertItem c vs a)
  | "pop" => some (popItem c vs a)
  | "remove" => some (removeItem c vs a)
  | "reverse" => some ((a.none c.full).map fun _ => (nothing, vs.reverse))
  | _ => none

/-- Adds a member. -/
def addMember (c : Callee) (vs : List Value) (a : Arguments) : Except Fault (List Value) := do
  let v ← a.exactlyOne c.full
  v.hashable
  return distinct (vs ++ [v])

/-- Takes a member out, if it is there or does not have to be. -/
def dropMember (c : Callee) (required : Bool) (vs : List Value) (a : Arguments) :
    Except Fault (List Value) := do
  let v ← a.exactlyOne c.full
  let found ← v.amongMembers vs
  if required && !found then throw (.missingKey v)
  return vs.filter fun w => !matching w v

/-- The members after a method of a set. -/
def changeMembers? (c : Callee) (vs : List Value) (a : Arguments) :
    Option (Except Fault (List Value)) :=
  match c.name with
  | "add" => some (addMember c vs a)
  | "clear" => some ((a.none c.full).map fun _ => [])
  | "discard" => some (dropMember c false vs a)
  | "remove" => some (dropMember c true vs a)
  | _ => none

/-- The value under a key that is taken out of a mapping, the keys and the values that are left. -/
def takeEntry (k : Value) (otherwise : Option Value) (ks vs : List Value) :
    Except Fault (Value × List Value × List Value) :=
  match ks.findIdx? fun k' => matching k' k, otherwise with
  | some i, _ => .ok (vs[i]?.getD nothing, ks.eraseIdx i, vs.eraseIdx i)
  | none, some v => .ok (v, ks, vs)
  | none, none => .error (.missingKey k)

/-- A key that is looked for among others; nothing is looked for in an empty mapping. -/
def checkKey (k : Value) (ks : List Value) : Except Fault Unit :=
  if ks.isEmpty then .ok () else k.hashable

/-- The value under a key, the keys and the values, after it was put where there was none. -/
def keepEntry (k : Value) (otherwise : Value) (ks vs : List Value) :
    Except Fault (Value × List Value × List Value) := do
  k.hashable
  match lookupKey k ks vs with
  | some v => return (v, ks, vs)
  | none => return (otherwise, ks ++ [k], vs ++ [otherwise])

/-- Takes the value under a key out of a mapping. -/
def popEntry (c : Callee) (ks vs : List Value) (a : Arguments) :
    Except Fault (Value × List Value × List Value) := do
  let given ← a.onlyPositional c.full
  Arguments.expected given "pop" 1 2
  checkKey (given[0]?.getD nothing) ks
  takeEntry (given[0]?.getD nothing) given[1]? ks vs

/-- The value under a key of a mapping, which is put there if there is none. -/
def setEntry (c : Callee) (ks vs : List Value) (a : Arguments) :
    Except Fault (Value × List Value × List Value) := do
  let given ← a.onlyPositional c.full
  Arguments.expected given "setdefault" 1 2
  keepEntry (given[0]?.getD nothing) (given[1]?.getD nothing) ks vs

/-- The answer, the keys and the values after a method of a mapping. -/
def changeEntries? (c : Callee) (ks vs : List Value) (a : Arguments) :
    Option (Except Fault (Value × List Value × List Value)) :=
  match c.name with
  | "clear" => some ((a.none c.full).map fun _ => (nothing, [], []))
  | "pop" => some (popEntry c ks vs a)
  | "setdefault" => some (setEntry c ks vs a)
  | _ => none

/-- What a method makes of the object that it changes. -/
def afterMethod? (self : Value) (c : Callee) (a : Arguments) : Option (Except Fault Change) :=
  match self with
  | list m vs => (changeItems? c vs a).map fun r => r.map fun r => ⟨r.1, m, list m r.2⟩
  | set m vs => (changeMembers? c vs a).map fun r => r.map fun vs => ⟨nothing, m, set m vs⟩
  | dict m ks vs =>
    (changeEntries? c ks vs a).map fun r => r.map fun r => ⟨r.1, m, dict m r.2.1 r.2.2⟩
  | _ => none

/-- Whether an object is found among what it holds. -/
def holdsItself : Value → Bool
  | list m vs | set m vs => holdsAny m vs
  | dict m ks vs => holdsAny m ks || holdsAny m vs
  | _ => false

end Value

/-- Whether a change can be told: the object has a mark, and is not put into itself. -/
def Change.isTold (r : Change) : Bool := r.mark != 0 && !r.object.holdsItself

namespace Value

/-- Carries out a method that changes its object, if it is one of those that are written out
here. -/
def change? (self : Value) (c : Callee) (a : Arguments) : Option (Except Fault Change) :=
  (self.plain.afterMethod? c a).filter fun r => r.toOption.all Change.isTold

/-- Calls a bound method, or a method read off a class, that changes its object. -/
def changeBound? (self : Value) (name : String) (a : Arguments) : Option (Except Fault Change) :=
  if ownMethods.contains name then none
  else
    match receiver self name a with
    | .error _ => none
    | .ok (v, c, a) => v.change? c a

end Value

end Marginalia
