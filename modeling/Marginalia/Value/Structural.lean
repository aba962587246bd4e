/-
Structural values: those whose equality is decided by content alone.

A value is structural when nothing stands in the way: `obstacle?` finds the
first part, in reading order, that can change or is compared by identity, and
says where it is.  Only structural values are attached to declarations.
-/
import Marginalia.Value.Basic

namespace Marginalia

/-- One step from a value to a part of it. -/
inductive Step where
  | item (index : Nat)
  | field (name : String)
deriving DecidableEq, Repr

/-- What keeps a value from being structural. -/
inductive Flaw where
  | mutableRecord (c : RecordClass)
  | withoutFieldEquality (c : RecordClass)
  | unsupported (t : TypeTerm)
deriving Repr

/-- A flaw and the way to it. -/
structure Obstacle where
  path : List Step
  flaw : Flaw
deriving Repr

/-- A step is spelled as it would be written behind the value. -/
def Step.text : Step → String
  | item i => "[" ++ toString i ++ "]"
  | field n => "." ++ n

/-- The sentence for an obstacle, the value itself being called `value`. -/
def Obstacle.reason (o : Obstacle) : String :=
  let place := "value" ++ String.join (o.path.map Step.text)
  match o.flaw with
  | .mutableRecord c => place ++ " is a mutable dataclass " ++ (TypeTerm.record c).displayName
  | .withoutFieldEquality c =>
    place ++ " is a dataclass " ++ (TypeTerm.record c).displayName ++ " without field equality"
  | .unsupported t => place ++ " has non-structural type " ++ t.displayName

/-- An obstacle seen from one step further out. -/
def Obstacle.behind (s : Step) (o : Obstacle) : Obstacle := { o with path := s :: o.path }

namespace Value

mutual

/-- The first obstacle in a value. -/
def obstacle? : Value → Option Obstacle
  | nothing | bool _ | int _ | float _ _ | complex _ _ _ | str _ | bytes _ | member _ _ => none
  | tuple vs => itemObstacle? 0 vs
  | frozenset vs => itemObstacle? 0 vs
  | derived _ (tuple vs) => itemObstacle? 0 vs
  | derived _ (frozenset vs) => itemObstacle? 0 vs
  | record c _ vs =>
    if !c.frozen then some ⟨[], .mutableRecord c⟩
    else if !c.equatable then some ⟨[], .withoutFieldEquality c⟩
    else fieldObstacle? c.fields vs
  | v => some ⟨[], .unsupported v.typeOf⟩

/-- The first obstacle in items, the first of which has the given index. -/
def itemObstacle? (i : Nat) : List Value → Option Obstacle
  | [] => none
  | v :: vs =>
    match v.obstacle? with
    | some o => some (o.behind (.item i))
    | none => itemObstacle? (i + 1) vs

/-- The first obstacle in the fields of a record. -/
def fieldObstacle? : List RecordField → List Value → Option Obstacle
  | f :: fs, v :: vs =>
    match v.obstacle? with
    | some o => some (o.behind (.field f.name))
    | none => fieldObstacle? fs vs
  | _, _ => none

end

/-- Whether a value is structural. -/
def isStructural (v : Value) : Bool := v.obstacle?.isNone

end Value

end Marginalia
