/-
Marker groups as values of the annotated program.

A group holds values and plain attributes.  It is inert: applied to whatever it
decorates, it answers that unchanged.
-/
import Marginalia.Value.Equal

namespace Marginalia

/-- An item of a marker group. -/
inductive MarkerItem where
  | value (v : Value)
  | attribute (name : String)
deriving Repr

/-- A group of items, possibly under a vendor's name. -/
structure Marker where
  items : List MarkerItem
  vendor : Option String := none
deriving Repr

namespace Marker

/-- What a group makes of its target: nothing else. -/
def apply {α : Type} (_ : Marker) (target : α) : α := target

/-- Equality of items. -/
def itemEquals : MarkerItem → MarkerItem → Bool
  | .value v, .value w => v.matching w
  | .attribute m, .attribute n => m == n
  | _, _ => false

/-- Groups are equal item by item, under the same vendor's name. -/
def equals (m n : Marker) : Bool :=
  m.vendor == n.vendor && m.items.length == n.items.length &&
    (m.items.zip n.items).all fun (a, b) => itemEquals a b

end Marker

end Marginalia
