/-
The names visible to an expression.

A scope is a chain of bodies, the innermost first.  A body binds a name to a value,
or hides it: a hidden name has no value, whatever the bodies around say.
-/
import Marginalia.Value.Held

namespace Marginalia

/-- What one body says about names; no value means hidden. -/
abbrev Frame := List (String × Option Held)

/-- The bodies visible from a place, innermost first. -/
structure Scope where
  inner : Frame := []
  outer : List Frame := []

namespace Scope

/-- Says something about a name in the innermost body, in place of what it said. -/
def set (s : Scope) (name : String) (v : Option Held) : Scope :=
  { s with inner := (name, v) :: s.inner.filter fun e => e.1 != name }

/-- Binds a name to a value. -/
def bind (s : Scope) (name : String) (v : Held) : Scope := s.set name (some v)

/-- Hides a name. -/
def hide (s : Scope) (name : String) : Scope := s.set name none

/-- What the first of some bodies that says anything about a name says. -/
def lookupIn (name : String) : List Frame → Option Held
  | [] => none
  | f :: fs => match f.lookup name with
    | some v => v
    | none => lookupIn name fs

/-- The value of a name, if it has one. -/
def lookup (s : Scope) (name : String) : Option Held := lookupIn name (s.inner :: s.outer)

/-- The scope of a body inside this one. -/
def child (s : Scope) : Scope := { inner := [], outer := s.inner :: s.outer }

theorem lookup_set_self (s : Scope) (name : String) (v : Option Held) :
    (s.set name v).lookup name = v := by
  simp [lookup, set, lookupIn]

theorem lookup_child (s : Scope) (name : String) : s.child.lookup name = s.lookup name := by
  simp [lookup, child, lookupIn]

end Scope

end Marginalia
