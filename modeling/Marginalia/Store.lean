/-
The store of annotations.

Records are only ever appended, in one log; the records of an identity are the
entries of the log that it owns.  Beside them the store keeps which declaration
sites have been elaborated and how many evaluations are going on: while any is,
nothing can be attached from outside.
-/
import Marginalia.Declaration

namespace Marginalia

/-- Everything attached so far. -/
structure Store where
  /-- Every record, in the order they were appended. -/
  log : List Record := []
  /-- The declaration sites whose annotations have been read. -/
  elaborated : List (Identity × Location) := []
  /-- How many evaluations are going on. -/
  depth : Nat := 0
deriving Repr

namespace Store

/-- The records of an identity, in the order they were appended. -/
def recordsOf (s : Store) (i : Identity) : List Record := s.log.filter fun r => r.owner == i

/-- Appends a record to the records of an identity. -/
def append (s : Store) (i : Identity) (type : TypeTerm) (value : Value) (location : Location) :
    Store × Record :=
  let r : Record := ⟨i, type, value, location, (s.recordsOf i).length⟩
  ({ s with log := s.log ++ [r] }, r)

/-- Whether a value is being evaluated. -/
def isEvaluating (s : Store) : Bool := s.depth > 0

/-- One more evaluation goes on. -/
def enter (s : Store) : Store := { s with depth := s.depth + 1 }

/-- One evaluation has ended. -/
def leave (s : Store) : Store := { s with depth := s.depth - 1 }

end Store

end Marginalia
