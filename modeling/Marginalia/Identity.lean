/-
Identities of declared entities and the records attached to them.

An identity is the token of the table that issued it and a place in that table.
A record says what was attached to an identity, under which type, where, and as
which of the identity's records.
-/
import Marginalia.Location
import Marginalia.Value.Basic

namespace Marginalia

/-- One declared entity across all its redeclarations. -/
structure Identity where
  table : Int
  index : Int
deriving DecidableEq, Repr, Inhabited

/-- Messages spell an identity with the numbers of table and place. -/
protected def Identity.toString (i : Identity) : String :=
  "decl#" ++ toString i.table ++ "." ++ toString i.index

instance : ToString Identity := ⟨Identity.toString⟩

/-- One annotation of a declaration. -/
structure Record where
  owner : Identity
  /-- The type the value was recorded under, as spelled. -/
  type : TypeTerm
  value : Value
  location : Location
  /-- The position among the owner's records. -/
  ordinal : Nat
deriving Repr

end Marginalia
