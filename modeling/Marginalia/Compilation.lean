/-
The state of one compilation.

A compilation joins a table of declarations, a store of annotations and the
kinds of declarations that may be annotated.  Its operations answer either a
result or an annotation error; a failing operation changes nothing.
-/
import Marginalia.Placement
import Marginalia.Resolve
import Marginalia.Store
import Marginalia.Value.Change
import Marginalia.Value.Equivalent

namespace Marginalia

/-- The state of one compilation. -/
structure Compilation where
  table : Table
  store : Store := {}
  annotatable : List Kind := Kind.all
  /-- How many values with an identity of their own have been made. -/
  created : Nat := 0
  /-- What became of the objects that have been changed. -/
  changed : Changes := []
deriving Repr

namespace Compilation

/-- An empty compilation. -/
def empty (token : Int) (annotatable : List Kind) : Compilation :=
  { table := { token }, annotatable }

/-- Forgets what became of the objects that have been made behind a start.  When no name stands
for them any more, they are met only in objects that are kept, which hold what they are now. -/
def forget (c : Compilation) (start : Nat) : Compilation :=
  { c with changed := c.changed.filter fun e => !(start < e.1 && e.1 ≤ c.created) }

/-- Declares an entity, or declares it again. -/
def declare (c : Compilation) (kind : Kind) (module qualname : String) (site : Location) :
    Compilation × Identity :=
  let (table, i) := c.table.declare kind module qualname site
  ({ c with table }, i)

/-- Makes a name another name for what a name denotes. -/
def addAlias (c : Compilation) (module name targetModule targetName : String) : Compilation :=
  { c with table := c.table.addAlias module name targetModule targetName }

/-- Appends a value to the records of a declaration; the value must be of exactly
the class that its type names. -/
def record (c : Compilation) (i : Identity) (type : TypeTerm) (value : Value)
    (location : Location) : Except AnnotationError (Compilation × Record) := do
  let _ ← c.table.get i
  if !value.typeOf.equals type.runtimeClass then
    throw ⟨.typeMismatch value.typeOf type, some location⟩
  let (store, r) := c.store.append i type value location
  return ({ c with store }, r)

/-- A value that may be stored, or the refusal at a place. -/
def checkStructural (value : Value) (location : Option Location) :
    Except AnnotationError Value :=
  match value.obstacle? with
  | some o => .error ⟨.notStructural o, location⟩
  | none => .ok value

/-- Attaches a value from outside the sources, under its own class unless a type is given. -/
def annotate (c : Compilation) (i : Identity) (value : Value) (location : Location)
    (type : Option TypeTerm) : Except AnnotationError (Compilation × Record) := do
  if c.store.isEvaluating then throw ⟨.reentrant, some location⟩
  let value ← checkStructural value (some location)
  c.record i (type.getD value.typeOf) value location

/-- Marks a declaration site as read; false when it was before. -/
def elaborate (c : Compilation) (i : Identity) (site : Location) :
    Except AnnotationError (Compilation × Bool) := do
  let _ ← c.table.get i
  if (i, site) ∈ c.store.elaborated then return (c, false)
  return ({ c with store := { c.store with elaborated := (i, site) :: c.store.elaborated } }, true)

/-- Every annotation of a declaration, in the order they were recorded. -/
def annotations (c : Compilation) (i : Identity) : Except AnnotationError (List Record) := do
  let _ ← c.table.get i
  return c.store.recordsOf i

/-- The annotations recorded under exactly the type, as spelled. -/
def annotationsOfType (c : Compilation) (i : Identity) (type : TypeTerm) :
    Except AnnotationError (List Record) := do
  return (← c.annotations i).filter fun r => r.type.equals type

/-- The annotations recorded under the type or another name of it. -/
def matchingAnnotations (c : Compilation) (i : Identity) (type : TypeTerm) :
    Except AnnotationError (List Record) := do
  return (← c.annotations i).filter fun r => r.type.dealias.equals type.dealias

/-- The one value annotated under a type, if all that are under it are equivalent. -/
def singleOfType (c : Compilation) (i : Identity) (type : TypeTerm) :
    Except AnnotationError (Option Value) := do
  match ← c.matchingAnnotations i type with
  | [] => return none
  | r :: rs =>
    if rs.all fun r' => r.value.equivalent r'.value then return some r.value
    else throw ⟨.ambiguous type (r :: rs), some r.location⟩

/-- Whether any annotation is recorded under the type or another name of it. -/
def hasOfType (c : Compilation) (i : Identity) (type : TypeTerm) :
    Except AnnotationError Bool := do
  return !(← c.matchingAnnotations i type).isEmpty

/-- Accepts the annotations of a placement, or says what is wrong with them. -/
def validate {α : Type} (c : Compilation) (p : Placement α) :
    Except AnnotationError (List (AnnotationItem α)) :=
  p.validate c.annotatable

end Compilation

end Marginalia
