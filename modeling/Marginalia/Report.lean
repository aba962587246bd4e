/-
Reports about declarations and their annotations.

An `Entry` is a declaration with its records.  A report lists entries as JSON, or as one
table for each module.
-/
import Marginalia.Compilation
import Marginalia.Fault
import Marginalia.Report.Json
import Marginalia.Terminal.Screen

namespace Marginalia

namespace Report

/-- A declaration and its annotations. -/
structure Entry where
  declaration : Declaration
  records : List Record

/-- The declarations that carry annotations, in the order they were declared. -/
def annotated (c : Compilation) : List Entry :=
  (c.table.entries.map fun d => (⟨d, c.store.recordsOf d.identity⟩ : Entry)).filter
    fun e => !e.records.isEmpty

/-- A value as it is written, if its integers are not too long. -/
def valueText (v : Value) : Except Fault String :=
  if v.isWritable then .ok v.written else .error .tooManyDigits

/-- A record in a report. -/
def recordJson (r : Record) : Except Fault Json := do
  return .ofMembers [
    ("type", .text r.type.displayName),
    ("value", .text (← valueText r.value)),
    ("location", .text r.location.toString)]

/-- An entry in a report. -/
def entryJson (e : Entry) : Except Fault Json := do
  return .ofMembers [
    ("declaration", .text e.declaration.path),
    ("kind", .text e.declaration.kind.label),
    ("annotations", .list (← e.records.mapM recordJson))]

/-- A report as JSON. -/
def toJson (es : List Entry) : Except Fault Json := do
  return .ofMembers [("declarations", .list (← es.mapM entryJson))]

/-- A row for a record: declaration, kind, type, value and location. -/
structure Row where
  declaration : String
  kind : String
  type : String
  value : String
  location : String
deriving Repr

/-- The row for a record of a declaration. -/
def row (d : Declaration) (r : Record) : Except Fault Row := do
  return {
    declaration := if d.qualname.isEmpty then "<module>" else d.qualname
    kind := d.kind.label
    type := r.type.displayName
    value := ← valueText r.value
    location := r.location.toString }

/-- The columns for rows. -/
def columns (rows : List Row) : List Column := [
  ⟨"declaration", 3, rows.map Row.declaration⟩,
  ⟨"kind", 1, rows.map Row.kind⟩,
  ⟨"type", 2, rows.map Row.type⟩,
  ⟨"value", 4, rows.map Row.value⟩,
  ⟨"location", 2, rows.map Row.location⟩]

/-- The modules of entries, in the order of their names. -/
def modules (es : List Entry) : List String :=
  ((es.map fun e => e.declaration.module).mergeSort fun a b => a ≤ b).eraseDups

/-- The rows for the records of a module. -/
def rowsOf (es : List Entry) (module : String) : Except Fault (List Row) := do
  let entries := es.filter fun e => e.declaration.module == module
  let rows ← entries.mapM fun e => e.records.mapM (row e.declaration)
  return rows.flatten

/-- Why a report cannot be written. -/
inductive Failure where
  | value (f : Fault)
  | markup (f : MarkupFault)

/-- The heading and the table of a module, line by line. -/
def moduleLines (s : Screen) (es : List Entry) (module : String) :
    Except Failure (List (List Char)) := do
  let heading ← (s.heading module).mapError .markup
  let rows ← (rowsOf es module).mapError .value
  let table ← (s.table (columns rows)).mapError .markup
  return heading :: table

/-- A report as tables. -/
def toTables (s : Screen) (es : List Entry) : Except Failure String := do
  let lines ← (modules es).mapM (moduleLines s es)
  return String.ofList (lines.flatten.flatMap fun l => l ++ ['\n'])

end Report

end Marginalia
