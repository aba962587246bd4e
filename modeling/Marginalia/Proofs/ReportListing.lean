/-
What a report lists.

A report tells the path and the kind of each declaration, and the type, the value and the
location of each of its records (`Report.Entry.texts`).  `Report.listing` spells that out: an
object for each entry, and in it one for each record, the members in the order of their names.
A report is this listing when all its values are short enough to be written, and nothing but that
fault otherwise (`Report.toJson_eq`).  The same holds of the rows of a table (`Report.rowsOf_eq`).
-/
import Marginalia.Report
import Marginalia.Proofs.LegibleSource

namespace Marginalia

section Results

variable {ε α β : Type}

theorem ite_ok_bind {P : Prop} [Decidable P] (a : α) (fault : ε) (f : α → Except ε β) :
    ((if P then .ok a else .error fault) >>= f) = if P then f a else .error fault := by
  split <;> rfl

/-- A list of results that have one fault only, if any: all of them, or that fault. -/
theorem mapM_eq_ite {P : α → Prop} [DecidablePred P] {f : α → Except ε β} {g : α → β} {fault : ε}
    (hf : ∀ x, f x = if P x then .ok (g x) else .error fault) (xs : List α) :
    xs.mapM f = if ∀ x ∈ xs, P x then .ok (xs.map g) else .error fault := by
  -- there is one fault only, so it does not matter which of the elements has it
  induction xs with
  | nil => rfl
  | cons x xs ih =>
    rw [List.mapM_cons, hf, ih]
    by_cases hx : P x
    · by_cases hxs : ∀ y ∈ xs, P y
      · rw [if_pos hx, if_pos hxs, if_pos (List.forall_mem_cons.mpr ⟨hx, hxs⟩)]
        rfl
      · rw [if_pos hx, if_neg hxs, if_neg fun h => hxs (List.forall_mem_cons.mp h).2]
        rfl
    · rw [if_neg hx, if_neg fun h => hx (List.forall_mem_cons.mp h).1]
      rfl

end Results

namespace Report

/-- The values of an entry are short enough to be written. -/
def Entry.Legible (e : Entry) : Prop := ∀ r ∈ e.records, r.value.isWritable = true

instance : DecidablePred Entry.Legible :=
  fun e => inferInstanceAs (Decidable (∀ r ∈ e.records, r.value.isWritable = true))

/-! ### What a report tells -/

/-- What a report tells of a record. -/
structure RecordTexts where
  type : String
  value : String
  location : String
deriving DecidableEq

/-- What a report tells of a declaration. -/
structure EntryTexts where
  declaration : String
  kind : String
  annotations : List RecordTexts
deriving DecidableEq

def recordTexts (r : Record) : RecordTexts :=
  ⟨r.type.displayName, r.value.written, r.location.toString⟩

def Entry.texts (e : Entry) : EntryTexts :=
  ⟨e.declaration.path, e.declaration.kind.label, e.records.map recordTexts⟩

/-! ### Reports as JSON -/

/-- A record, spelled out. -/
def RecordTexts.json (r : RecordTexts) : Json :=
  .object [("location", .text r.location), ("type", .text r.type), ("value", .text r.value)]

/-- An entry, spelled out. -/
def EntryTexts.json (e : EntryTexts) : Json :=
  .object [("annotations", .list (e.annotations.map RecordTexts.json)),
    ("declaration", .text e.declaration), ("kind", .text e.kind)]

/-- A report, spelled out. -/
def listing (es : List Entry) : Json :=
  .object [("declarations", .list (es.map fun e => e.texts.json))]

/-- Nothing but the texts counts in a report. -/
theorem listing_eq (es : List Entry) :
    listing es = .object [("declarations", .list ((es.map Entry.texts).map EntryTexts.json))] := by
  rw [listing, List.map_map]
  rfl

theorem recordJson_eq (r : Record) :
    recordJson r =
      if r.value.isWritable = true then .ok (recordTexts r).json else .error .tooManyDigits := by
  -- members are sorted by their names
  have hmembers : Json.ofMembers [("type", .text r.type.displayName),
      ("value", .text r.value.written), ("location", .text r.location.toString)] =
        (recordTexts r).json := by
    simp [Json.ofMembers, RecordTexts.json, recordTexts, List.mergeSort,
      List.MergeSort.Internal.splitInTwo]
  rw [recordJson, valueText, ite_ok_bind, hmembers]
  rfl

theorem entryJson_eq (e : Entry) :
    entryJson e = if e.Legible then .ok e.texts.json else .error .tooManyDigits := by
  have hmembers : Json.ofMembers [("declaration", .text e.declaration.path),
      ("kind", .text e.declaration.kind.label),
      ("annotations", .list (e.records.map fun r => (recordTexts r).json))] = e.texts.json := by
    simp [Json.ofMembers, EntryTexts.json, Entry.texts, List.mergeSort,
      List.MergeSort.Internal.splitInTwo]
  have hrecords : e.records.mapM recordJson =
      if e.Legible then .ok (e.records.map fun r => (recordTexts r).json)
      else .error .tooManyDigits :=
    mapM_eq_ite recordJson_eq e.records
  rw [entryJson, hrecords, ite_ok_bind, hmembers]
  rfl

/-- A report lists all its entries, unless a value is too long to be written. -/
theorem toJson_eq (es : List Entry) :
    toJson es = if ∀ e ∈ es, e.Legible then .ok (listing es) else .error .tooManyDigits := by
  have hmember : Json.ofMembers [("declarations", .list (es.map fun e => e.texts.json))] =
      listing es := by
    simp [Json.ofMembers, listing]
  rw [toJson, mapM_eq_ite entryJson_eq, ite_ok_bind, hmember]
  rfl

/-! ### Reports as tables -/

/-- A record of a declaration, as a row shows it. -/
def rowListing (d : Declaration) (r : Record) : Row where
  declaration := if d.qualname.isEmpty then "<module>" else d.qualname
  kind := d.kind.label
  type := r.type.displayName
  value := r.value.written
  location := r.location.toString

/-- The entries in a module. -/
def inModule (es : List Entry) (module : String) : List Entry :=
  es.filter fun e => e.declaration.module == module

/-- The records of entries, as rows show them. -/
def rowsListing (es : List Entry) : List Row :=
  es.flatMap fun e => e.records.map (rowListing e.declaration)

theorem row_eq (d : Declaration) (r : Record) :
    row d r =
      if r.value.isWritable = true then .ok (rowListing d r) else .error .tooManyDigits := by
  rw [row, valueText, ite_ok_bind]
  rfl

/-- The rows of a module show all records of its entries, unless a value is too long. -/
theorem rowsOf_eq (es : List Entry) (module : String) :
    rowsOf es module =
      if ∀ e ∈ inModule es module, e.Legible then
        .ok (rowsListing (inModule es module))
      else .error .tooManyDigits := by
  have hentry : ∀ e : Entry, e.records.mapM (row e.declaration) =
      if e.Legible then .ok (e.records.map (rowListing e.declaration))
      else .error .tooManyDigits := fun e => mapM_eq_ite (row_eq e.declaration) e.records
  show (do let rows ← (inModule es module).mapM fun e : Entry => e.records.mapM (row e.declaration)
           return rows.flatten) = _
  rw [mapM_eq_ite hentry, ite_ok_bind, rowsListing, List.flatMap_def]
  rfl

end Report

end Marginalia
