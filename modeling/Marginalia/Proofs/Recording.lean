/-
What recording, annotating and elaborating answer, and what they leave behind.

Each operation of a compilation that can fail is given by one equation that lists its
refusals in the order they are met:

* `Compilation.record_eq` — the identity must be live, then the class must be right;
* `Compilation.annotate_eq` — no evaluation goes on, then the value must be structural,
  then the refusals of recording;
* `Compilation.elaborate_eq` — the identity must be live; a site counts once.

A record that is appended is the last one of its owner and of nobody else
(`Store.recordsOf_of_log_eq`).
-/
import Marginalia.Compilation
import Marginalia.Proofs.LiveIdentity

namespace Marginalia

namespace Store

variable (s : Store)

/-- The record that is appended next for an identity. -/
def next (i : Identity) (type : TypeTerm) (value : Value) (location : Location) : Record :=
  ⟨i, type, value, location, (s.recordsOf i).length⟩

@[simp] theorem append_log (i : Identity) (type : TypeTerm) (value : Value)
    (location : Location) :
    (s.append i type value location).1.log = s.log ++ [s.next i type value location] := rfl

theorem mem_recordsOf {i : Identity} {r : Record} :
    r ∈ s.recordsOf i ↔ r ∈ s.log ∧ r.owner = i := by
  simp [recordsOf]

/-- A record is appended to the records of its owner only. -/
theorem recordsOf_of_log_eq {s s' : Store} {r : Record} (h : s'.log = s.log ++ [r])
    (i : Identity) :
    s'.recordsOf i = s.recordsOf i ++ if r.owner = i then [r] else [] := by
  unfold recordsOf
  rw [h, List.filter_append]
  by_cases hi : r.owner = i <;> simp [hi]

theorem recordsOf_append (i j : Identity) (type : TypeTerm) (value : Value)
    (location : Location) :
    (s.append i type value location).1.recordsOf j =
      s.recordsOf j ++ if i = j then [s.next i type value location] else [] :=
  recordsOf_of_log_eq (s.append_log i type value location) j

theorem recordsOf_congr {s s' : Store} (h : s'.log = s.log) (i : Identity) :
    s'.recordsOf i = s.recordsOf i := by
  unfold recordsOf
  rw [h]

/-- What is appended to the log stands at the end of the records of each owner. -/
theorem recordsOf_prefix {s s' : Store} (h : s.log <+: s'.log) (i : Identity) :
    s.recordsOf i <+: s'.recordsOf i := h.filter _

end Store

namespace Compilation

variable (c : Compilation) (i : Identity) (type : TypeTerm) (value : Value)
  (location : Location)

/-- The compilation with one more record. -/
def recorded : Compilation := { c with store := (c.store.append i type value location).1 }

theorem record_eq :
    c.record i type value location =
      if c.table.isLive i then
        if value.typeOf.equals type.runtimeClass then
          .ok (c.recorded i type value location, c.store.next i type value location)
        else .error ⟨.typeMismatch value.typeOf type, some location⟩
      else .error ⟨.notLive i, none⟩ := by
  unfold record
  rw [Table.get_bind]
  cases value.typeOf.equals type.runtimeClass <;> rfl

theorem record_eq_ok_iff {c' : Compilation} {r : Record} :
    c.record i type value location = .ok (c', r) ↔
      c.table.isLive i = true ∧ value.typeOf.equals type.runtimeClass = true ∧
        c' = c.recorded i type value location ∧ r = c.store.next i type value location := by
  rw [record_eq]
  constructor
  · intro h
    split at h
    · split at h
      · rename_i hlive hclass
        cases h
        exact ⟨hlive, hclass, rfl, rfl⟩
      · cases h
    · cases h
  · rintro ⟨hlive, hclass, rfl, rfl⟩
    rw [if_pos hlive, if_pos hclass]

/-! ### The other operations -/

theorem checkStructural_eq (l : Option Location) :
    checkStructural value l =
      match value.obstacle? with
      | some o => .error ⟨.notStructural o, l⟩
      | none => .ok value := rfl

theorem annotate_eq (given : Option TypeTerm) :
    c.annotate i value location given =
      if c.store.isEvaluating then .error ⟨.reentrant, some location⟩
      else
        match value.obstacle? with
        | some o => .error ⟨.notStructural o, some location⟩
        | none => c.record i (given.getD value.typeOf) value location := by
  unfold annotate
  rw [checkStructural_eq]
  split
  · rfl
  · cases value.obstacle? <;> rfl

theorem elaborate_eq (site : Location) :
    c.elaborate i site =
      if c.table.isLive i then
        if (i, site) ∈ c.store.elaborated then .ok (c, false)
        else
          .ok ({ c with store :=
            { c.store with elaborated := (i, site) :: c.store.elaborated } }, true)
      else .error ⟨.notLive i, none⟩ := by
  unfold elaborate
  rw [Table.get_bind]
  rfl

theorem annotations_eq :
    c.annotations i =
      if c.table.isLive i then .ok (c.store.recordsOf i) else .error ⟨.notLive i, none⟩ := by
  unfold annotations
  rw [Table.get_bind]
  rfl

end Compilation

end Marginalia
