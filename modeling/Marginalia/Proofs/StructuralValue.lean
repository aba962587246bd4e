/-
The shape of structural values.

`Value.isStructural` looks for the first obstacle in a value; here the values it accepts
are described by how they are made.

* `Value.Throughout P` — a property of a value and of every value inside it, at any depth;
* `Value.WellFormed` — what holds of every value that can be made: the members of a set
  are told apart by `==` and identity, a record has a value for each field of its class,
  and an object of a derived class is one of the class it is derived from;
* `Value.IsConstant` — the structural values by cases: scalars, members of enumerations,
  and tuples, sets and frozen records of such values;
* `Value.isConstant_iff` — the cases are exactly the well-formed values that are accepted.
-/
import Mathlib.Tactic
import Marginalia.Value.Structural
import Marginalia.Value.Equivalent

namespace Marginalia

namespace Value

/-- The values that a container which cannot change is made of. -/
def parts : Value → List Value
  | tuple vs | frozenset vs | record _ _ vs => vs
  | derived _ v => [v]
  | _ => []

/-- A property holds of a value and of everything inside it. -/
inductive Throughout (P : Value → Prop) : Value → Prop
  | intro {v : Value} (here : P v) (inside : ∀ w ∈ v.parts, Throughout P w) : Throughout P v

namespace Throughout

variable {P : Value → Prop} {v : Value}

theorem here (h : Throughout P v) : P v := by
  cases h
  assumption

theorem inside (h : Throughout P v) : ∀ w ∈ v.parts, Throughout P w := by
  cases h
  assumption

end Throughout

/-- What holds of a single value that was made by its class. -/
def WellMade : Value → Prop
  | frozenset vs => vs.Pairwise fun v w => matching w v = false
  | record c _ vs => vs.length = c.fields.length
  | derived c v => v.typeOf = .builtin c.base ∧
      ∀ names, c.fieldNames = some names → v.parts.length = names.length
  | _ => True

/-- A value in which everything was made by its class. -/
def WellFormed (v : Value) : Prop := v.Throughout WellMade

/-! ### Structural values by cases -/

/-- The values that cannot change and have no identity beside their content. -/
inductive IsConstant : Value → Prop
  | nothing : IsConstant nothing
  | bool (b : Bool) : IsConstant (bool b)
  | int (n : Int) : IsConstant (int n)
  | str (s : String) : IsConstant (str s)
  | bytes (bs : List UInt8) : IsConstant (bytes bs)
  | float (x : Binary64) (m : Mark) : IsConstant (float x m)
  | complex (a b : Binary64) (m : Mark) : IsConstant (complex a b m)
  | member (c : EnumClass) (d : Datum) : IsConstant (member c d)
  | tuple {vs : List Value} (inside : ∀ v ∈ vs, IsConstant v) : IsConstant (tuple vs)
  | frozenset {vs : List Value} (inside : ∀ v ∈ vs, IsConstant v)
      (distinct : vs.Pairwise fun v w => matching w v = false) : IsConstant (frozenset vs)
  | derivedTuple (c : DerivedClass) {vs : List Value} (base : IsConstant (tuple vs))
      (made : WellMade (derived c (tuple vs))) : IsConstant (derived c (tuple vs))
  | derivedSet (c : DerivedClass) {vs : List Value} (base : IsConstant (frozenset vs))
      (made : WellMade (derived c (frozenset vs))) : IsConstant (derived c (frozenset vs))
  | record (c : RecordClass) (m : Mark) {vs : List Value} (frozen : c.frozen = true)
      (equatable : c.equatable = true) (length : vs.length = c.fields.length)
      (inside : ∀ v ∈ vs, IsConstant v) : IsConstant (record c m vs)

/-! ### The check against the cases -/

section Check

attribute [local simp] obstacle? itemObstacle? fieldObstacle?

theorem itemObstacle?_eq_none_iff {vs : List Value} {i : Nat} :
    itemObstacle? i vs = none ↔ ∀ v ∈ vs, v.obstacle? = none := by
  induction vs generalizing i with
  | nil => simp
  | cons v vs ih =>
    rw [itemObstacle?]
    cases hv : v.obstacle? with
    | none => simp [hv, ih]
    | some o => simp [hv]

theorem fieldObstacle?_eq_none_iff {fs : List RecordField} {vs : List Value}
    (hlength : vs.length = fs.length) :
    fieldObstacle? fs vs = none ↔ ∀ v ∈ vs, v.obstacle? = none := by
  induction vs generalizing fs with
  | nil =>
    cases fs <;> simp
  | cons v vs ih =>
    obtain _ | ⟨f, fs⟩ := fs
    · simp at hlength
    · rw [fieldObstacle?]
      cases hv : v.obstacle? with
      | none => simp [hv, ih (Nat.succ.inj hlength)]
      | some o => simp [hv]

theorem obstacle?_tuple (vs : List Value) : (tuple vs).obstacle? = itemObstacle? 0 vs := by
  simp

theorem obstacle?_frozenset (vs : List Value) :
    (frozenset vs).obstacle? = itemObstacle? 0 vs := by
  simp

/-- An object of a derived class is looked into where the object it is derived from is. -/
theorem obstacle?_derivedTuple (c : DerivedClass) (vs : List Value) :
    (derived c (tuple vs)).obstacle? = (tuple vs).obstacle? := by
  simp

theorem obstacle?_derivedSet (c : DerivedClass) (vs : List Value) :
    (derived c (frozenset vs)).obstacle? = (frozenset vs).obstacle? := by
  simp

theorem obstacle?_record (c : RecordClass) (m : Mark) (vs : List Value) :
    (record c m vs).obstacle? =
      if !c.frozen then some ⟨[], .mutableRecord c⟩
      else if !c.equatable then some ⟨[], .withoutFieldEquality c⟩
      else fieldObstacle? c.fields vs := by
  simp

end Check

theorem isStructural_iff {v : Value} : v.isStructural = true ↔ v.obstacle? = none := by
  simp [isStructural]

namespace IsConstant

theorem isStructural {v : Value} (h : IsConstant v) : v.isStructural = true := by
  rw [isStructural_iff]
  induction h with
  | tuple inside ih => rwa [obstacle?_tuple, itemObstacle?_eq_none_iff]
  | frozenset inside distinct ih => rwa [obstacle?_frozenset, itemObstacle?_eq_none_iff]
  | derivedTuple c base made ih => rwa [obstacle?_derivedTuple]
  | derivedSet c base made ih => rwa [obstacle?_derivedSet]
  | record c m frozen equatable length inside ih =>
    rw [obstacle?_record, frozen, equatable]
    exact (fieldObstacle?_eq_none_iff length).mpr ih
  | _ => rfl

theorem wellFormed {v : Value} (h : IsConstant v) : v.WellFormed := by
  induction h with
  | tuple inside ih => exact ⟨trivial, ih⟩
  | frozenset inside distinct ih => exact ⟨distinct, ih⟩
  | derivedTuple c base made ih => exact ⟨made, List.forall_mem_singleton.mpr ih⟩
  | derivedSet c base made ih => exact ⟨made, List.forall_mem_singleton.mpr ih⟩
  | record c m frozen equatable length inside ih => exact ⟨length, ih⟩
  | _ => exact ⟨trivial, by simp [parts]⟩

end IsConstant

theorem isConstant_of_obstacle? {v : Value} (hw : v.WellFormed) (hs : v.obstacle? = none) :
    IsConstant v := by
  induction hw with
  | @intro v here inside ih =>
    cases v with
    | nothing => exact .nothing
    | bool b => exact .bool b
    | int n => exact .int n
    | str s => exact .str s
    | bytes bs => exact .bytes bs
    | float x m => exact .float x m
    | complex a b m => exact .complex a b m
    | member c d => exact .member c d
    | tuple vs =>
      rw [obstacle?_tuple, itemObstacle?_eq_none_iff] at hs
      exact .tuple fun v hv => ih v hv (hs v hv)
    | frozenset vs =>
      rw [obstacle?_frozenset, itemObstacle?_eq_none_iff] at hs
      exact .frozenset (fun v hv => ih v hv (hs v hv)) here
    | record c m vs =>
      rw [obstacle?_record] at hs
      split at hs
      · cases hs
      · split at hs
        · cases hs
        · rename_i hfrozen hequatable
          rw [fieldObstacle?_eq_none_iff here] at hs
          exact .record c m (by simpa using hfrozen) (by simpa using hequatable) here
            fun v hv => ih v hv (hs v hv)
    | derived c v =>
      have hbase := ih v (List.mem_singleton_self v)
      -- only objects derived from tuples and sets are looked into
      cases v with
      | tuple vs => exact .derivedTuple c (hbase (by rwa [obstacle?_derivedTuple] at hs)) here
      | frozenset vs => exact .derivedSet c (hbase (by rwa [obstacle?_derivedSet] at hs)) here
      | _ => simp [obstacle?] at hs
    | _ => simp [obstacle?] at hs

theorem isConstant_iff {v : Value} :
    IsConstant v ↔ v.isStructural = true ∧ v.WellFormed :=
  ⟨fun h => ⟨h.isStructural, h.wellFormed⟩,
    fun h => isConstant_of_obstacle? h.2 (isStructural_iff.mp h.1)⟩

end Value

end Marginalia
