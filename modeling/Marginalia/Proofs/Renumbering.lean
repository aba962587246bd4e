/-
Values with their objects numbered anew.

Which number an object has says nothing about it: only whether two numbers are the same one
does.  A `Renumbering` gives every object another number, different ones to different objects.
The questions that are asked about values have the same answers afterwards, and what is made of
values is made of the renumbered ones, renumbered.

* `Value.renumber` — a value with the objects in it renumbered;
* `Value.matching_renumber`, `Value.isSame_renumber` — equality and identity do not see it;
* `Value.written_renumber`, `Value.obstacle_renumber` — nor does what is written or stored;
* `Value.equivalent_renumber` — a value that can be stored is equivalent to itself renumbered;
* `Value.Alike` — values that differ in the numbers of objects only.
-/
import Mathlib.Tactic
import Marginalia.Proofs.EquivalenceLaws
import Marginalia.Value.Construct
import Marginalia.Value.Held
import Marginalia.Value.Structural

namespace Marginalia

/-- New numbers for objects: each object gets a number of its own, and what has no number gets
none. -/
structure Renumbering where
  number : Mark → Mark
  injective : Function.Injective number
  zero : number 0 = 0

namespace Renumbering

instance : CoeFun Renumbering fun _ => Mark → Mark := ⟨number⟩

variable (f : Renumbering)

@[simp] theorem apply_zero : f 0 = 0 := f.zero

@[simp] theorem apply_eq_apply {m n : Mark} : f m = f n ↔ m = n := f.injective.eq_iff

@[simp] theorem apply_beq_apply (m n : Mark) : (f m == f n) = (m == n) := by
  rw [Bool.eq_iff_iff, beq_iff_eq, beq_iff_eq, apply_eq_apply]

@[simp] theorem apply_eq_zero {m : Mark} : f m = 0 ↔ m = 0 := by
  have h := f.apply_eq_apply (m := m) (n := 0)
  rwa [apply_zero] at h

/-- The renumbering that leaves every object its number. -/
def refl : Renumbering := ⟨id, Function.injective_id, rfl⟩

@[simp] theorem refl_apply (m : Mark) : refl m = m := rfl

end Renumbering

namespace Value

mutual

/-- A value with the objects in it renumbered. -/
def renumber (f : Renumbering) : Value → Value
  | float x m => float x (f m)
  | complex a b m => complex a b (f m)
  | bytearray m bs => bytearray (f m) bs
  | tuple vs => tuple (renumberAll f vs)
  | list m vs => list (f m) (renumberAll f vs)
  | set m vs => set (f m) (renumberAll f vs)
  | frozenset vs => frozenset (renumberAll f vs)
  | dict m ks vs => dict (f m) (renumberAll f ks) (renumberAll f vs)
  | slice a b c => slice (renumber f a) (renumber f b) (renumber f c)
  | record c m vs => record c (f m) (renumberAll f vs)
  | derived c v => derived c (renumber f v)
  | object c m => object c (f m)
  | method v n => method (renumber f v) n
  | space ns vs => space ns (renumberAll f vs)
  | nothing => nothing
  | ellipsis => ellipsis
  | bool b => bool b
  | int n => int n
  | str s => str s
  | bytes bs => bytes bs
  | member c d => member c d
  | type t => type t
  | function n => function n
  | slot t n => slot t n

/-- Several values with the objects in them renumbered. -/
def renumberAll (f : Renumbering) : List Value → List Value
  | [] => []
  | v :: vs => renumber f v :: renumberAll f vs

end

variable (f : Renumbering)

@[simp] theorem renumberAll_eq (vs : List Value) : renumberAll f vs = vs.map (renumber f) := by
  induction vs with
  | nil => rfl
  | cons v vs ih => rw [renumberAll, ih, List.map_cons]

attribute [simp] renumber

mutual

@[simp] theorem renumber_refl : ∀ v : Value, v.renumber .refl = v
  | tuple vs | list _ vs | set _ vs | frozenset vs | record _ _ vs | space _ vs => by
    simp [map_renumber_refl vs]
  | dict _ ks vs => by simp [map_renumber_refl ks, map_renumber_refl vs]
  | slice a b c => by simp [renumber_refl a, renumber_refl b, renumber_refl c]
  | derived _ v | method v _ => by simp [renumber_refl v]
  | nothing | ellipsis | bool _ | int _ | float .. | complex .. | str _ | bytes _ | bytearray ..
  | member .. | object .. | type _ | function _ | slot .. => by simp

theorem map_renumber_refl : ∀ vs : List Value, vs.map (renumber .refl) = vs
  | [] => rfl
  | v :: vs => by rw [List.map_cons, renumber_refl v, map_renumber_refl vs]

end

mutual

@[simp] theorem toValue_renumber : ∀ d : Datum, d.toValue.renumber f = d.toValue
  | .nothing | .flag _ | .number _ | .text _ => rfl
  | .items ds => by
    have h := toValues_renumber ds
    simp [Datum.toValue, h]

theorem toValues_renumber : ∀ ds : List Datum,
    (Datum.toValues ds).map (renumber f) = Datum.toValues ds
  | [] => rfl
  | d :: ds => by
    rw [Datum.toValues, List.map_cons, toValue_renumber d, toValues_renumber ds]

end

/-! ### What a value is -/

@[simp] theorem typeOf_renumber (v : Value) : (v.renumber f).typeOf = v.typeOf := by
  cases v with
  | method v n => cases v <;> simp [typeOf]
  | _ => simp [typeOf]

@[simp] theorem typeName_renumber (v : Value) : (v.renumber f).typeName = v.typeName := by
  simp [typeName]

@[simp] theorem className_renumber (v : Value) : (v.renumber f).className = v.className := by
  simp [className]

@[simp] theorem plain_renumber (v : Value) : (v.renumber f).plain = v.plain.renumber f := by
  cases v with
  | member c d =>
    simp only [renumber, plain]
    cases c.flavour <;> simp
  | _ => simp [plain]

@[simp] theorem quantity_renumber (v : Value) : (v.renumber f).quantity? = v.quantity? := by
  unfold quantity?
  rw [plain_renumber]
  cases v.plain <;> simp

@[simp] theorem bytes_renumber (v : Value) : (v.renumber f).bytes? = v.bytes? := by
  cases v <;> simp [bytes?]

@[simp] theorem setItems_renumber (v : Value) :
    (v.renumber f).setItems? = v.setItems?.map (List.map (renumber f)) := by
  cases v <;> simp [setItems?]

@[simp] theorem isUndefined_renumber (v : Value) : (v.renumber f).isUndefined = v.isUndefined := by
  unfold isUndefined
  rw [plain_renumber]
  cases v.plain <;> simp

/-! ### Equality -/

@[simp] theorem equalsAtom_renumber (v w : Value) :
    equalsAtom (v.renumber f) (w.renumber f) = equalsAtom v w := by
  unfold equalsAtom
  simp only [quantity_renumber, plain_renumber]
  generalize v.plain = a, w.plain = b
  split
  · rfl
  · rfl
  · rfl
  · cases a <;> first | rfl | (cases b <;> first | rfl | simp)

@[simp] theorem sameUndefined_renumber (v w : Value) :
    sameUndefined (v.renumber f) (w.renumber f) = sameUndefined v w := by
  unfold sameUndefined
  simp only [plain_renumber]
  generalize v.plain = a, w.plain = b
  cases a <;> first | rfl | (cases b <;> simp)

mutual

@[simp] theorem matching_renumber : ∀ v w : Value,
    matching (v.renumber f) (w.renumber f) = matching v w
  | derived c v, w => by simp [matching, matching_renumber v w]
  | tuple vs, w => by
    have h := matchingAll_renumber vs
    simp only [renumber, renumberAll_eq, matching, plain_renumber]
    cases w.plain <;> simp [h]
  | list m vs, w => by
    have h := matchingAll_renumber vs
    simp only [renumber, renumberAll_eq, matching, plain_renumber]
    cases w.plain <;> simp [h]
  | set m vs, w => by
    have h := allFound_renumber vs
    simp only [renumber, renumberAll_eq, matching, plain_renumber, setItems_renumber]
    cases w.plain.setItems? <;> simp [h]
  | frozenset vs, w => by
    have h := allFound_renumber vs
    simp only [renumber, renumberAll_eq, matching, plain_renumber, setItems_renumber]
    cases w.plain.setItems? <;> simp [h]
  -- the keys are found at the same places, so the same values are compared
  | dict m ks vs, w => by
    have hplaces := places_renumber ks
    have h := matchingAll_renumber vs
    simp only [renumber, renumberAll_eq, matching, plain_renumber]
    cases w.plain with
    | dict n ks' ws =>
      simp only [renumber, renumberAll_eq, List.length_map, hplaces]
      cases places ks ks' with
      | none => rfl
      | some is =>
        have hitems : (is.filterMap fun i => (ws.map (renumber f))[i]?) =
            (is.filterMap fun i => ws[i]?).map (renumber f) := by
          simp [List.map_filterMap]
        simp only [hitems, h]
    | _ => simp
  | record c m vs, w => by
    have h := matchingFields_renumber c.fields vs
    cases w <;> simp [matching, h]
  | slice a b c, w => by
    cases w <;> simp [matching, matching_renumber a, matching_renumber b, matching_renumber c]
  | method v n, w => by
    cases w <;> simp [matching, matching_renumber v]
  | slot t n, w => by cases w <;> simp [matching]
  | space ns vs, w => by
    have h := matchingAll_renumber vs
    cases w <;> simp [matching, h]
  | nothing, w | ellipsis, w | bool _, w | int _, w | float _ _, w | complex _ _ _, w | str _, w
  | bytes _, w | bytearray _ _, w | member _ _, w | object _ _, w | type _, w | function _, w => by
    simp only [renumber, matching]
    rw [← sameUndefined_renumber f _ w, ← equalsAtom_renumber f _ w]
    simp only [renumber]

theorem matchingAll_renumber : ∀ vs ws : List Value,
    matchingAll (vs.map (renumber f)) (ws.map (renumber f)) = matchingAll vs ws
  | [], [] | [], _ :: _ | _ :: _, [] => by simp [matchingAll]
  | v :: vs, w :: ws => by
    simp [matchingAll, matching_renumber v w, matchingAll_renumber vs ws]

theorem matchingFields_renumber : ∀ (fs : List RecordField) (vs ws : List Value),
    matchingFields fs (vs.map (renumber f)) (ws.map (renumber f)) = matchingFields fs vs ws
  | [], [], [] | _ :: _, [], [] => by simp [matchingFields]
  | [], _ :: _, _ | [], [], _ :: _ | _ :: _, [], _ :: _ | _ :: _, _ :: _, [] => by
    simp [matchingFields]
  | g :: fs, v :: vs, w :: ws => by
    simp [matchingFields, matching_renumber v w, matchingFields_renumber fs vs ws]

theorem allFound_renumber : ∀ vs ws : List Value,
    allFound (vs.map (renumber f)) (ws.map (renumber f)) = allFound vs ws
  | [], _ => by simp [allFound]
  | v :: vs, ws => by
    have h := fun w => matching_renumber v w
    simp [allFound, allFound_renumber vs ws, List.any_map, Function.comp_def, h]

theorem places_renumber : ∀ vs ws : List Value,
    places (vs.map (renumber f)) (ws.map (renumber f)) = places vs ws
  | [], _ => by simp [places]
  | v :: vs, ws => by
    have h := fun w => matching_renumber v w
    simp [places, places_renumber vs ws, List.findIdx?_map, Function.comp_def, h]

end

@[simp] theorem equals_renumber (v w : Value) :
    equals (v.renumber f) (w.renumber f) = equals v w := by
  simp [equals]

@[simp] theorem isAmong_renumber (v : Value) (ws : List Value) :
    isAmong (v.renumber f) (ws.map (renumber f)) = isAmong v ws := by
  simp [isAmong, List.any_map, Function.comp_def]

@[simp] theorem distinct_renumber (vs : List Value) :
    distinct (vs.map (renumber f)) = (distinct vs).map (renumber f) := by
  -- the items kept so far are renumbered, too
  have hfrom : ∀ ws : List Value,
      (vs.map (renumber f)).foldl (fun ws v => if v.isAmong ws then ws else ws ++ [v])
          (ws.map (renumber f)) =
        (vs.foldl (fun ws v => if v.isAmong ws then ws else ws ++ [v]) ws).map (renumber f) := by
    induction vs with
    | nil => simp
    | cons v vs ih =>
      intro ws
      rw [List.map_cons, List.foldl_cons, List.foldl_cons, isAmong_renumber, ← ih]
      split <;> simp
  exact hfrom []

@[simp] theorem isSame_renumber (v w : Value) :
    isSame (v.renumber f) (w.renumber f) = isSame v w := by
  have h := congrArg₂ and (congrArg₂ TypeTerm.equals (typeOf_renumber f v) (typeOf_renumber f w))
    (matching_renumber f v w)
  have hundefined := sameUndefined_renumber f v w
  have hv := isUndefined_renumber f v
  have hw := isUndefined_renumber f w
  cases v <;> first | exact h | (cases w <;> first | exact h | simp_all [isSame])

mutual

@[simp] theorem unhashable_renumber : ∀ v : Value, (v.renumber f).unhashable? = v.unhashable?
  | tuple vs => by simpa [unhashable?] using unhashableItem_renumber vs
  | derived c v => by simp [unhashable?, unhashable_renumber v]
  | record c m vs => by
    have h := unhashableField_renumber c.fields vs
    have hname := className_renumber f (record c m vs)
    simp only [renumber, renumberAll_eq] at hname
    simp [unhashable?, h, hname]
  | frozenset _ | nothing | ellipsis | bool _ | int _ | float .. | complex .. | str _ | bytes _
  | member .. | object .. | type _ | function _ | method .. | slot .. => by simp [unhashable?]
  -- the class is named in the refusal
  | list .. | set .. | dict .. | bytearray .. | slice .. | space .. => by
    simp [unhashable?, className, typeOf]

theorem unhashableItem_renumber : ∀ vs : List Value,
    unhashableItem? (vs.map (renumber f)) = unhashableItem? vs
  | [] => rfl
  | v :: vs => by simp [unhashableItem?, unhashable_renumber v, unhashableItem_renumber vs]

theorem unhashableField_renumber : ∀ (fs : List RecordField) (vs : List Value),
    unhashableField? fs (vs.map (renumber f)) = unhashableField? fs vs
  | _, [] | [], _ :: _ => by simp [unhashableField?]
  | g :: fs, v :: vs => by
    simp [unhashableField?, unhashable_renumber v, unhashableField_renumber fs vs]

end

/-! ### What is written and what can be stored -/

mutual

@[simp] theorem written_renumber : ∀ v : Value, (v.renumber f).written = v.written
  | tuple vs | list _ vs => by simp [written, writtenAll_renumber vs]
  | set _ [] | frozenset [] => by simp [written]
  | set _ (v :: vs) | frozenset (v :: vs) => by
    simp [written, written_renumber v, writtenAll_renumber vs]
  | dict _ ks vs => by simp [written, writtenAll_renumber vs, writtenEntries_renumber ks]
  | slice a b c => by
    simp [written, written_renumber a, written_renumber b, written_renumber c]
  | record c _ vs => by simp [written, writtenFields_renumber _ vs]
  | derived c v => by
    have h := written_renumber v
    cases v with
    | tuple vs =>
      simp only [renumber, renumberAll_eq, written, writtenAll_renumber vs,
        writtenFields_renumber _ vs]
    | frozenset vs =>
      cases vs with
      | nil => simp [written]
      | cons v vs => simp [written, written_renumber v, writtenAll_renumber vs]
    | _ => simp_all [written]
  | method v n => by
    have h := typeName_renumber f v
    cases v <;> simp_all [written]
  | space ns vs => by simp [written, writtenFields_renumber ns vs]
  | nothing | ellipsis | bool _ | int _ | float .. | complex .. | str _ | bytes _ | bytearray ..
  | member .. | object .. | type _ | function _ | slot .. => by simp [written]

theorem writtenAll_renumber : ∀ vs : List Value,
    writtenAll (vs.map (renumber f)) = writtenAll vs
  | [] => rfl
  | v :: vs => by simp [writtenAll, written_renumber v, writtenAll_renumber vs]

theorem writtenEntries_renumber : ∀ (ks : List Value) (ss : List String),
    writtenEntries (ks.map (renumber f)) ss = writtenEntries ks ss
  | [], _ | _ :: _, [] => by simp [writtenEntries]
  | k :: ks, s :: ss => by
    simp [writtenEntries, written_renumber k, writtenEntries_renumber ks ss]

theorem writtenFields_renumber : ∀ (ns : List String) (vs : List Value),
    writtenFields ns (vs.map (renumber f)) = writtenFields ns vs
  | _, [] | [], _ :: _ => by simp [writtenFields]
  | n :: ns, v :: vs => by
    simp [writtenFields, written_renumber v, writtenFields_renumber ns vs]

end

@[simp] theorem shown_renumber (v : Value) : (v.renumber f).shown = v.shown := by
  have h := written_renumber f v
  cases v with
  | derived c v => cases v <;> simp_all [shown]
  | _ => simp_all [shown]

mutual

@[simp] theorem isWritable_renumber : ∀ v : Value, (v.renumber f).isWritable = v.isWritable
  | tuple vs | list _ vs | set _ vs | frozenset vs | record _ _ vs | space _ vs => by
    simp [isWritable, allWritable_renumber vs]
  | dict _ ks vs => by simp [isWritable, allWritable_renumber ks, allWritable_renumber vs]
  | slice a b c => by
    simp [isWritable, isWritable_renumber a, isWritable_renumber b, isWritable_renumber c]
  | derived _ v => by simp [isWritable, isWritable_renumber v]
  | nothing | ellipsis | bool _ | int _ | float .. | complex .. | str _ | bytes _ | bytearray ..
  | member .. | object .. | type _ | function _ | method .. | slot .. => by simp [isWritable]

theorem allWritable_renumber : ∀ vs : List Value,
    allWritable (vs.map (renumber f)) = allWritable vs
  | [] => rfl
  | v :: vs => by simp [allWritable, isWritable_renumber v, allWritable_renumber vs]

end

mutual

@[simp] theorem obstacle_renumber : ∀ v : Value, (v.renumber f).obstacle? = v.obstacle?
  | tuple vs | frozenset vs => by simp [obstacle?, itemObstacle_renumber vs]
  | derived c v => by
    cases v with
    | tuple vs | frozenset vs => simp [obstacle?, itemObstacle_renumber vs]
    | _ => simp [obstacle?, typeOf]
  | record c m vs => by simp [obstacle?, fieldObstacle_renumber c.fields vs]
  | nothing | bool _ | int _ | float .. | complex .. | str _ | bytes _ | member .. => by
    simp [obstacle?]
  | ellipsis | bytearray .. | list .. | set .. | dict .. | slice .. | object .. | type _
  | function _ | slot .. | space .. => by simp [obstacle?, typeOf]
  | method v n => by
    have h := typeOf_renumber f (method v n)
    simp only [renumber] at h
    simp [obstacle?, h]

theorem itemObstacle_renumber : ∀ (vs : List Value) (i : Nat),
    itemObstacle? i (vs.map (renumber f)) = itemObstacle? i vs
  | [], _ => rfl
  | v :: vs, i => by
    simp [itemObstacle?, obstacle_renumber v, itemObstacle_renumber vs]

theorem fieldObstacle_renumber : ∀ (fs : List RecordField) (vs : List Value),
    fieldObstacle? fs (vs.map (renumber f)) = fieldObstacle? fs vs
  | _, [] | [], _ :: _ => by simp [fieldObstacle?]
  | g :: fs, v :: vs => by
    simp [fieldObstacle?, obstacle_renumber v, fieldObstacle_renumber fs vs]

end

/-- A value that can be stored is told from others by its content alone: however its objects are
numbered, it stays equivalent to itself. -/
theorem equivalent_renumber {v : Value} (h : IsConstant v) (g : Renumbering) :
    equivalent (v.renumber f) (v.renumber g) = true := by
  have hitems {vs : List Value} (ih : ∀ v ∈ vs, equivalent (v.renumber f) (v.renumber g) = true) :
      List.Forall₂ (fun v w => equivalent v w = true) (vs.map (renumber f)) (vs.map (renumber g)) :=
    List.forall₂_map_left_iff.mpr (List.forall₂_map_right_iff.mpr (List.forall₂_same.mpr ih))
  induction h with
  | float x m => exact equivalent_float_iff.mpr ⟨g m, by simp⟩
  | complex x y m => exact equivalent_complex_iff.mpr ⟨g m, by simp⟩
  | member c d =>
    exact equivalent_member_iff.mpr ⟨c, d, by simp, by simp [EnumClass.isSame], d.equals_refl⟩
  | tuple inside ih =>
    rw [renumber, renumberAll_eq]
    exact equivalent_tuple_iff.mpr ⟨_, by simp, hitems ih⟩
  | frozenset inside distinct ih =>
    rw [renumber, renumberAll_eq]
    refine equivalent_frozenset_iff.mpr
      ⟨_, by rw [renumber, renumberAll_eq], by simp, fun v hv => ?_⟩
    obtain ⟨u, hu, rfl⟩ := List.mem_map.mp hv
    exact ⟨u.renumber g, List.mem_map_of_mem hu, ih u hu⟩
  | derivedTuple c base made ih => exact equivalent_derived_iff.mpr ⟨c, _, rfl, rfl, rfl, ih⟩
  | derivedSet c base made ih => exact equivalent_derived_iff.mpr ⟨c, _, rfl, rfl, rfl, ih⟩
  | record c m frozen equatable length inside ih =>
    rw [renumber, renumberAll_eq]
    exact equivalent_record_iff.mpr ⟨c, g m, _, by simp, rfl, rfl, hitems ih⟩
  | _ => exact (equivalent_atom_iff (by trivial)).mpr rfl

/-! ### Values that differ in numbers only -/

@[simp] theorem parts_renumber (v : Value) : (v.renumber f).parts = v.parts.map (renumber f) := by
  cases v <;> simp [parts]

@[simp] theorem wellMade_renumber (v : Value) : WellMade (v.renumber f) ↔ WellMade v := by
  cases v with
  | frozenset vs => simp [WellMade, List.pairwise_map]
  | record c m vs => simp [WellMade]
  | derived c v =>
    have htype := typeOf_renumber f v
    simp [WellMade, htype]
  | _ => simp [WellMade]

theorem WellFormed.of_renumber {v : Value} (h : (v.renumber f).WellFormed) : v.WellFormed := by
  unfold WellFormed at h
  generalize hw : v.renumber f = w at h
  induction h generalizing v with
  | intro here _ ih =>
    subst hw
    refine ⟨(wellMade_renumber f v).mp here, fun u hu => ih (u.renumber f) ?_ rfl⟩
    rw [parts_renumber]
    exact List.mem_map_of_mem hu

theorem IsConstant.of_renumber {v : Value} (h : IsConstant (v.renumber f)) : IsConstant v := by
  obtain ⟨hstructural, hformed⟩ := isConstant_iff.mp h
  have hsame : v.isStructural = (v.renumber f).isStructural := by
    rw [Value.isStructural, Value.isStructural, obstacle_renumber]
  exact isConstant_iff.mpr ⟨hsame.trans hstructural, hformed.of_renumber⟩

/-- Two values that differ in the numbers of the objects in them only. -/
def Alike (v w : Value) : Prop := ∃ f : Renumbering, w = v.renumber f ∨ v = w.renumber f

theorem Alike.symm {v w : Value} (h : v.Alike w) : w.Alike v := by
  obtain ⟨f, h⟩ := h
  exact ⟨f, h.symm⟩

/-- A value that can be stored is equivalent to those that differ from it in numbers only. -/
theorem Alike.equivalent {v w : Value} (h : v.Alike w) (hv : IsConstant v) :
    v.equivalent w = true ∧ w.equivalent v = true := by
  obtain ⟨f, rfl | rfl⟩ := h
  · have hforth := equivalent_renumber .refl hv f
    have hback := equivalent_renumber f hv .refl
    rw [renumber_refl] at hforth hback
    exact ⟨hforth, hback⟩
  · have hw := hv.of_renumber
    have hforth := equivalent_renumber f hw .refl
    have hback := equivalent_renumber .refl hw f
    rw [renumber_refl] at hforth hback
    exact ⟨hforth, hback⟩

/-! ### What values are called by -/

@[simp] theorem isCallable_renumber (v : Value) : (v.renumber f).isCallable = v.isCallable := by
  cases v <;> simp [isCallable]

@[simp] theorem isLasting_renumber (v : Value) : (v.renumber f).isLasting = v.isLasting := by
  cases v <;> simp [isLasting]

@[simp] theorem standsAlone_renumber (v : Value) :
    (v.renumber f).standsAlone = v.standsAlone := by
  cases v with
  | method v n => cases v <;> simp [standsAlone]
  | _ => simp [standsAlone]

/-- The members of a set are arranged alike when the order does not go by numbers. -/
theorem arranged_renumber {order order' : List Value → List Value}
    (h : ∀ vs, order' (vs.map (renumber f)) = (order vs).map (renumber f)) :
    ∀ v : Value, (v.renumber f).arranged order' = (v.arranged order).renumber f
  | set _ vs | frozenset vs => by simp [arranged, h]
  | derived _ v => by simp [arranged, arranged_renumber h v]
  | nothing | ellipsis | bool _ | int _ | float .. | complex .. | str _ | bytes _ | bytearray ..
  | tuple _ | list .. | dict .. | slice .. | member .. | record .. | object .. | type _
  | function _ | method .. | slot .. | space .. => by simp [arranged]

/-- An object that has no number yet gets the new one. -/
theorem marked_renumber (v : Value) (m : Mark) :
    (v.renumber f).marked (f m) = (v.marked m).renumber f := by
  -- being without a number is what numbering anew keeps
  have hnumber (n : Mark) : n = 0 ∨ ∃ j k, n = j + 1 ∧ f (j + 1) = k + 1 := by
    cases n with
    | zero => exact .inl rfl
    | succ j =>
      obtain ⟨k, hk⟩ := Nat.exists_eq_succ_of_ne_zero (mt f.apply_eq_zero.mp j.succ_ne_zero)
      exact .inr ⟨j, k, rfl, hk⟩
  cases v with
  | float _ n | complex _ _ n | bytearray n _ | list n _ | set n _ | dict n _ _ | record _ n _
  | object _ n =>
    obtain rfl | ⟨j, k, rfl, hk⟩ := hnumber n
    · simp only [renumber, f.apply_zero, marked]
      try split <;> simp
    · simp [hk, marked]
  | _ => simp [marked]

end Value

/-! ### Values that are held -/

namespace Held

/-- A value that is held, with the objects in it and the step that made it renumbered. -/
def renumber (f : Renumbering) (h : Held) : Held := ⟨h.value.renumber f, f h.origin⟩

variable (f : Renumbering)

@[simp] theorem value_renumber (h : Held) : (h.renumber f).value = h.value.renumber f := rfl

@[simp] theorem origin_renumber (h : Held) : (h.renumber f).origin = f h.origin := rfl

@[simp] theorem isSame_renumber (a b : Held) :
    (a.renumber f).isSame (b.renumber f) = a.isSame b := by
  simp [isSame]

@[simp] theorem part_renumber (whole : Held) (v : Value) :
    (whole.renumber f).part (v.renumber f) = (whole.part v).renumber f := by
  simp only [part, Value.isLasting_renumber, renumber]
  split <;> simp

@[simp] theorem remains_renumber (a : Held) (v : Value) :
    (a.renumber f).remains (v.renumber f) = a.remains v := by
  have h := Value.isSame_renumber f a.value v
  obtain ⟨w, n⟩ := a
  cases w <;> simp_all [remains, renumber]

end Held

end Marginalia
