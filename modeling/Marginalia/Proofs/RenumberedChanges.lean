/-
Changes with the objects numbered anew.

What a renumbered object holds now is what the object holds, renumbered; a method that changes
an object changes the renumbered one likewise, and is refused in the same words.

* `Fault.Alike`, `ResultsAlike` — results that differ in the numbers of objects only;
* `Changes.renumber` — changes of objects, the objects renumbered;
* `Value.now_renumber`, `Changes.put_renumber` — values are brought up to date alike;
* `Value.changeBound_renumber` — objects are changed alike.
-/
import Marginalia.Proofs.RenumberedCalls
import Marginalia.Value.Change

namespace Marginalia

/-! ### Results that are alike -/

/-- Two faults of one class and in the same words. -/
structure Fault.Alike (e e' : Fault) : Prop where
  kind : e'.kind = e.kind
  message : e'.message = e.message
  isWritable : e'.isWritable = e.isWritable

theorem Fault.Alike.refl (e : Fault) : e.Alike e := ⟨rfl, rfl, rfl⟩

theorem Fault.Alike.missingKey (f : Renumbering) (k : Value) :
    (Fault.missingKey k).Alike (.missingKey (k.renumber f)) :=
  ⟨rfl, k.written_renumber f, k.isWritable_renumber f⟩

/-- Two results: one and what a function makes of it, or two stops that are alike. -/
def ResultsAlike {ε α : Type} (E : ε → ε → Prop) (g : α → α) : Except ε α → Except ε α → Prop
  | .ok a, .ok b => b = g a
  | .error e, .error e' => E e e'
  | _, _ => False

namespace ResultsAlike

variable {ε α β : Type} {E : ε → ε → Prop} {g : α → α} {g' : β → β}

/-- Results that are alike are both there, or both stop. -/
theorem cases {r r' : Except ε α} (h : ResultsAlike E g r r') :
    (∃ a, r = .ok a ∧ r' = .ok (g a)) ∨ ∃ e e', r = .error e ∧ r' = .error e' ∧ E e e' := by
  cases r with
  | ok a =>
    cases r' with
    | ok b => exact .inl ⟨a, rfl, congrArg Except.ok h⟩
    | error e => exact h.elim
  | error e =>
    cases r' with
    | ok b => exact h.elim
    | error e' => exact .inr ⟨e, e', rfl, rfl, h⟩

theorem of_map (hE : ∀ e, E e e) (g : α → α) (r : Except ε α) : ResultsAlike E g r (r.map g) := by
  cases r with
  | ok a => rfl
  | error e => exact hE e

theorem of_eq_map (hE : ∀ e, E e e) {r r' : Except ε α} (h : r' = r.map g) :
    ResultsAlike E g r r' :=
  h ▸ of_map hE g r

theorem map {γ : Type} {x y : Except ε α} {k k' : α → γ} {h : γ → γ} (hx : ResultsAlike E g x y)
    (hk : ∀ a, k' (g a) = h (k a)) : ResultsAlike E h (x.map k) (y.map k') := by
  obtain ⟨a, rfl, rfl⟩ | ⟨e, e', rfl, rfl, he⟩ := hx.cases
  · exact hk a
  · exact he

theorem bind {x y : Except ε α} {k k' : α → Except ε β} (hx : ResultsAlike E g x y)
    (hk : ∀ a, ResultsAlike E g' (k a) (k' (g a))) : ResultsAlike E g' (x >>= k) (y >>= k') := by
  obtain ⟨a, rfl, rfl⟩ | ⟨e, e', rfl, rfl, he⟩ := hx.cases
  · exact hk a
  · exact he

end ResultsAlike

/-! ### Objects as they are now -/

/-- Changes of objects, the objects renumbered. -/
def Changes.renumber (f : Renumbering) (cs : Changes) : Changes :=
  cs.map fun e => (f e.1, e.2.renumber f)

theorem Changes.lookup_renumber (f : Renumbering) (cs : Changes) (m : Mark) :
    (cs.renumber f).lookup (f m) = (cs.lookup m).map (Value.renumber f) := by
  induction cs with
  | nil => rfl
  | cons e cs ih =>
    obtain ⟨n, v⟩ := e
    have ih : (cs.map fun e => (f e.1, e.2.renumber f)).lookup (f m) = _ := ih
    simp only [Changes.renumber, List.map_cons, List.lookup_cons, f.apply_beq_apply, ih]
    split <;> rfl

namespace Value

variable (f : Renumbering)

@[simp] theorem nowAll_eq (cs : Changes) (vs : List Value) : nowAll cs vs = vs.map (now cs) := by
  induction vs with
  | nil => rfl
  | cons v vs ih => rw [nowAll, ih, List.map_cons]

mutual

@[simp] theorem now_renumber (cs : Changes) : ∀ v : Value,
    (v.renumber f).now (cs.renumber f) = (v.now cs).renumber f
  -- an object that was changed is found under its new number
  | list m vs | set m vs => by
    have h := map_now_renumber cs vs
    simp only [renumber, renumberAll_eq, now, nowAll_eq, Changes.lookup_renumber, h]
    cases cs.lookup m <;> simp
  | dict m ks vs => by
    have hkeys := map_now_renumber cs ks
    have h := map_now_renumber cs vs
    simp only [renumber, renumberAll_eq, now, nowAll_eq, Changes.lookup_renumber, hkeys, h]
    cases cs.lookup m <;> simp
  | bytearray m bs => by
    simp only [renumber, now, Changes.lookup_renumber]
    cases cs.lookup m <;> simp
  | tuple vs | frozenset vs | record _ _ vs | space _ vs => by
    have h := map_now_renumber cs vs
    simp only [renumber, renumberAll_eq, now, nowAll_eq, h]
  | slice a b c => by
    simp [now, now_renumber cs a, now_renumber cs b, now_renumber cs c]
  | derived _ v | method v _ => by simp [now, now_renumber cs v]
  | nothing | ellipsis | bool _ | int _ | float .. | complex .. | str _ | bytes _ | member ..
  | object .. | type _ | function _ | slot .. => rfl

theorem map_now_renumber (cs : Changes) : ∀ vs : List Value,
    (vs.map (renumber f)).map (now (cs.renumber f)) = (vs.map (now cs)).map (renumber f)
  | [] => rfl
  | v :: vs => by
    simp only [List.map_cons, now_renumber cs v, map_now_renumber cs vs]

end

mutual

@[simp] theorem holds_renumber (m : Mark) : ∀ v : Value, (v.renumber f).holds (f m) = v.holds m
  | list _ vs | set _ vs | tuple vs | frozenset vs | record _ _ vs | space _ vs => by
    simp [holds, holdsAny_renumber m vs]
  | dict _ ks vs => by simp [holds, holdsAny_renumber m ks, holdsAny_renumber m vs]
  | slice a b c => by
    simp [holds, holds_renumber m a, holds_renumber m b, holds_renumber m c]
  | derived _ v | method v _ => by simp [holds, holds_renumber m v]
  | bytearray n bs => by simp [holds]
  | nothing | ellipsis | bool _ | int _ | float .. | complex .. | str _ | bytes _ | member ..
  | object .. | type _ | function _ | slot .. => rfl

@[simp] theorem holdsAny_renumber (m : Mark) : ∀ vs : List Value,
    holdsAny (f m) (vs.map (renumber f)) = holdsAny m vs
  | [] => rfl
  | v :: vs => by simp [holdsAny, holds_renumber m v, holdsAny_renumber m vs]

end

end Value

@[simp] theorem Held.now_renumber (f : Renumbering) (cs : Changes) (h : Held) :
    (h.renumber f).now (cs.renumber f) = (h.now cs).renumber f := by
  simp [Held.now, Held.renumber]

theorem Changes.put_renumber (f : Renumbering) (cs : Changes) (m : Mark) (v : Value) :
    (cs.renumber f).put (f m) (v.renumber f) = (cs.put m v).renumber f := by
  -- what holds the changed object is brought up to date with it
  have hnow (w : Value) := w.now_renumber f [(m, v)]
  have hchange : Changes.renumber f [(m, v)] = [(f m, v.renumber f)] := rfl
  rw [hchange] at hnow
  simp [put, renumber, List.filter_map, Function.comp_def, hnow, bne]

/-! ### Methods that change their object -/

namespace Value

open Arguments

variable (f : Renumbering)

@[simp] theorem requirePosition_renumber (v : Value) :
    (v.renumber f).requirePosition = v.requirePosition := by
  simp [requirePosition]

theorem findIdx_matching_renumber (v : Value) (vs : List Value) :
    ((vs.map (renumber f)).findIdx? fun w => matching w (v.renumber f)) =
      vs.findIdx? fun w => matching w v := by
  simp [List.findIdx?_map, Function.comp_def]

theorem filter_matching_renumber (v : Value) (vs : List Value) :
    ((vs.map (renumber f)).filter fun w => !matching w (v.renumber f)) =
      (vs.filter fun w => !matching w v).map (renumber f) := by
  simp [List.filter_map, Function.comp_def]

/-- The answer and the items after a method of a list, renumbered. -/
def renumberItems (r : Value × List Value) : Value × List Value :=
  (r.1.renumber f, r.2.map (renumber f))

theorem insertItem_renumber (c : Callee) (vs : List Value) (a : Arguments) :
    insertItem c (vs.map (renumber f)) (a.renumber f) =
      (insertItem c vs a).map (renumberItems f) := by
  unfold insertItem
  rw [onlyPositional_renumber, bind_map_eq, map_bind_eq]
  refine bind_congr fun given => ?_
  obtain _ | ⟨place, _ | ⟨v, _ | ⟨w, given⟩⟩⟩ := given <;>
    simp [renumberItems, List.map_insertIdx]

theorem popItem_renumber (c : Callee) (vs : List Value) (a : Arguments) :
    popItem c (vs.map (renumber f)) (a.renumber f) = (popItem c vs a).map (renumberItems f) := by
  have hplace (given : List Value) : ((given.map (renumber f))[0]?.getD (int (-1))) =
      (given[0]?.getD (int (-1))).renumber f := by
    cases given <;> rfl
  unfold popItem
  simp only [onlyPositional_renumber, bind_map_eq, map_bind_eq, expected_renumber, hplace,
    requirePosition_renumber, List.isEmpty_map, List.length_map]
  refine bind_congr fun given => bind_congr fun _ => bind_congr fun n => ?_
  cases position? n vs.length <;> simp [renumberItems, List.eraseIdx_map]

theorem removeItem_renumber (c : Callee) (vs : List Value) (a : Arguments) :
    removeItem c (vs.map (renumber f)) (a.renumber f) =
      (removeItem c vs a).map (renumberItems f) := by
  unfold removeItem
  simp only [exactlyOne_renumber, bind_map_eq, map_bind_eq, findIdx_matching_renumber]
  refine bind_congr fun v => ?_
  cases vs.findIdx? fun w => matching w v <;> simp [renumberItems, List.eraseIdx_map]

theorem extendItems_renumber (c : Callee) (vs : List Value) (a : Arguments) :
    extendItems c (vs.map (renumber f)) (a.renumber f) =
      (extendItems c vs a).map (renumberItems f) := by
  simp [extendItems, renumberItems]

theorem changeItems_renumber (c : Callee) (vs : List Value) (a : Arguments) :
    changeItems? c (vs.map (renumber f)) (a.renumber f) =
      (changeItems? c vs a).map (Except.map (renumberItems f)) := by
  unfold changeItems?
  split
  · simp [renumberItems]
  · simp [renumberItems]
  · exact congrArg some (extendItems_renumber f c vs a)
  · exact congrArg some (insertItem_renumber f c vs a)
  · exact congrArg some (popItem_renumber f c vs a)
  · exact congrArg some (removeItem_renumber f c vs a)
  · simp [renumberItems]
  · rfl

/-- What may be refused with a value in the refusal, and of a renumbered value is refused with
it renumbered, if it is carried out at all. -/
abbrev ChangedAlike {α : Type} (g : α → α) : Option (Except Fault α) → Option (Except Fault α) →
    Prop :=
  Option.Rel (ResultsAlike Fault.Alike g)

theorem ChangedAlike.of_eq_map {α : Type} {g : α → α} {r r' : Option (Except Fault α)}
    (h : r' = r.map (Except.map g)) : ChangedAlike g r r' := by
  subst h
  cases r with
  | none => exact .none
  | some r => exact .some (.of_map Fault.Alike.refl g r)

theorem ChangedAlike.map {α β : Type} {g : α → α} {g' : β → β} {k k' : α → β}
    {r r' : Option (Except Fault α)} (h : ChangedAlike g r r') (hk : ∀ a, k' (g a) = g' (k a)) :
    ChangedAlike g' (r.map (Except.map k)) (r'.map (Except.map k')) := by
  cases h with
  | none => exact .none
  | some h => exact .some (ResultsAlike.map h hk)

theorem addMember_renumber (c : Callee) (vs : List Value) (a : Arguments) :
    addMember c (vs.map (renumber f)) (a.renumber f) =
      (addMember c vs a).map (List.map (renumber f)) := by
  have hdistinct (v : Value) := distinct_renumber f (vs ++ [v])
  simp only [List.map_append, List.map_cons, List.map_nil] at hdistinct
  simp [addMember, hdistinct]

theorem dropMember_renumber (c : Callee) (required : Bool) (vs : List Value) (a : Arguments) :
    ResultsAlike Fault.Alike (List.map (renumber f)) (dropMember c required vs a)
      (dropMember c required (vs.map (renumber f)) (a.renumber f)) := by
  have halike := Fault.Alike.refl
  unfold dropMember
  rw [exactlyOne_renumber]
  refine (ResultsAlike.of_map halike _ _).bind fun v => ?_
  rw [amongMembers_renumber, filter_matching_renumber]
  cases v.amongMembers vs with
  | error e => exact halike e
  | ok found =>
    cases required with
    | false => rfl
    | true =>
      cases found with
      | true => rfl
      -- the refusal carries the key, so the faults are alike and not the same
      | false => exact .missingKey f v

theorem changeMembers_renumber (c : Callee) (vs : List Value) (a : Arguments) :
    ChangedAlike (List.map (renumber f)) (changeMembers? c vs a)
      (changeMembers? c (vs.map (renumber f)) (a.renumber f)) := by
  unfold changeMembers?
  split
  · exact .of_eq_map (congrArg some (addMember_renumber f c vs a))
  · exact .of_eq_map (by simp)
  · exact .some (dropMember_renumber f c false vs a)
  · exact .some (dropMember_renumber f c true vs a)
  · exact .none

/-- The answer, the keys and the values after a method of a mapping, renumbered. -/
def renumberEntries (r : Value × List Value × List Value) : Value × List Value × List Value :=
  (r.1.renumber f, r.2.1.map (renumber f), r.2.2.map (renumber f))

theorem takeEntry_renumber (k : Value) (otherwise : Option Value) (ks vs : List Value) :
    ResultsAlike Fault.Alike (renumberEntries f) (takeEntry k otherwise ks vs)
      (takeEntry (k.renumber f) (otherwise.map (renumber f)) (ks.map (renumber f))
        (vs.map (renumber f))) := by
  unfold takeEntry
  rw [findIdx_matching_renumber]
  cases ks.findIdx? fun k' => matching k' k with
  | some i =>
    refine .of_eq_map (r := .ok _) Fault.Alike.refl (congrArg Except.ok ?_)
    rw [List.getElem?_map, getD_renumber, List.eraseIdx_map, List.eraseIdx_map]
    rfl
  | none =>
    cases otherwise with
    | some v => rfl
    | none => exact .missingKey f k

@[simp] theorem checkKey_renumber (k : Value) (ks : List Value) :
    checkKey (k.renumber f) (ks.map (renumber f)) = checkKey k ks := by
  simp [checkKey]

theorem keepEntry_renumber (k otherwise : Value) (ks vs : List Value) :
    keepEntry (k.renumber f) (otherwise.renumber f) (ks.map (renumber f)) (vs.map (renumber f)) =
      (keepEntry k otherwise ks vs).map (renumberEntries f) := by
  unfold keepEntry
  rw [hashable_renumber, lookupKey_renumber, map_bind_eq]
  refine bind_congr fun _ => ?_
  cases lookupKey k ks vs <;> simp [renumberEntries]

theorem popEntry_renumber (c : Callee) (ks vs : List Value) (a : Arguments) :
    ResultsAlike Fault.Alike (renumberEntries f) (popEntry c ks vs a)
      (popEntry c (ks.map (renumber f)) (vs.map (renumber f)) (a.renumber f)) := by
  have halike := Fault.Alike.refl
  unfold popEntry
  rw [onlyPositional_renumber]
  refine (ResultsAlike.of_map halike _ _).bind fun given => ?_
  rw [expected_renumber, List.getElem?_map, List.getElem?_map, getD_renumber, checkKey_renumber]
  cases expected given "pop" 1 2 with
  | error e => exact halike e
  | ok _ =>
    cases checkKey (given[0]?.getD nothing) ks with
    | error e => exact halike e
    | ok _ => exact takeEntry_renumber f _ _ ks vs

theorem setEntry_renumber (c : Callee) (ks vs : List Value) (a : Arguments) :
    setEntry c (ks.map (renumber f)) (vs.map (renumber f)) (a.renumber f) =
      (setEntry c ks vs a).map (renumberEntries f) := by
  unfold setEntry
  simp only [onlyPositional_renumber, bind_map_eq, map_bind_eq, expected_renumber,
    List.getElem?_map, getD_renumber, keepEntry_renumber]

theorem changeEntries_renumber (c : Callee) (ks vs : List Value) (a : Arguments) :
    ChangedAlike (renumberEntries f) (changeEntries? c ks vs a)
      (changeEntries? c (ks.map (renumber f)) (vs.map (renumber f)) (a.renumber f)) := by
  unfold changeEntries?
  split
  · exact .of_eq_map (by simp [renumberEntries])
  · exact .some (popEntry_renumber f c ks vs a)
  · exact .of_eq_map (congrArg some (setEntry_renumber f c ks vs a))
  · exact .none

end Value

/-- What a call makes of an object, with the objects renumbered. -/
def Change.renumber (f : Renumbering) (r : Change) : Change :=
  ⟨r.answer.renumber f, f r.mark, r.object.renumber f⟩

namespace Value

variable (f : Renumbering)

@[simp] theorem holdsItself_renumber (v : Value) :
    (v.renumber f).holdsItself = v.holdsItself := by
  cases v <;> simp [holdsItself]

@[simp] theorem isTold_renumber (r : Change) : (r.renumber f).isTold = r.isTold := by
  -- an object without a number gets none
  have hmark : (f r.mark != 0) = (r.mark != 0) := by
    simp [bne, f.apply_eq_zero]
  simp [Change.isTold, Change.renumber, hmark]

theorem afterMethod_renumber (v : Value) (c : Callee) (a : Arguments) :
    ChangedAlike (Change.renumber f) (v.afterMethod? c a)
      ((v.renumber f).afterMethod? c (a.renumber f)) := by
  cases v with
  | list m vs =>
    have h := changeItems_renumber f c vs a
    simp only [renumber, renumberAll_eq, afterMethod?]
    exact (ChangedAlike.of_eq_map h).map fun r => by simp [Change.renumber, renumberItems]
  | set m vs =>
    have h := changeMembers_renumber f c vs a
    simp only [renumber, renumberAll_eq, afterMethod?]
    exact h.map fun vs => by simp [Change.renumber]
  | dict m ks vs =>
    have h := changeEntries_renumber f c ks vs a
    simp only [renumber, renumberAll_eq, afterMethod?]
    exact h.map fun r => by simp [Change.renumber, renumberEntries]
  | _ => exact .none

/-- A method changes a renumbered object as it changes the object. -/
theorem change_renumber (v : Value) (c : Callee) (a : Arguments) :
    ChangedAlike (Change.renumber f) (v.change? c a)
      ((v.renumber f).change? c (a.renumber f)) := by
  have hafter := afterMethod_renumber f v.plain c a
  unfold change?
  rw [plain_renumber]
  revert hafter
  generalize v.plain.afterMethod? c a = r
  generalize (v.plain.renumber f).afterMethod? c (a.renumber f) = r'
  intro hafter
  cases hafter with
  | none => exact .none
  | @some r r' h =>
    have htold : r'.toOption.all Change.isTold = r.toOption.all Change.isTold := by
      obtain ⟨r, rfl, rfl⟩ | ⟨e, e', rfl, rfl, -⟩ := h.cases
      · exact isTold_renumber f r
      · rfl
    simp only [Option.filter_some, htold]
    split
    · exact .some h
    · exact .none

/-- A method that is called changes a renumbered object as it changes the object. -/
theorem changeBound_renumber (v : Value) (name : String) (a : Arguments) :
    ChangedAlike (Change.renumber f) (v.changeBound? name a)
      ((v.renumber f).changeBound? name (a.renumber f)) := by
  unfold changeBound?
  split
  · exact .none
  · rw [receiver_renumber]
    cases receiver v name a with
    | error e => exact .none
    | ok r => exact change_renumber f r.1 r.2.1 r.2.2

end Value

end Marginalia
