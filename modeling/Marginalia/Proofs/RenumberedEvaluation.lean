/-
Evaluations with the objects numbered anew.

Two evaluations of an expression that start with different numbers of objects already made, and
whose scopes hold the same values up to the numbers of the objects in them, take the same steps:
the second one comes to the value of the first one renumbered, or stops as the first one does,
and it changes the objects that the first one changes.

* `Shift` — a renumbering that moves the numbers of new objects on;
* `Host.Detached` — calls that are answered from what they are given alone and change nothing but
  objects, and an order of sets that does not go by numbers;
* `Evaluation.Follows` — an evaluation goes the way of another one, renumbered;
* `Setting.follows_hold` — the evaluation of every expression does.
-/
import Marginalia.Proofs.EvaluationEffect
import Marginalia.Proofs.RenumberedChanges

namespace Marginalia

/-! ### Moving numbers on -/

/-- A renumbering that moves the numbers behind a start, up to a bound, behind another start. -/
structure Shift extends Renumbering where
  start : Nat
  restart : Nat
  bound : Nat
  apply_add : ∀ k, 0 < k → start + k ≤ bound → number (start + k) = restart + k

instance : Coe Shift Renumbering := ⟨Shift.toRenumbering⟩

/-- Two compilations in which as many objects have been made behind the two starts of a shift,
and the same objects have been changed. -/
structure Shift.Abreast (z : Shift) (c c' : Compilation) : Prop where
  created : ∃ k, c.created = z.start + k ∧ c'.created = z.restart + k
  changed : c'.changed = c.changed.renumber z

/-- A renumbering that leaves the numbers above a limit as they are. -/
def Renumbering.Below (f : Renumbering) (limit : Nat) : Prop := ∀ m, limit < m → f m = m

/-- The shift that moves nothing. -/
def Shift.refl : Shift where
  toRenumbering := .refl
  start := 0
  restart := 0
  bound := 0
  apply_add _ _ _ := rfl

theorem Shift.refl_below (limit : Nat) : Shift.refl.toRenumbering.Below limit := fun _ _ => rfl

/-! ### Surroundings that say nothing about the compilation -/

/-- Two annotation errors of one class that are blamed on one place in the same words. -/
structure AnnotationError.Alike (e e' : AnnotationError) : Prop where
  kind : e'.kind = e.kind
  message : e'.message = e.message
  location : e'.location = e.location

theorem AnnotationError.Alike.refl (e : AnnotationError) : e.Alike e := ⟨rfl, rfl, rfl⟩

/-- What functions of the host answer, and answer to renumbered arguments. -/
def HostStop.Alike : HostStop → HostStop → Prop
  | .rejected e, .rejected e' => e.Alike e'
  | .failed f, .failed f' => f.Alike f'
  | _, _ => False

/-- A later state, with more objects, some of them changed, and nothing else. -/
def Compilation.Makes (c c' : Compilation) : Prop :=
  c' = { c with created := c'.created, changed := c'.changed } ∧ c.created ≤ c'.created

/-- Calls make and change objects, and do nothing else to the compilation. -/
def Host.MakesOnly (h : Host) : Prop :=
  ∀ (f : Value) (a : Arguments) (c : Compilation), c.Makes (h.answer f a c).2

theorem Host.MakesOnly.contained {s : Setting} (h : s.host.MakesOnly) :
    s.Contained Compilation.Makes where
  refl c := ⟨rfl, le_rfl⟩
  trans h h' := ⟨by rw [h'.1, h.1], h.2.trans h'.2⟩
  created c := ⟨rfl, c.created.le_succ⟩
  changed c cs := ⟨rfl, le_rfl⟩
  called f a c := by
    -- the store is closed before the call and open again after it
    obtain ⟨hcalled, hmade⟩ := h f a { c with store := c.store.enter }
    unfold Setting.afterCall
    refine ⟨?_, hmade⟩
    rw [hcalled]
    rfl

/-- A host does not notice a shift: calls are answered from what they are given and from what the
objects in it hold, they change nothing but objects, sets are gone through in an order that does
not go by numbers, and the shift moves no object of the host. -/
structure Host.Invariant (h : Host) (z : Shift) : Prop where
  named : ∀ e ∈ h.names, e.2.renumber z = e.2
  accepts (c : RecordClass) (vs : List Value) :
    h.accepts c (vs.map (Value.renumber z)) = h.accepts c vs
  arranged (n n' : Nat) (vs : List Value) :
    h.language.arrangement.order n' (vs.map (Value.renumber z)) =
      (h.language.arrangement.order n vs).map (Value.renumber z)
  makes : h.MakesOnly
  answers (f : Value) (a : Arguments) {c c' : Compilation} (habreast : z.Abreast c c')
    (hc : c.store.isEvaluating = true) (hc' : c'.store.isEvaluating = true)
    (hn : (h.answer f a c).2.created ≤ z.bound) :
    z.Abreast (h.answer f a c).2 (h.answer (f.renumber z) (a.renumber z) c').2 ∧
      ResultsAlike HostStop.Alike (Value.renumber z) (h.answer f a c).1
        (h.answer (f.renumber z) (a.renumber z) c').1

/-- No shift of numbers up to a limit is noticed by a host; the objects of the host have numbers
above it. -/
def Host.Detached (h : Host) (limit : Nat) : Prop :=
  ∀ z : Shift, z.toRenumbering.Below limit → h.Invariant z

theorem Host.Detached.makes {h : Host} {limit : Nat} (hhost : h.Detached limit) : h.MakesOnly :=
  (hhost .refl (Shift.refl_below limit)).makes

/-- Natural numbers are put in ascending order whatever the numbers of objects are. -/
theorem Arrangement.ascend_renumber (f : Renumbering) (vs : List Value) :
    ascend (vs.map (Value.renumber f)) = (ascend vs).map (Value.renumber f) := by
  have hnatural : natural? ∘ Value.renumber f = natural? := by
    funext v
    cases v <;> simp [natural?]
  unfold ascend
  rw [List.mapM_map, hnatural]
  cases vs.mapM natural? with
  | none => rfl
  | some ns => simp [Function.comp_def]

/-- A host that refuses all calls is detached when the objects that it names and what it accepts
are. -/
theorem Host.detached_of_refusals {names : List (String × Value)}
    {accepts : RecordClass → List Value → Except Fault Unit} {limit : Nat}
    (hnamed : ∀ f : Renumbering, f.Below limit → ∀ e ∈ names, e.2.renumber f = e.2)
    (haccepts : ∀ (f : Renumbering) (c : RecordClass) (vs : List Value),
      accepts c (vs.map (Value.renumber f)) = accepts c vs) :
    ({ names, accepts } : Host).Detached limit := fun z hz =>
  { named := hnamed z hz
    accepts := haccepts z
    arranged := fun _ _ vs => Arrangement.ascend_renumber z vs
    makes := Host.answer_of_calls (R := Compilation.Makes) (fun _ _ _ => ⟨rfl, le_rfl⟩)
      fun _ _ _ => ⟨rfl, le_rfl⟩
    answers := fun f _ _ _ habreast _ _ _ => by
      cases f <;> exact ⟨habreast, Fault.Alike.refl _⟩ }

/-- A host that names nothing and refuses all calls is detached. -/
theorem Host.detached_default (limit : Nat) : ({} : Host).Detached limit :=
  detached_of_refusals (fun _ _ _ he => nomatch he) fun _ _ _ => rfl

/-! ### Scopes -/

namespace Scope

variable (f : Renumbering)

/-- A scope with the objects in its values renumbered. -/
def renumber (s : Scope) : Scope :=
  let frame (b : Frame) : Frame := b.map fun e => (e.1, e.2.map (Held.renumber f))
  { inner := frame s.inner, outer := s.outer.map frame }

theorem lookup_renumber (s : Scope) (name : String) :
    (s.renumber f).lookup name = (s.lookup name).map (Held.renumber f) := by
  -- bodies are searched from the inside out
  have hframes : ∀ bs : List Frame,
      lookupIn name (bs.map fun b => b.map fun e => (e.1, e.2.map (Held.renumber f))) =
        (lookupIn name bs).map (Held.renumber f) := by
    intro bs
    induction bs with
    | nil => rfl
    | cons b bs ih =>
      simp only [List.map_cons, lookupIn, lookup_map_snd (Option.map (Held.renumber f)), ih]
      cases b.lookup name <;> rfl
  exact hframes (s.inner :: s.outer)

@[simp] theorem set_renumber (s : Scope) (name : String) (v : Option Held) :
    (s.renumber f).set name (v.map (Held.renumber f)) = (s.set name v).renumber f := by
  simp [renumber, set, List.filter_map, Function.comp_def]

@[simp] theorem child_renumber (s : Scope) : (s.renumber f).child = s.child.renumber f := by
  simp [renumber, child]

end Scope

/-! ### One evaluation follows another -/

/-- Two evaluations that stop: both are refused in the same words, or a fault comes through in
both. -/
def EvaluationStop.Alike : EvaluationStop → EvaluationStop → Prop
  | .rejected e, .rejected e' => e.Alike e'
  | .escaped f, .escaped f' => f.Alike f'
  | _, _ => False

namespace Evaluation

variable {z : Shift} {α β : Type} {g : α → α} {g' : β → β}

/-- An evaluation goes the way of another one: started abreast of it, it ends abreast, and it
comes to the same result, renumbered. -/
structure Follows (z : Shift) (g : α → α) (x y : Evaluation α) : Prop where
  makes (c : Compilation) : c.created ≤ (outcome x c).2.created
  alike (c c' : Compilation) (h : z.Abreast c c') (hn : (outcome x c).2.created ≤ z.bound) :
    z.Abreast (outcome x c).2 (outcome y c').2 ∧
      ResultsAlike EvaluationStop.Alike g (outcome x c).1 (outcome y c').1

theorem Follows.pure (a : α) : Follows z g (Pure.pure a) (Pure.pure (g a)) where
  makes _ := le_rfl
  alike _ _ h _ := ⟨h, rfl⟩

theorem Follows.throw {e e' : EvaluationStop} (h : e.Alike e') :
    Follows z g (MonadExcept.throw e) (MonadExcept.throw e') where
  makes _ := le_rfl
  alike _ _ hc _ := ⟨hc, h⟩

theorem Follows.bind {x y : Evaluation α} {k k' : α → Evaluation β} (hx : Follows z g x y)
    (hk : ∀ a, Follows z g' (k a) (k' (g a))) : Follows z g' (x >>= k) (y >>= k') where
  makes c := by
    have hmade := hx.makes c
    rw [outcome_bind]
    generalize outcome x c = first at hmade
    obtain ⟨_ | a, c₁⟩ := first
    · exact hmade
    · exact hmade.trans ((hk a).makes c₁)
  alike c c' hc hn := by
    have hfirst := hx.alike c c' hc
    rw [outcome_bind] at hn ⊢
    rw [outcome_bind]
    generalize outcome x c = first at hfirst hn ⊢
    generalize outcome y c' = first' at hfirst ⊢
    obtain ⟨_ | a, c₁⟩ := first <;> obtain ⟨_ | b, c₁'⟩ := first'
    · exact hfirst hn
    · exact absurd (hfirst hn).2 id
    · -- the bound is met by the first half, as the second half makes more objects
      exact absurd (hfirst (((hk a).makes c₁).trans hn)).2 id
    · obtain ⟨hc₁, hb⟩ := hfirst (((hk a).makes c₁).trans hn)
      obtain rfl : b = g a := hb
      exact (hk a).alike c₁ c₁' hc₁ hn

end Evaluation

/-! ### The steps of evaluations -/

namespace Setting

open Evaluation

/-- A setting with the objects in its scope renumbered. -/
def renumber (f : Renumbering) (s : Setting) : Setting := { s with scope := s.scope.renumber f }

section Steps

variable {z : Shift} {s : Setting} {α : Type} {g : α → α} (p : Place)

theorem follows_reject (c : Cause) : Follows z g (s.reject p c) ((s.renumber z).reject p c) :=
  .throw (AnnotationError.Alike.refl _)

theorem follows_unsupported (e : Expr) :
    Follows z g (s.unsupported e) ((s.renumber z).unsupported e) :=
  follows_reject _ _

theorem text_failed (e : Fault) :
    (Cause.failed e).text = "Evaluation failed: " ++ e.kind ++ ": " ++ e.message := rfl

/-- Faults that are alike are blamed on a place in the same words. -/
theorem alike_failed {e e' : Fault} (h : e.Alike e') (l : Option Location) :
    AnnotationError.Alike ⟨.failed e, l⟩ ⟨.failed e', l⟩ := by
  have htext : (Cause.failed e').text = (Cause.failed e).text := by
    rw [text_failed, text_failed, h.kind, h.message]
  refine ⟨rfl, ?_, rfl⟩
  cases l with
  | none => exact htext
  | some l => exact congrArg (l.toString ++ ": " ++ ·) htext

theorem follows_fail {e e' : Fault} (h : e.Alike e') :
    Follows z g (s.fail p e) ((s.renumber z).fail p e') := by
  unfold fail
  rw [h.isWritable]
  cases e.isWritable with
  | true => exact .throw (alike_failed h _)
  | false => exact .throw (Fault.Alike.refl _)

theorem follows_settle {r r' : Except Fault α} (h : ResultsAlike Fault.Alike g r r') :
    Follows z g (s.settle p r) ((s.renumber z).settle p r') := by
  obtain ⟨a, rfl, rfl⟩ | ⟨e, e', rfl, rfl, he⟩ := h.cases
  · exact .pure a
  · exact follows_fail p he

theorem follows_settle_map (r : Except Fault α) :
    Follows z g (s.settle p r) ((s.renumber z).settle p (r.map g)) :=
  follows_settle p (.of_map Fault.Alike.refl g r)

/-- A question about values has one answer. -/
theorem follows_settle_eq (r : Except Fault α) :
    Follows z id (s.settle p r) ((s.renumber z).settle p r) := by
  have h := follows_settle_map (z := z) (s := s) (g := id) p r
  rwa [show r.map id = r by cases r <;> rfl] at h

/-- What is read off the objects as they are now is read off the renumbered ones. -/
theorem follows_asOfNow {k k' : Changes → α} (h : ∀ cs : Changes, k' (cs.renumber z) = g (k cs)) :
    Follows z g (asOfNow k) (asOfNow k') where
  makes _ := le_rfl
  alike c c' hc _ := ⟨hc, by
    show k' c'.changed = g (k c.changed)
    rw [hc.changed, h]⟩

theorem follows_refresh (h : Held) :
    Follows z (Held.renumber z) (refresh h) (refresh (h.renumber z)) :=
  follows_asOfNow fun cs => h.now_renumber z cs

/-- A new object gets the next number. -/
theorem follows_fresh (v : Value) :
    Follows z (Held.renumber z) (fresh v) (fresh (v.renumber z)) := by
  refine ⟨fun c => Nat.le_succ _, fun c c' hc hn => ?_⟩
  obtain ⟨k, hk, hk'⟩ := hc.created
  -- both numbers are one further behind their starts
  have hnumber : z.number (c.created + 1) = c'.created + 1 := by
    rw [hk, hk']
    have hn : c.created + 1 ≤ z.bound := hn
    exact z.apply_add (k + 1) k.succ_pos (by omega)
  have hmarked := Value.marked_renumber z (v.now c.changed) (c.created + 1)
  rw [hnumber, ← Value.now_renumber, ← hc.changed] at hmarked
  constructor
  · exact ⟨⟨k + 1, congrArg Nat.succ hk, congrArg Nat.succ hk'⟩, hc.changed⟩
  · show Held.mk _ _ = Held.renumber z ⟨(v.now c.changed).marked (c.created + 1), c.created + 1⟩
    rw [Held.renumber, hnumber, ← hmarked]

theorem follows_made {k : List Held} {r r' : Except Fault Value}
    (h : ResultsAlike Fault.Alike (Value.renumber z) r r') :
    Follows z (Held.renumber z) (s.made p k r)
      ((s.renumber z).made p (k.map (Held.renumber z)) r') := by
  refine (follows_settle p h).bind fun v => ?_
  have hfound : (k.map (Held.renumber z)).find? (fun h => h.remains (v.renumber z)) =
      (k.find? fun h => h.remains v).map (Held.renumber z) := by
    simp [List.find?_map]
  rw [hfound]
  cases k.find? fun h => h.remains v with
  | some h => exact .pure h
  | none => exact follows_fresh v

theorem follows_made_map (k : List Held) (r : Except Fault Value) :
    Follows z (Held.renumber z) (s.made p k r)
      ((s.renumber z).made p (k.map (Held.renumber z)) (r.map (Value.renumber z))) :=
  follows_made p (.of_map Fault.Alike.refl _ r)

theorem follows_relate (r : Relation) (a b : Held) :
    Follows z (Value.renumber z) (s.relate p r a b)
      ((s.renumber z).relate p r (a.renumber z) (b.renumber z)) := by
  unfold relate
  cases r with
  | order op =>
    simpa using follows_settle_map p (Value.compare op a.value b.value)
  | among | notAmong =>
    simp only [Held.value_renumber, Value.contains_renumber]
    exact (follows_settle_eq p _).bind fun b => .pure _
  | _ =>
    simp only [Held.value_renumber, Value.equals_renumber, Held.isSame_renumber]
    exact .pure _

theorem follows_read (h : Held) (name : String) :
    Follows z (Held.renumber z) (s.read p h name)
      ((s.renumber z).read p (h.renumber z) name) := by
  unfold read
  simp only [Held.value_renumber, Value.readAttribute_renumber, Value.quantity_renumber]
  have hmade := fun r => follows_made_map (z := z) (s := s) p [h] r
  cases h.value.quantity? with
  | some q => exact hmade _
  | none =>
    cases h.value.readAttribute name with
    | error e => exact hmade _
    | ok v =>
      have hpart : Follows z (Held.renumber z) (Pure.pure (h.part v))
          (Pure.pure ((h.renumber z).part (v.renumber z))) := by
        rw [Held.part_renumber]
        exact .pure _
      cases v with
      | method v n => exact follows_fresh (.method v n)
      | _ => exact hpart

theorem follows_pick (h : Held) (i : Value) :
    Follows z (Held.renumber z) (s.pick p h i)
      ((s.renumber z).pick p (h.renumber z) (i.renumber z)) := by
  have hsubscript : ResultsAlike Fault.Alike (Value.renumber z) (h.value.subscript i)
      ((h.value.renumber z).subscript (i.renumber z)) := by
    obtain ⟨hmissing, hmissing'⟩ | heq := Value.subscript_renumber z h.value i
    · rw [hmissing, hmissing']
      exact .missingKey z i
    · rw [heq]
      exact .of_map Fault.Alike.refl _ _
  unfold pick
  simp only [Held.value_renumber, Value.plain_renumber]
  generalize h.value.subscript i = r, (h.value.renumber z).subscript (i.renumber z) = r'
    at hsubscript
  have hkept := follows_made (s := s) p (k := [h]) hsubscript
  have hmade := follows_made (s := s) p (k := []) hsubscript
  obtain ⟨v, rfl, rfl⟩ | ⟨e, e', rfl, rfl, -⟩ := hsubscript.cases
  · -- where an item is taken out, it stays the object it is
    have hpart : Follows z (Held.renumber z) (Pure.pure (h.part v))
        (Pure.pure ((h.renumber z).part (v.renumber z))) := by
      rw [Held.part_renumber]
      exact .pure _
    cases h.value.plain with
    | tuple vs => cases i <;> first | exact hkept | exact hpart
    | str t | bytes bs => exact hkept
    | list m vs | dict m ks vs => exact hpart
    | _ => exact hmade
  · cases h.value.plain with
    | tuple vs => cases i <;> first | exact hkept | exact hmade
    | str t | bytes bs => exact hkept
    | _ => exact hmade

end Steps

/-! ### Calls -/

section Calls

variable {z : Shift} {s : Setting} (hhost : s.host.Invariant z)

include hhost

theorem valueOf_renumber (name : String) :
    (s.renumber z).valueOf? name = (s.valueOf? name).map (Held.renumber z) := by
  have hscope : (s.renumber z).scope.lookup name = (s.scope.lookup name).map (Held.renumber z) :=
    Scope.lookup_renumber z s.scope name
  -- what the host names has no objects but its own
  have hnamed : (s.host.names.lookup name).map (Value.renumber z) = s.host.names.lookup name := by
    cases h : s.host.names.lookup name with
    | none => rfl
    | some v =>
      obtain ⟨before, after, hnames, -⟩ := List.lookup_eq_some_iff.mp h
      exact congrArg some (hhost.named (name, v) (by simp [hnames]))
  have hheld (o : Option Value) (ho : o.map (Value.renumber z) = o) :
      (o.map fun v => { value := v }) =
        (o.map fun v => ({ value := v } : Held)).map (Held.renumber z) := by
    cases o with
    | none => rfl
    | some v =>
      have hv : v.renumber z = v := Option.some.inj ho
      simp [Held.renumber, hv]
  refine (congrArg₂ Option.or hscope (hheld _ ?_)).trans Option.map_or.symm
  rw [Option.map_or, Option.map_map]
  exact congrArg₂ Option.or hnamed rfl

/-- Two calls from compilations abreast: they leave compilations abreast, and are answered
alike. -/
def CalledAlike (z : Shift) (r r' : Except HostStop Value × Compilation) : Prop :=
  z.Abreast r.2 r'.2 ∧ ResultsAlike HostStop.Alike (Value.renumber z) r.1 r'.1

omit hhost in
/-- A call that changes nothing. -/
theorem CalledAlike.of_map {c c' : Compilation} (h : z.Abreast c c') (r : Except Fault Value) :
    CalledAlike z (r.mapError .failed, c)
      ((r.map (Value.renumber z)).mapError .failed, c') := by
  refine ⟨h, ?_⟩
  cases r with
  | ok v => rfl
  | error e => exact Fault.Alike.refl e

/-- The order of members is the same in both compilations. -/
theorem arranged_alike (v : Value) (c c' : Compilation) :
    (v.renumber z).arranged (s.host.orderIn c') =
      (v.arranged (s.host.orderIn c)).renumber z :=
  Value.arranged_renumber z (hhost.arranged _ _) v

/-- What an operation makes has the members of a set in the same order. -/
theorem follows_arranged (r : Except Fault Value) :
    Follows z (Except.map (Value.renumber z)) (s.arranged r)
      ((s.renumber z).arranged (r.map (Value.renumber z))) where
  makes _ := le_rfl
  alike c c' hc _ := by
    refine ⟨hc, ?_⟩
    cases r with
    | ok v => exact congrArg Except.ok (arranged_alike hhost v c c')
    | error e => rfl

theorem follows_made_arranged (p : Place) (k : List Held) (r : Except Fault Value) :
    Follows z (Held.renumber z) (s.arranged r >>= fun r => s.made p k r)
      ((s.renumber z).arranged (r.map (Value.renumber z)) >>= fun r =>
        (s.renumber z).made p (k.map (Held.renumber z)) r) :=
  (follows_arranged hhost r).bind fun r => follows_made_map p k r

section Abreast

variable {c c' : Compilation} (h : z.Abreast c c') (hc : c.store.isEvaluating = true)
  (hc' : c'.store.isEvaluating = true)

include h hc hc'

theorem callClass_alike (t : TypeTerm) (a : Arguments)
    (hn : (s.host.callClass t a c).2.created ≤ z.bound) :
    CalledAlike z (s.host.callClass t a c) (s.host.callClass t (a.renumber z) c') := by
  unfold Host.callClass at hn ⊢
  rw [Value.callClass_renumber z hhost.accepts]
  cases hcalled : Value.callClass? s.host.accepts t a with
  | none =>
    rw [hcalled] at hn
    exact hhost.answers (.type t) a h hc hc' hn
  | some r =>
    have harranged := CalledAlike.of_map h (r.map fun v => v.arranged (s.host.orderIn c))
    have hboth : (r.map (Value.renumber z)).map (fun v => v.arranged (s.host.orderIn c')) =
        (r.map fun v => v.arranged (s.host.orderIn c)).map (Value.renumber z) := by
      cases r with
      | ok v => exact congrArg Except.ok (arranged_alike hhost v c c')
      | error e => rfl
    dsimp only [Option.map_some]
    rwa [hboth]

/-- A method that changes its object changes the renumbered one likewise. -/
theorem callMethod_alike (v : Value) (name : String) (a : Arguments)
    (hn : (s.host.callMethod v name a c).2.created ≤ z.bound) :
    CalledAlike z (s.host.callMethod v name a c)
      (s.host.callMethod (v.renumber z) name (a.renumber z) c') := by
  have hchange := Value.changeBound_renumber z v name a
  unfold Host.callMethod at hn ⊢
  generalize v.changeBound? name a = r at hchange hn ⊢
  generalize (v.renumber z).changeBound? name (a.renumber z) = r' at hchange ⊢
  cases hchange with
  | none =>
    dsimp only at hn ⊢
    rw [Value.callBound_renumber]
    cases hbound : v.callBound? name a with
    | some r => exact CalledAlike.of_map h r
    | none =>
      rw [hbound] at hn
      exact hhost.answers (.method v name) a h hc hc' hn
  | some hchange =>
    obtain ⟨r, rfl, rfl⟩ | ⟨e, e', rfl, rfl, he⟩ := hchange.cases
    · refine ⟨⟨h.created, ?_⟩, rfl⟩
      show Changes.put c'.changed (z.number r.mark)
        ((r.object.renumber z).arranged (s.host.orderIn c')) = _
      rw [h.changed, arranged_alike hhost r.object c c', Changes.put_renumber]
    · exact ⟨h, he⟩

/-- A call is answered from what it is given, and changes what it changes. -/
theorem callValue_alike (f : Value) (a : Arguments)
    (hn : (s.host.callValue f a c).2.created ≤ z.bound) :
    CalledAlike z (s.host.callValue f a c)
      (s.host.callValue (f.renumber z) (a.renumber z) c') := by
  have hanswer := hhost.answers f a h hc hc'
  cases f with
  | type t => exact callClass_alike hhost h hc hc' t a hn
  | method v n => exact callMethod_alike hhost h hc hc' v n a hn
  | _ => exact hanswer hn

end Abreast

omit hhost in
/-- What a call comes to, once it was carried out. -/
theorem follows_answered (p : Place) (k : List Held) {r r' : Except HostStop Value}
    (h : ResultsAlike HostStop.Alike (Value.renumber z) r r') :
    Follows z (Held.renumber z) (s.answered p k r)
      ((s.renumber z).answered p (k.map (Held.renumber z)) r') := by
  obtain ⟨v, rfl, rfl⟩ | ⟨e, e', rfl, rfl, he⟩ := h.cases
  · exact follows_made_map p k (.ok v)
  · cases e with
    | rejected e =>
      cases e' with
      | rejected e' => exact .throw he
      | failed f => cases he
    | failed f =>
      cases e' with
      | rejected e' => cases he
      | failed f' => exact follows_fail p he

omit hhost in
@[simp] theorem convertible_renumber (f : Value) (k : List Held) :
    invoke.convertible (f.renumber z) (k.map (Held.renumber z)) =
      (invoke.convertible f k).map (Held.renumber z) := by
  cases f with
  | type t =>
    cases t with
    | builtin b => obtain _ | ⟨h, _ | ⟨k, hs⟩⟩ := k <;> rfl
    | _ => rfl
  | _ => rfl

theorem follows_invoke (p : Place) (f : Value) (k : List Held)
    (named : List (String × Value)) :
    Follows z (Held.renumber z) (s.invoke p f k named)
      ((s.renumber z).invoke p (f.renumber z) (k.map (Held.renumber z))
        (named.map fun e => (e.1, e.2.renumber z))) := by
  have hnames : ((named.map fun e => (e.1, e.2.renumber z)).find?
      fun e => reservedKeywords.contains e.1) =
        (named.find? fun e => reservedKeywords.contains e.1).map
          fun e => (e.1, e.2.renumber z) := by
    simp [List.find?_map]
  cases hnamed : named.find? fun e => reservedKeywords.contains e.1 with
  | some e =>
    rw [hnamed] at hnames
    unfold invoke
    rw [hnamed, hnames]
    exact .throw (Fault.Alike.refl _)
  | none =>
    rw [hnamed] at hnames
    have hvalues : (⟨(k.map (Held.renumber z)).map Held.value,
        named.map fun e => (e.1, e.2.renumber z)⟩ : Arguments) =
          Arguments.renumber z ⟨k.map Held.value, named⟩ := by
      simp [Arguments.renumber]
    refine ⟨fun c => ?_, fun c c' hc hn => ?_⟩
    · exact ((hhost.makes.contained (s := s)).keeps_invoke p f k named c).2
    · rw [outcome_invoke hnamed] at hn ⊢
      rw [outcome_invoke hnames, hvalues, convertible_renumber]
      -- the store is closed while the call is carried out
      have hclosed : z.Abreast { c with store := c.store.enter }
        { c' with store := c'.store.enter } := ⟨hc.created, hc.changed⟩
      have hcalled := callValue_alike hhost hclosed
        (by simp [Store.enter, Store.isEvaluating]) (by simp [Store.enter, Store.isEvaluating])
        f ⟨k.map Held.value, named⟩
      generalize s.host.callValue f ⟨k.map Held.value, named⟩
        { c with store := c.store.enter } = called at hn hcalled ⊢
      obtain ⟨hbehind, halike⟩ := hcalled (((hhost.makes.contained (s := s)).keeps_answered p _
        called.1 { called.2 with store := called.2.store.leave }).2.trans hn)
      exact (follows_answered p (invoke.convertible f k) halike).alike _ _
        ⟨hbehind.created, hbehind.changed⟩ hn

/-- The function and the arguments of a call, as they are now. -/
theorem follows_call (p : Place) (v : Value) (k : List Held) (named : List (String × Value)) :
    Follows z (Held.renumber z)
      (do
        let call ← asOfNow fun cs =>
          (v.now cs, k.map (Held.now cs), named.map fun e => (e.1, e.2.now cs))
        s.invoke p call.1 call.2.1 call.2.2)
      (do
        let call ← asOfNow fun cs => ((v.renumber z).now cs,
          (k.map (Held.renumber z)).map (Held.now cs),
          (named.map fun e => (e.1, e.2.renumber z)).map fun e => (e.1, e.2.now cs))
        (s.renumber z).invoke p call.1 call.2.1 call.2.2) := by
  refine (follows_asOfNow (g := fun r => (r.1.renumber z, r.2.1.map (Held.renumber z),
    r.2.2.map fun e => (e.1, e.2.renumber z))) fun cs => ?_).bind fun call =>
      follows_invoke hhost p call.1 call.2.1 call.2.2
  simp [Function.comp_def]

end Calls

/-! ### Expressions -/

theorem literalValue_renumber (f : Renumbering) (l : Literal) :
    l.value.renumber f = l.value := by
  cases l <;> simp [Literal.value]

theorem keepable_renumber (f : Renumbering) (hs : List Held) :
    keepable (hs.map (Held.renumber f)) = (keepable hs).map (Held.renumber f) := by
  unfold keepable
  rw [List.filter_map]
  congr 2
  funext h
  obtain ⟨v, n⟩ := h
  cases v <;> rfl

theorem setNamed_renumber (f : Renumbering) (name : String) (v : Value) :
    ∀ named : List (String × Value),
      setNamed name (v.renumber f) (named.map fun e => (e.1, e.2.renumber f)) =
        (setNamed name v named).map fun e => (e.1, e.2.renumber f)
  | [] => rfl
  | (n, w) :: rest => by
    simp only [List.map_cons, setNamed, setNamed_renumber f name v rest]
    split <;> rfl

/-- An argument that is not starred is one value. -/
theorem argumentsOf_cons {e : Expr} (he : ∀ q e', e ≠ .starred q e') (es : List Expr)
    (s : Setting) : argumentsOf s (e :: es) = (do
      let h ← e.hold s
      return h :: (← argumentsOf s es)) := by
  rw [argumentsOf]
  exact he

section Expressions

variable {z : Shift} {s : Setting}

mutual

/-- The value of an expression is that of the expression in the renumbered scope, renumbered. -/
theorem follows_hold (h : s.host.Invariant z) : ∀ e : Expr,
    Follows z (Held.renumber z) (e.hold s) (e.hold (s.renumber z))
  | .literal p l => by
    rw [Expr.hold, Expr.hold]
    have hfresh := follows_fresh (z := z) l.value
    rwa [literalValue_renumber] at hfresh
  | .tuple p es => by
    rw [Expr.hold, Expr.hold]
    exact (follows_valuesOf h es).bind fun vs => by
      simpa using follows_fresh (z := z) (.tuple vs)
  | .list p es => by
    rw [Expr.hold, Expr.hold]
    exact (follows_valuesOf h es).bind fun vs => by
      simpa using follows_fresh (z := z) (.list 0 vs)
  | .set p es => by
    rw [Expr.hold, Expr.hold]
    refine (follows_valuesOf h es).bind fun vs => ?_
    have h := follows_made_arranged h p [] do
      for v in vs do v.hashable
      return .set 0 (Value.distinct vs)
    simpa [List.forIn_map] using h
  | .dict p es => by
    rw [Expr.hold, Expr.hold]
    have hmapping (entries : List (Value × Value)) : Follows z (Held.renumber z)
        (s.made p [] do
          for (k, _) in entries do k.hashable
          return Value.mappingOf entries)
        ((s.renumber z).made p [] do
          for (k, _) in entries.map fun e => (e.1.renumber z, e.2.renumber z) do k.hashable
          return Value.mappingOf (entries.map fun e => (e.1.renumber z, e.2.renumber z))) := by
      have h := follows_made_map (z := z) (s := s) p [] do
        for (k, _) in entries do k.hashable
        return Value.mappingOf entries
      simpa [List.forIn_map, Value.mappingOf_renumber] using h
    split
    · exact (follows_unsupported (g := id) _).bind fun _ => (follows_entriesOf h es).bind hmapping
    · exact (follows_entriesOf h es).bind hmapping
  | .name p n => by
    rw [Expr.hold, Expr.hold, valueOf_renumber h]
    cases s.valueOf? n with
    | some h => exact follows_refresh h
    | none => exact follows_reject p _
  | .unary p op e => by
    rw [Expr.hold, Expr.hold]
    refine (follows_hold h e).bind fun k => ?_
    -- only the plus sign may leave its operand as it is
    have hmade := follows_made_map (z := z) (s := s) p (if op = .plus then [k] else [])
      (k.value.operateUnary op)
    rw [← Value.operateUnary_renumber, apply_ite (List.map (Held.renumber z))] at hmade
    exact hmade
  | .binary p op a b => by
    rw [Expr.hold, Expr.hold]
    cases op.supported? with
    | none => exact follows_unsupported _
    | some op =>
      -- the right operand may have changed what the left one is
      refine (follows_hold h a).bind fun k => (follows_hold h b).bind fun l =>
        (follows_refresh k).bind fun k => ?_
      have hmade := follows_made_arranged h p (keepable [k, l]) (k.value.operate op l.value)
      rwa [← Value.operate_renumber, ← keepable_renumber] at hmade
  | .both p es => by
    rw [Expr.hold, Expr.hold]
    exact follows_joinedOf h p true es
  | .either p es => by
    rw [Expr.hold, Expr.hold]
    exact follows_joinedOf h p false es
  | .comparison p e ops es => by
    rw [Expr.hold, Expr.hold]
    refine (follows_hold h e).bind fun k => (follows_chainOf h p k ops es).bind fun v => ?_
    have h := Follows.pure (z := z) (g := Held.renumber z) ⟨v, 0⟩
    rwa [Held.renumber, Renumbering.apply_zero] at h
  | .conditional p test body otherwise => by
    rw [Expr.hold, Expr.hold]
    refine (follows_hold h test).bind fun k => ?_
    rw [Held.value_renumber, Value.truth_renumber]
    refine (follows_settle_eq p _).bind fun b => ?_
    cases b with
    | true => exact follows_hold h body
    | false => exact follows_hold h otherwise
  | .access p e n => by
    rw [Expr.hold, Expr.hold]
    refine (follows_hold h e).bind fun k => ?_
    split
    · exact (follows_reject (g := id) p _).bind fun _ => follows_read p k n
    · exact follows_read p k n
  | .subscript p e i => by
    cases i with
    | slice q a b c =>
      rw [Expr.hold, Expr.hold]
      exact (follows_hold h e).bind fun k => (follows_partOf h a).bind fun u =>
        (follows_partOf h b).bind fun v => (follows_partOf h c).bind fun w =>
          (follows_refresh k).bind fun k => follows_pick p k (.slice u v w)
    | _ =>
      rw [hold_subscript ?_ s, hold_subscript ?_ (s.renumber z)]
      · exact (follows_hold h e).bind fun k => (follows_hold h _).bind fun i =>
          (follows_refresh k).bind fun k => follows_pick p k i.value
      all_goals nofun
  | .call p f es ks => by
    rw [Expr.hold, Expr.hold]
    refine (follows_hold h f).bind fun k => ?_
    simp only [Held.value_renumber, Value.isCallable_renumber, Value.typeName_renumber]
    split
    · exact (follows_reject (g := id) p _).bind fun _ => (follows_argumentsOf h es).bind
        fun positional => (follows_keywordsOf h ks []).bind
          fun named => follows_call h p k.value positional named
    · exact (follows_argumentsOf h es).bind
        fun positional => (follows_keywordsOf h ks []).bind
          fun named => follows_call h p k.value positional named
  | .slice .. | .starred .. | .named .. | .lambda .. | .gather .. | .await .. | .yield ..
  | .yieldFrom .. | .joined .. | .field .. => by
    rw [Expr.hold, Expr.hold]
    · exact follows_unsupported _
    all_goals nofun

theorem follows_valuesOf (h : s.host.Invariant z) : ∀ es : List Expr,
    Follows z (List.map (Value.renumber z)) (valuesOf s es) (valuesOf (s.renumber z) es)
  | [] => by
    rw [valuesOf, valuesOf]
    exact .pure _
  | e :: es => by
    rw [valuesOf, valuesOf]
    exact (follows_hold h e).bind fun k => (follows_valuesOf h es).bind fun vs =>
      .pure (g := List.map (Value.renumber z)) (k.value :: vs)

theorem follows_entriesOf (h : s.host.Invariant z) : ∀ es : List Entry,
    Follows z (List.map fun e : Value × Value => (e.1.renumber z, e.2.renumber z))
      (entriesOf s es) (entriesOf (s.renumber z) es)
  | [] => by
    rw [entriesOf, entriesOf]
    exact .pure _
  | .unpacked _ :: es => by
    rw [entriesOf, entriesOf]
    exact follows_entriesOf h es
  | .item k v :: es => by
    rw [entriesOf, entriesOf]
    exact (follows_hold h k).bind fun key => (follows_hold h v).bind fun value =>
      (follows_entriesOf h es).bind fun entries =>
        .pure (g := List.map fun e : Value × Value => (e.1.renumber z, e.2.renumber z))
          ((key.value, value.value) :: entries)

theorem follows_joinedOf (h : s.host.Invariant z) (p : Place) (goesOn : Bool) : ∀ es : List Expr,
    Follows z (Held.renumber z) (joinedOf s p goesOn es) (joinedOf (s.renumber z) p goesOn es)
  | [] => by
    rw [joinedOf, joinedOf]
    have h := Follows.pure (z := z) (g := Held.renumber z) default
    rwa [show Held.renumber z default = default from congrArg (Held.mk default) z.zero] at h
  | [e] => by
    rw [joinedOf, joinedOf]
    exact follows_hold h e
  | e :: e' :: es => by
    rw [joinedOf_cons p goesOn e e' es s, joinedOf_cons p goesOn e e' es (s.renumber z)]
    refine (follows_hold h e).bind fun k => ?_
    rw [Held.value_renumber, Value.truth_renumber]
    refine (follows_settle_eq p _).bind fun b => ?_
    dsimp only [id]
    split
    · exact follows_joinedOf h p goesOn (e' :: es)
    · exact .pure _

theorem follows_chainOf (h : s.host.Invariant z) (p : Place) (left : Held) :
    ∀ (rs : List Relation) (es : List Expr),
    Follows z (Value.renumber z) (chainOf s p left rs es)
      (chainOf (s.renumber z) p (left.renumber z) rs es)
  | [], es => by
    rw [chainOf, chainOf]
    · exact .pure (g := Value.renumber z) (.bool true)
    all_goals simp
  | r :: rs, [] => by
    rw [chainOf, chainOf]
    · exact .pure (g := Value.renumber z) (.bool true)
    all_goals simp
  | r :: rs, e :: es => by
    rw [chainOf, chainOf]
    refine (follows_hold h e).bind fun right => (follows_refresh left).bind fun left =>
      (follows_relate p r left right).bind fun v => ?_
    rw [Value.truth_renumber]
    refine (follows_settle_eq p _).bind fun b => ?_
    cases b with
    | true => exact follows_chainOf h p right rs es
    | false => exact .pure (g := Value.renumber z) (.bool false)

theorem follows_partOf (h : s.host.Invariant z) : ∀ e : Option Expr,
    Follows z (Value.renumber z) (partOf s e) (partOf (s.renumber z) e)
  | none => by
    rw [partOf, partOf]
    exact .pure (g := Value.renumber z) .nothing
  | some e => by
    rw [partOf, partOf]
    exact (follows_hold h e).bind fun k => .pure (g := Value.renumber z) k.value

theorem follows_argumentsOf (h : s.host.Invariant z) : ∀ es : List Expr,
    Follows z (List.map (Held.renumber z)) (argumentsOf s es) (argumentsOf (s.renumber z) es)
  | [] => by
    rw [argumentsOf, argumentsOf]
    exact .pure (g := List.map (Held.renumber z)) []
  | e :: es => by
    cases e with
    | starred p e' =>
      rw [argumentsOf, argumentsOf]
      refine (follows_hold h e').bind fun k => ?_
      rw [Held.value_renumber, Value.items_renumber]
      refine (follows_settle_map p _).bind fun vs => (follows_argumentsOf h es).bind fun hs => ?_
      have h := Follows.pure (z := z) (g := List.map (Held.renumber z)) (vs.map k.part ++ hs)
      simpa [Function.comp_def] using h
    | _ =>
      rw [argumentsOf_cons ?_ es s, argumentsOf_cons ?_ es (s.renumber z)]
      · exact (follows_hold h _).bind fun k => (follows_argumentsOf h es).bind fun ks =>
          .pure (g := List.map (Held.renumber z)) (k :: ks)
      all_goals nofun

theorem follows_keywordsOf (h : s.host.Invariant z) :
    ∀ (ks : List Keyword) (done : List (String × Value)),
    Follows z (List.map fun e : String × Value => (e.1, e.2.renumber z))
      (keywordsOf s ks done)
      (keywordsOf (s.renumber z) ks (done.map fun e => (e.1, e.2.renumber z)))
  | [], done => by
    rw [keywordsOf, keywordsOf]
    exact .pure (g := List.map fun e : String × Value => (e.1, e.2.renumber z)) done
  | .unpacked m :: ks, done => by
    rw [keywordsOf, keywordsOf]
    exact follows_unsupported _
  | .given n e :: ks, done => by
    rw [keywordsOf, keywordsOf]
    refine (follows_hold h e).bind fun k => ?_
    have hrest := follows_keywordsOf h ks (setNamed n k.value done)
    rwa [← setNamed_renumber] at hrest

end

end Expressions

end Setting

end Marginalia
