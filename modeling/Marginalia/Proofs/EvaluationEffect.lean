/-
What an evaluation leaves behind in the compilation.

An evaluation numbers the objects it makes, notes what becomes of those it changes, and calls
functions of the host and what is left to the language, which see the compilation while its store
is closed to annotations from outside.  Whatever relation holds between the states before and
after each of these holds between the states before and after the evaluation of any expression
(`Setting.Contained.keeps_hold`), whether it has a value or not.

* `Setting.closed_leavesObjects` — without calls no object is changed;
* `Operation.FromOutside` — the operations of a compilation that are there for its
  surroundings: all but recording without a check and the guard itself;
* `Host.Abides` — whatever a host answers goes through these operations only;
* `Compilation.Leaves` — the log and the guard are as they were, and no declaration is lost;
* `Host.Abides.leaves_hold` — an evaluation with such a host leaves the compilation so: the
  guard refuses every annotation that a call tries to attach.
-/
import Marginalia.Proofs.EvaluationInduction
import Marginalia.Proofs.Operation
import Marginalia.Proofs.Outcome

namespace Marginalia

/-- A relation holds between the compilation before an evaluation and after it. -/
def Evaluation.Keeps {α : Type} (R : Compilation → Compilation → Prop) (x : Evaluation α) :
    Prop :=
  ∀ c, R c (outcome x c).2

namespace Setting

/-- The compilation after the host answered a call from an expression. -/
def afterCall (s : Setting) (f : Value) (a : Arguments) (c : Compilation) : Compilation :=
  let c' := (s.host.answer f a { c with store := c.store.enter }).2
  { c' with store := c'.store.leave }

/-- The answer to a call, once it was carried out. -/
def answered (s : Setting) (p : Place) (operands : List Held) :
    Except HostStop Value → Evaluation Held
  | .ok v => s.made p operands (.ok v)
  | .error (.rejected e) => throw (.rejected e)
  | .error (.failed fault) => s.fail p fault

/-- A call whose names are free is carried out between entering and leaving the store. -/
theorem outcome_invoke {s : Setting} {p : Place} {f : Value} {positional : List Held}
    {named : List (String × Value)} {c : Compilation}
    (h : (named.find? fun e => reservedKeywords.contains e.1) = none) :
    outcome (s.invoke p f positional named) c =
      let (r, c') := s.host.callValue f ⟨positional.map Held.value, named⟩
        { c with store := c.store.enter }
      outcome (s.answered p (invoke.convertible f positional) r)
        { c' with store := c'.store.leave } := by
  unfold invoke
  rw [h]
  simp only [outcome_bind, outcome_get, outcome_set]
  unfold answered
  obtain v | e | fault := (s.host.callValue f ⟨positional.map Held.value, named⟩
    { c with store := c.store.enter }).1 <;> rfl

/-- A relation that holds between the states around each step that touches the compilation. -/
structure Contained (s : Setting) (R : Compilation → Compilation → Prop) : Prop where
  refl (c : Compilation) : R c c
  trans {c c' c'' : Compilation} (h : R c c') (h' : R c' c'') : R c c''
  created (c : Compilation) : R c { c with created := c.created + 1 }
  changed (c : Compilation) (cs : Changes) : R c { c with changed := cs }
  called (f : Value) (a : Arguments) (c : Compilation) : R c (s.afterCall f a c)

namespace Contained

variable {s : Setting} {R : Compilation → Compilation → Prop} (h : s.Contained R)

include h

theorem keeps_bind {α β : Type} {x : Evaluation α} {f : α → Evaluation β} (hx : x.Keeps R)
    (hf : ∀ a c c', outcome x c = (.ok a, c') → (f a).Keeps R) : (x >>= f).Keeps R := by
  intro c
  have hfirst := hx c
  rw [outcome_bind]
  split
  · rename_i a c' heq
    rw [heq] at hfirst
    exact h.trans hfirst (hf a c c' heq c')
  · rename_i e c' heq
    rwa [heq] at hfirst

theorem keeps_fail {α : Type} (p : Place) (f : Fault) : (s.fail p f : Evaluation α).Keeps R := by
  unfold Setting.fail
  split
  · exact fun c => h.refl c
  · exact fun c => h.refl c

theorem keeps_fresh (v : Value) : (Setting.fresh v).Keeps R := fun c => h.created c

theorem keeps_settle {α : Type} (p : Place) (r : Except Fault α) : (s.settle p r).Keeps R := by
  cases r with
  | ok a => exact fun c => h.refl c
  | error f => exact h.keeps_fail p f

theorem keeps_made (p : Place) (operands : List Held) (r : Except Fault Value) :
    (s.made p operands r).Keeps R := by
  refine h.keeps_bind (h.keeps_settle p r) fun v _ _ _ => ?_
  split
  · exact fun c => h.refl c
  · exact h.keeps_fresh v

/-- Whatever is called, the guard stands while it runs, and only the host sees the store. -/
theorem callValue_keeps (f : Value) (a : Arguments) (c : Compilation) :
    R c { (s.host.callValue f a { c with store := c.store.enter }).2 with
      store := (s.host.callValue f a { c with store := c.store.enter }).2.store.leave } := by
  unfold Host.callValue
  split
  · unfold Host.callClass
    split
    · exact h.refl c
    · exact h.called _ a c
  · unfold Host.callMethod
    split
    · exact h.changed c _
    · exact h.refl c
    · split
      · exact h.refl c
      · exact h.called _ a c
  · exact h.called _ a c

/-- What a call that was carried out comes to. -/
theorem keeps_answered (p : Place) (operands : List Held) (r : Except HostStop Value) :
    (answered s p operands r).Keeps R := by
  unfold answered
  split
  · exact h.keeps_made p _ _
  · exact fun c => h.refl c
  · exact h.keeps_fail p _

theorem keeps_invoke (p : Place) (f : Value) (positional : List Held)
    (named : List (String × Value)) : (s.invoke p f positional named).Keeps R := by
  intro c
  cases hnamed : named.find? fun e => reservedKeywords.contains e.1 with
  | some e =>
    unfold Setting.invoke
    rw [hnamed]
    exact h.refl c
  | none =>
    rw [outcome_invoke hnamed]
    -- the guard is taken down before the answer is looked at
    exact h.trans (h.callValue_keeps f _ c) (h.keeps_answered p _ _ _)

theorem closed : s.Closed (fun _ => True) (Evaluation.Keeps R) where
  pure _ c := h.refl c
  bind := h.keeps_bind
  reject _ _ c := h.refl c
  blame p _ _ := h.keeps_fail p _
  miss _ k := h.keeps_fail _ (.missingKey k)
  asOfNow _ c := h.refl c
  arranged _ c := h.refl c
  fresh := h.keeps_fresh
  invoke _ f positional _ _ := h.keeps_invoke _ f positional _

theorem keeps_hold (e : Expr) : (e.hold s).Keeps R := h.closed.hold e fun _ _ => trivial

end Contained

end Setting

/-! ### Objects that stay as they are -/

/-- Whatever is computed, no object is changed. -/
def Evaluation.LeavesObjects {α : Type} (x : Evaluation α) : Prop :=
  ∀ c, (outcome x c).2.changed = c.changed

/-- Whether a node is a call. -/
def Expr.isCall : Expr → Bool
  | call .. => true
  | _ => false

theorem Evaluation.leavesObjects_bind {α β : Type} {x : Evaluation α} {k : α → Evaluation β}
    (hx : x.LeavesObjects) (hk : ∀ a c c', outcome x c = (.ok a, c') → (k a).LeavesObjects) :
    (x >>= k).LeavesObjects := by
  intro c
  have hfirst := hx c
  rw [outcome_bind]
  split
  · rename_i a c' hrun
    rw [hrun] at hfirst
    exact (hk a c c' hrun c').trans hfirst
  · rename_i e c' hrun
    rwa [hrun] at hfirst

/-- The steps of an evaluation without calls change no object. -/
theorem Setting.closed_leavesObjects (s : Setting) :
    s.Closed (fun x => x.isCall = false) Evaluation.LeavesObjects where
  pure _ _ := rfl
  bind := Evaluation.leavesObjects_bind
  reject _ _ _ := rfl
  blame p f hf c := by
    rw [Setting.fail, if_pos hf]
    rfl
  miss _ k c := by
    unfold Setting.fail
    split <;> rfl
  asOfNow _ _ := rfl
  arranged _ _ := rfl
  fresh _ _ := rfl
  invoke h := nomatch h

/-! ### Hosts that go through the operations for the surroundings -/

/-- What holds around the functions of a host and around what is left to the language holds around
every answer. -/
theorem Host.answer_of_calls {h : Host} {R : Compilation → Compilation → Prop}
    (hcall : ∀ n a c, R c (h.call n a c).2) (hlanguage : ∀ f a c, R c (h.language.call f a c).2)
    (f : Value) (a : Arguments) (c : Compilation) : R c (h.answer f a c).2 := by
  cases f with
  | function n => exact hcall n a c
  | _ => exact hlanguage _ a c

/-- The operations that are there for the surroundings of a compilation: neither recording
without a check nor the guard. -/
def Operation.FromOutside : Operation → Prop
  | .record .. | .enter | .leave => False
  | _ => True

/-- A later state that some kinds of operations lead to, beside objects that are made and
changed. -/
def Compilation.Performs (may : Operation → Prop) (c c' : Compilation) : Prop :=
  ∃ (ops : List Operation) (n : Nat) (cs : Changes), (∀ op ∈ ops, may op) ∧
    c' = { c.performAll ops with created := n, changed := cs }

theorem Compilation.Performs.refl (may : Operation → Prop) (c : Compilation) : c.Performs may c :=
  ⟨[], c.created, c.changed, nofun, rfl⟩

/-- Whatever a host answers changes the compilation by operations that are there for it only,
beside making and changing objects. -/
def Host.Abides (h : Host) : Prop :=
  ∀ (f : Value) (a : Arguments) (c : Compilation),
    c.Performs Operation.FromOutside (h.answer f a c).2

namespace Compilation

variable {c c' c'' : Compilation}

/-- A later state with the log and the guard as they were, and every identity that was live
still live. -/
structure Leaves (c c' : Compilation) : Prop where
  log : c'.store.log = c.store.log
  depth : c'.store.depth = c.store.depth
  grows : c.table.Grows c'.table
  numbered : c.table.Numbered → c'.table.Numbered

theorem Leaves.refl (c : Compilation) : c.Leaves c := ⟨rfl, rfl, Table.Grows.refl _, id⟩

theorem Leaves.trans (h : c.Leaves c') (h' : c'.Leaves c'') : c.Leaves c'' :=
  ⟨h'.log.trans h.log, h'.depth.trans h.depth, h.grows.trans h'.grows,
    fun hc => h'.numbered (h.numbered hc)⟩

/-- While a value is evaluated, nothing is attached from outside. -/
theorem perform_leaves {op : Operation} (hop : op.FromOutside)
    (heval : c.store.isEvaluating = true) : c.Leaves (c.perform op).1 := by
  have hgrows := perform_grows (c := c) op
  have hnumbered := fun h => perform_numbered (c := c) h op
  cases op with
  | record i type value location => exact hop.elim
  | enter => exact hop.elim
  | leave => exact hop.elim
  | annotate i value location given =>
    have hrefused : (c.perform (.annotate i value location given)).1 = c := by
      simp only [perform, annotate_eq, heval, if_true, advance]
    rw [hrefused]
    exact .refl c
  | elaborate i site =>
    obtain h | h := advance_elaborate (c := c) i site
    · exact ⟨by simp only [perform, h], by simp only [perform, h], hgrows, hnumbered⟩
    · exact ⟨by simp only [perform, h], by simp only [perform, h], hgrows, hnumbered⟩
  | _ => exact ⟨rfl, rfl, hgrows, hnumbered⟩

theorem performAll_leaves {ops : List Operation} (hops : ∀ op ∈ ops, op.FromOutside)
    (heval : c.store.isEvaluating = true) : c.Leaves (c.performAll ops) := by
  induction ops generalizing c with
  | nil => exact .refl c
  | cons op ops ih =>
    have hfirst := perform_leaves (hops op List.mem_cons_self) heval
    rw [performAll_cons]
    refine hfirst.trans (ih (fun o ho => hops o (List.mem_cons_of_mem _ ho)) ?_)
    -- the first operation leaves the guard standing for those behind it
    unfold Store.isEvaluating at heval ⊢
    rwa [hfirst.depth]

end Compilation

namespace Host.Abides

variable {s : Setting} (h : s.host.Abides)

include h

/-- A call from an expression leaves the log alone: the guard stands while it runs. -/
theorem leaves_afterCall (f : Value) (a : Arguments) (c : Compilation) :
    c.Leaves (s.afterCall f a c) := by
  obtain ⟨ops, n, cs, hops, hcall⟩ := h f a { c with store := c.store.enter }
  have heval : Store.isEvaluating c.store.enter = true := by
    simp [Store.isEvaluating, Store.enter]
  have hleaves := Compilation.performAll_leaves (c := { c with store := c.store.enter }) hops heval
  unfold Setting.afterCall
  rw [hcall]
  refine ⟨hleaves.log, ?_, hleaves.grows, hleaves.numbered⟩
  have hdepth := hleaves.depth
  simp only [Store.enter, Store.leave] at hdepth ⊢
  omega

theorem contained : s.Contained Compilation.Leaves where
  refl := .refl
  trans := .trans
  created _ := ⟨rfl, rfl, Table.Grows.refl _, id⟩
  changed _ _ := ⟨rfl, rfl, Table.Grows.refl _, id⟩
  called := h.leaves_afterCall

/-- An evaluation leaves the log and the guard as they were. -/
theorem leaves_hold (e : Expr) (c : Compilation) : c.Leaves (outcome (e.hold s) c).2 :=
  h.contained.keeps_hold e c

end Host.Abides

end Marginalia
