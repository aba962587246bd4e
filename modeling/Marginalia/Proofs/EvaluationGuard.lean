/-
What the evaluation of an expression leaves as it was.

Whatever is called runs while the store is closed: it can declare, but what it tries to attach is
refused, and the guard is taken down again however it ends.  So an evaluation leaves the store as
it was, whether it has a value or not.  Values that are bound in the scope can still change when
something is called that changes an object, such as a method of the object; otherwise they stay as
well.

* `Host.DeclaresOrAnnotates` — what a host answers at most declares and attaches;
* `Host.DeclaresOrAnnotates.store_hold` — records, elaborated sites and the guard are left alone;
* `Expr.CallsLeaveObjects` — what is called at a node changes no object;
* `Setting.changed_hold` — then the evaluation changes none;
* `Host.DeclaresOrAnnotates.hold_withAnswer` — calls are answered above the depth at entry only;
* `Setting.evaluate_guarded` — all of this;
* `Setting.evaluate_changes_binding` — a method that changes what a name is bound to.
-/
import Marginalia.Proofs.ElaborationEffect

namespace Marginalia

/-! ### Hosts that declare and attach -/

/-- The operations that a call may carry out. -/
def Operation.DeclaresOrAnnotates : Operation → Prop
  | .declare .. | .annotate .. => True
  | _ => False

/-- Whatever a host answers touches the compilation at most by declaring and attaching, beside
making and changing objects. -/
def Host.DeclaresOrAnnotates (h : Host) : Prop :=
  ∀ (f : Value) (a : Arguments) (c : Compilation),
    c.Performs Operation.DeclaresOrAnnotates (h.answer f a c).2

namespace Compilation

variable {c : Compilation} {ops : List Operation}

/-- While a value is evaluated, declaring and attaching leave the store alone. -/
theorem store_performAll (hops : ∀ op ∈ ops, op.DeclaresOrAnnotates)
    (heval : c.store.isEvaluating = true) : (c.performAll ops).store = c.store := by
  induction ops generalizing c with
  | nil => rfl
  | cons op ops ih =>
    have hfirst : (c.perform op).1.store = c.store := by
      cases op with
      | declare kind module qualname site => rfl
      | annotate i value location type =>
        -- what a call tries to attach is refused
        simp only [perform, annotate_eq, heval, if_true, advance]
      | _ => exact (hops _ List.mem_cons_self).elim
    rw [performAll_cons, ih (fun o ho => hops o (List.mem_cons_of_mem _ ho)) (hfirst ▸ heval),
      hfirst]

/-- No operation changes an object. -/
theorem changed_performAll (c : Compilation) (ops : List Operation) :
    (c.performAll ops).changed = c.changed := by
  have hsame := congrArg Compilation.changed (performAll_created c ops c.created c.changed)
  exact hsame

end Compilation

namespace Host.DeclaresOrAnnotates

variable {s : Setting} (h : s.host.DeclaresOrAnnotates)

include h

/-- Only states with the store that was there before are reached. -/
theorem contained : s.Contained fun c c' => c'.store = c.store where
  refl _ := rfl
  trans h h' := h'.trans h
  created _ := rfl
  changed _ _ := rfl
  called f a c := by
    obtain ⟨ops, n, cs, hops, hcall⟩ := h f a { c with store := c.store.enter }
    have hstore := Compilation.store_performAll (c := { c with store := c.store.enter }) hops
      (by simp [Store.isEvaluating, Store.enter])
    unfold Setting.afterCall
    rw [hcall]
    -- the guard that was put up for the call is taken down behind it
    exact congrArg Store.leave hstore

/-- An evaluation leaves the store as it was. -/
theorem store_hold (e : Expr) (c : Compilation) : (outcome (e.hold s) c).2.store = c.store :=
  h.contained.keeps_hold e c

end Host.DeclaresOrAnnotates

/-! ### Calls that leave objects alone -/

/-- A value that changes no object when it is called. -/
def Host.CallLeavesObjects (h : Host) (f : Value) : Prop :=
  ∀ a c, (h.callValue f a c).2.changed = c.changed

/-- What is called at a node changes no object, whatever the state is when it is worked out and when
it is called. -/
def Expr.CallsLeaveObjects (s : Setting) : Expr → Prop
  | call _ f _ _ => ∀ (c c' : Compilation) (k : Held) (cs : Changes),
      outcome (f.hold s) c = (.ok k, c') → s.host.CallLeavesObjects (k.value.now cs)
  | _ => True

/-- A function changes no object if the host says so. -/
theorem Host.callLeavesObjects_function {h : Host} {n : String}
    (hcall : ∀ a c, (h.call n a c).2.changed = c.changed) : h.CallLeavesObjects (.function n) :=
  hcall

/-- A class that makes values here changes no object. -/
theorem Host.callLeavesObjects_type {h : Host} {t : TypeTerm}
    (hmade : ∀ a, (Value.callClass? h.accepts t a).isSome) : h.CallLeavesObjects (.type t) := by
  intro a c
  obtain ⟨r, hr⟩ := Option.isSome_iff_exists.mp (hmade a)
  rw [callValue, callClass, hr]

/-- Names for functions and classes that change no object can be called. -/
theorem Expr.callsLeaveObjects_name {s : Setting} {name : String} {p q : Place} {es : List Expr}
    {ks : List Keyword} (h : ∀ k, s.valueOf? name = some k →
      ((∃ f, k.value = .function f) ∨ ∃ t, k.value = .type t) ∧ s.host.CallLeavesObjects k.value) :
    (Expr.call p (.name q name) es ks).CallsLeaveObjects s := by
  intro c c' k cs hheld
  rw [Expr.hold] at hheld
  split at hheld
  · rename_i k₀ hvalue
    cases hheld
    -- functions and classes are no objects, so they stay what they are
    obtain ⟨⟨f, hf⟩ | ⟨t, ht⟩, hleaves⟩ := h k₀ hvalue
    · rw [hf] at hleaves
      simpa only [Held.now, hf, Value.now] using hleaves
    · rw [ht] at hleaves
      simpa only [Held.now, ht, Value.now] using hleaves
  · cases hheld

section

variable {s : Setting}

theorem Setting.leavesObjects_fail {α : Type} (p : Place) (f : Fault) :
    (s.fail p f : Evaluation α).LeavesObjects := by
  unfold Setting.fail
  split <;> exact fun _ => rfl

theorem Setting.leavesObjects_made (p : Place) (operands : List Held) (r : Except Fault Value) :
    (s.made p operands r).LeavesObjects := by
  refine s.closed_leavesObjects.paired.made p operands ?_
  cases r with
  | ok v => exact fun _ => rfl
  | error f => exact Setting.leavesObjects_fail p f

theorem Setting.leavesObjects_answered (p : Place) (operands : List Held)
    (r : Except HostStop Value) : (s.answered p operands r).LeavesObjects := by
  obtain (e | f) | v := r
  · exact fun _ => rfl
  · exact Setting.leavesObjects_fail p f
  · exact Setting.leavesObjects_made p operands (.ok v)

/-- Steps change no object when nothing is called that does. -/
theorem Setting.paired_leavesObjects (s : Setting) :
    s.Paired s (fun x => x.CallsLeaveObjects s) fun x _ => x.LeavesObjects where
  names := rfl
  pure _ _ := rfl
  bind := Evaluation.leavesObjects_bind
  reject _ _ _ := rfl
  blame p _ _ := Setting.leavesObjects_fail p _
  miss _ _ := Setting.leavesObjects_fail _ _
  asOfNow _ _ := rfl
  arranged _ _ := rfl
  fresh _ _ := rfl
  invoke {p e es ks f named} hq hf positional _ := by
    intro c
    obtain ⟨c₁, k, c₂, cs, hheld, rfl⟩ := hf
    cases hnamed : named.find? fun e => reservedKeywords.contains e.1 with
    | some e =>
      unfold Setting.invoke
      rw [hnamed]
      rfl
    | none =>
      rw [Setting.outcome_invoke hnamed]
      exact (Setting.leavesObjects_answered p _ _ _).trans
        (hq c₁ c₂ k cs hheld _ _)

/-- An evaluation in which nothing is called that changes objects changes none. -/
theorem Setting.changed_hold {e : Expr} (hcalls : ∀ x ∈ e.walk, x.CallsLeaveObjects s)
    (c : Compilation) : (outcome (e.hold s) c).2.changed = c.changed :=
  s.paired_leavesObjects.hold e hcalls c

end

/-! ### The depth at which calls are answered -/

/-- The surroundings with other answers to calls. -/
def Setting.withAnswer (s : Setting)
    (answer : Value → Arguments → Compilation → Except HostStop Value × Compilation) : Setting :=
  { s with host :=
    { s.host with
      call := fun n => answer (.function n)
      language := { s.host.language with call := answer } } }

@[simp] theorem Setting.answer_withAnswer (s : Setting)
    (answer : Value → Arguments → Compilation → Except HostStop Value × Compilation) (f : Value) :
    (s.withAnswer answer).host.answer f = answer f := by
  cases f <;> rfl

/-- What is made of an answer does not depend on what else is answered. -/
theorem Setting.answered_withAnswer (s : Setting)
    (answer : Value → Arguments → Compilation → Except HostStop Value × Compilation) :
    (s.withAnswer answer).answered = s.answered := by
  funext p operands r
  obtain (e | f) | v := r <;> rfl

/-- From states with guards of some depth, a computation leaves the store alone, and another one
comes to the same. -/
structure Evaluation.AgreesAt {α : Type} (depth : Nat) (x x' : Evaluation α) : Prop where
  keeps : x.Keeps fun c c' => c'.store = c.store
  same : ∀ c, c.store.depth = depth → outcome x' c = outcome x c

namespace Host.DeclaresOrAnnotates

variable {s : Setting} {depth : Nat}
  {answer : Value → Arguments → Compilation → Except HostStop Value × Compilation}
  (h : s.host.DeclaresOrAnnotates)
  (hanswer : ∀ f a c, depth < c.store.depth → answer f a c = s.host.answer f a c)

include hanswer

theorem callValue_withAnswer (f : Value) (a : Arguments) {c : Compilation}
    (hc : depth < c.store.depth) :
    (s.withAnswer answer).host.callValue f a c = s.host.callValue f a c := by
  have hsame (f : Value) (a : Arguments) :
      (s.withAnswer answer).host.answer f a c = s.host.answer f a c := by
    rw [Setting.answer_withAnswer]
    exact hanswer f a c hc
  unfold Host.callValue
  split
  · rw [Host.callClass, Host.callClass, hsame]
    rfl
  · rw [Host.callMethod, Host.callMethod, hsame]
    rfl
  · exact hsame f a

include h

/-- Steps do the same with calls that are answered alike above some depth. -/
theorem paired_agreesAt :
    s.Paired (s.withAnswer answer) (fun _ => True) (Evaluation.AgreesAt depth) where
  names := rfl
  pure _ := ⟨fun _ => rfl, fun _ _ => rfl⟩
  bind hx hf := by
    refine ⟨h.contained.keeps_bind hx.keeps fun a c c' hrun => (hf a c c' hrun).keeps,
      fun c hc => ?_⟩
    have hfirst := hx.keeps c
    rw [outcome_bind, outcome_bind, hx.same c hc]
    split
    · rename_i a c' hrun
      rw [hrun] at hfirst
      exact (hf a c c' hrun).same c' ((congrArg Store.depth hfirst).trans hc)
    · rfl
  reject _ _ := ⟨fun _ => rfl, fun _ _ => rfl⟩
  blame p _ _ := ⟨h.contained.keeps_fail p _, fun _ _ => rfl⟩
  miss _ k := ⟨h.contained.keeps_fail _ _, fun _ _ => rfl⟩
  asOfNow _ := ⟨fun _ => rfl, fun _ _ => rfl⟩
  arranged _ := ⟨fun _ => rfl, fun _ _ => rfl⟩
  fresh _ := ⟨fun _ => rfl, fun _ _ => rfl⟩
  invoke {p e es ks f named} _ _ positional _ := by
    refine ⟨h.contained.keeps_invoke p f positional named, fun c hc => ?_⟩
    cases hnamed : named.find? fun e => reservedKeywords.contains e.1 with
    | some e =>
      unfold Setting.invoke
      rw [hnamed]
    | none =>
      -- calls are answered with one more guard up than there were before
      rw [Setting.outcome_invoke hnamed, Setting.outcome_invoke hnamed,
        Setting.answered_withAnswer,
        callValue_withAnswer hanswer f _ (hc ▸ Nat.lt_succ_self c.store.depth)]

/-- What would be answered at the depth at entry or below does not matter. -/
theorem hold_withAnswer (e : Expr) {c : Compilation} (hc : c.store.depth = depth) :
    outcome (e.hold (s.withAnswer answer)) c = outcome (e.hold s) c :=
  ((h.paired_agreesAt hanswer).hold e fun _ _ => trivial).same c hc

end Host.DeclaresOrAnnotates

/-! ### Evaluations -/

namespace Setting

theorem outcome_evaluate_snd (s : Setting) (e : Expr) (c : Compilation) :
    (outcome (e.evaluate s) c).2 = (outcome (e.hold s) c).2 := by
  rw [outcome_evaluate]
  generalize outcome (e.hold s) c = held
  obtain ⟨_ | _, _⟩ := held <;> rfl

/-- **The guard.**  When whatever is called at most declares and attaches, the evaluation of an
expression leaves the records, the elaborated sites and the depth of the guard as they were, whether
it has a value or stops.  It leaves what every name is bound to in every body of the scope, unless
something is called that changes an object.  And calls are answered above the depth at entry only:
whatever else would be answered at that depth or below, the evaluation comes to the same. -/
theorem evaluate_guarded (s : Setting) (h : s.host.DeclaresOrAnnotates) (e : Expr)
    (c : Compilation) :
    (outcome (e.evaluate s) c).2.store = c.store ∧
      ((∀ x ∈ e.walk, x.CallsLeaveObjects s) →
        ∀ body ∈ s.scope.inner :: s.scope.outer, ∀ b ∈ body,
          b.2.map (Held.now (outcome (e.evaluate s) c).2.changed) =
            b.2.map (Held.now c.changed)) ∧
      ∀ answer : Value → Arguments → Compilation → Except HostStop Value × Compilation,
        (∀ f a c', c.store.depth < c'.store.depth → answer f a c' = s.host.answer f a c') →
          outcome (e.evaluate (s.withAnswer answer)) c = outcome (e.evaluate s) c := by
  refine ⟨?_, fun hcalls body _ b _ => ?_, fun answer hanswer => ?_⟩
  · rw [outcome_evaluate_snd]
    exact h.store_hold e c
  · rw [outcome_evaluate_snd, changed_hold hcalls]
  · rw [outcome_evaluate, outcome_evaluate, h.hold_withAnswer hanswer e rfl]

/-- What is declared and annotated behind the back of an evaluation. -/
def sneakingOperations : List Operation :=
  [.declare .function "host" "made" ⟨"host.py", 1, 0⟩,
    .annotate ⟨1, 0⟩ (.int 1) ⟨"host.py", 1, 0⟩ none]

/-- A function that declares something and tries to annotate it, and a name for a list. -/
def sneakingSetting : Setting where
  host :=
    { names := [("sneak", .function "sneak")]
      call := fun _ _ c => (.ok (.int 3), c.performAll sneakingOperations) }
  scope := { inner := [("X", some ⟨.list 1 [.int 1], 1⟩)] }
  file := "m.py"

/-- The function called with the items of the list. -/
def sneakingCall : Expr :=
  .call ⟨1, 0⟩ (.name ⟨1, 0⟩ "sneak")
    [.call ⟨1, 6⟩ (.name ⟨1, 6⟩ "tuple") [.name ⟨1, 12⟩ "X"] []] []

theorem evaluate_guarded_sneaking :
    sneakingSetting.host.DeclaresOrAnnotates ∧
      (outcome (sneakingCall.evaluate sneakingSetting) (.empty 1 Kind.all)).2.store =
        (Compilation.empty 1 Kind.all).store ∧
      (∀ body ∈ sneakingSetting.scope.inner :: sneakingSetting.scope.outer, ∀ b ∈ body,
        b.2.map (Held.now
            (outcome (sneakingCall.evaluate sneakingSetting) (.empty 1 Kind.all)).2.changed) =
          b.2.map (Held.now (Compilation.empty 1 Kind.all).changed)) ∧
      ∀ answer : Value → Arguments → Compilation → Except HostStop Value × Compilation,
        (∀ f a c', 0 < c'.store.depth → answer f a c' = sneakingSetting.host.answer f a c') →
          outcome (sneakingCall.evaluate (sneakingSetting.withAnswer answer)) (.empty 1 Kind.all) =
            outcome (sneakingCall.evaluate sneakingSetting) (.empty 1 Kind.all) := by
  have hhost : sneakingSetting.host.DeclaresOrAnnotates := by
    refine Host.answer_of_calls (fun _ _ c => ?_) fun _ _ c => .refl _ c
    refine ⟨sneakingOperations, (c.performAll sneakingOperations).created,
      (c.performAll sneakingOperations).changed, fun op hop => ?_, rfl⟩
    simp only [sneakingOperations, List.mem_cons, List.not_mem_nil, or_false] at hop
    obtain rfl | rfl := hop <;> trivial
  have hcalls : ∀ x ∈ sneakingCall.walk, x.CallsLeaveObjects sneakingSetting := by
    have hwalk : sneakingCall.walk =
        [sneakingCall, .name ⟨1, 0⟩ "sneak",
          .call ⟨1, 6⟩ (.name ⟨1, 6⟩ "tuple") [.name ⟨1, 12⟩ "X"] [], .name ⟨1, 6⟩ "tuple",
          .name ⟨1, 12⟩ "X"] := rfl
    rw [hwalk]
    intro x hx
    simp only [List.mem_cons, List.not_mem_nil, or_false] at hx
    obtain rfl | rfl | rfl | rfl | rfl := hx
    · refine Expr.callsLeaveObjects_name fun k hk => ?_
      cases hk
      exact ⟨.inl ⟨"sneak", rfl⟩, Host.callLeavesObjects_function fun _ c =>
        Compilation.changed_performAll c sneakingOperations⟩
    · trivial
    · refine Expr.callsLeaveObjects_name fun k hk => ?_
      cases hk
      exact ⟨.inr ⟨.builtin .tuple, rfl⟩, Host.callLeavesObjects_type fun _ => rfl⟩
    · trivial
    · trivial
  obtain ⟨hstore, hbindings, hdepth⟩ :=
    evaluate_guarded sneakingSetting hhost sneakingCall (.empty 1 Kind.all)
  exact ⟨hhost, hstore, hbindings hcalls, hdepth⟩

def appendingCall : Expr :=
  .call ⟨1, 0⟩ (.access ⟨1, 0⟩ (.name ⟨1, 0⟩ "X") "append") [.literal ⟨1, 9⟩ (.int 2)] []

/-- A method that changes its object changes what a name is bound to. -/
theorem evaluate_changes_binding :
    ¬ ∀ (s : Setting) (e : Expr) (c : Compilation), s.host.DeclaresOrAnnotates →
      ∀ body ∈ s.scope.inner :: s.scope.outer, ∀ b ∈ body,
        b.2.map (Held.now (outcome (e.evaluate s) c).2.changed) = b.2.map (Held.now c.changed) := by
  intro hclaim
  have hhost : Host.DeclaresOrAnnotates {} :=
    Host.answer_of_calls (fun _ _ c => .refl _ c) fun _ _ c => .refl _ c
  have hkept := hclaim { sneakingSetting with host := {} } appendingCall (.empty 1 Kind.all) hhost _
    List.mem_cons_self _ List.mem_cons_self
  have hwritten := congrArg (Option.map fun k : Held => k.value.written) hkept
  revert hwritten
  decide +kernel

end Setting

end Marginalia
