/-
The places that errors of expressions are blamed on.

An evaluation refuses a form of expression, or blames what went wrong in an operation, at the place
of the node that it has come to: the expression itself, a part of a slice, a starred argument, the
value of an argument by name.  No other node looks at an error once it is there, so its place is
still this one when it comes out.  An error that the host raises when something is called is not
looked at either, however many calls are around it.

* `Host.Raises` — the errors that a host raises;
* `Setting.Blames` — an error is blamed on a node, or the host has raised it;
* `Setting.blames_of_hold` — the errors of an evaluation are of these two kinds;
* `Expr.Awaits` — the answer to a call makes a difference to an evaluation;
* `Setting.outcome_evaluate_of_awaits` — an evaluation to which it does ends with the error that
  this call ends with;
* `Setting.blamed_places` — the errors of evaluations are located at nodes, and those of the host
  come out unchanged.
-/
import Marginalia.Proofs.EvaluationGuard

namespace Marginalia

/-- A function of the host, or something else that it answers calls of, can raise an error. -/
def Host.Raises (h : Host) (err : AnnotationError) : Prop :=
  ∃ (f : Value) (a : Arguments) (c c' : Compilation),
    h.answer f a c = (.error (.rejected err), c')

theorem Cause.OfExpression.kind_eq {c : Cause} (h : c.OfExpression) :
    c.kind = "ConstantEvaluationError" := by
  cases c <;> first | rfl | exact h.elim

namespace Setting

variable {s : Setting} {e : Expr} {err : AnnotationError}

/-! ### Errors of nodes and of the host -/

/-- An error of evaluation is blamed on the place of a node, and every other one has been raised by
the host. -/
def Blames (s : Setting) (e : Expr) (err : AnnotationError) : Prop :=
  (err.kind = "ConstantEvaluationError" ∧
    ∃ x ∈ e.walk, err.location = some (x.place.inFile s.file)) ∨
  s.host.Raises err

/-- Whatever is called, only the host raises errors. -/
theorem raises_of_callValue {f : Value} {a : Arguments} {c c' : Compilation}
    (h : s.host.callValue f a c = (.error (.rejected err), c')) : s.host.Raises err := by
  -- without a host, what goes wrong is a fault and no error
  have hpure : ∀ r : Except Fault Value, (r.mapError .failed, c) ≠
      ((.error (.rejected err), c') : Except HostStop Value × Compilation) := by
    intro r hr
    cases r <;> cases hr
  unfold Host.callValue at h
  split at h
  · unfold Host.callClass at h
    split at h
    · exact absurd h (hpure _)
    · exact ⟨_, a, c, c', h⟩
  · unfold Host.callMethod at h
    split at h
    · cases h
    · cases h
    · split at h
      · exact absurd h (hpure _)
      · exact ⟨_, a, c, c', h⟩
  · exact ⟨f, a, c, c', h⟩

/-- A computation stops with errors of these kinds only. -/
def Blaming {α : Type} (s : Setting) (e : Expr) (x : Evaluation α) : Prop :=
  ∀ c err c', outcome x c = (.error (.rejected err), c') → s.Blames e err

theorem blaming_bind {α β : Type} {x : Evaluation α} {f : α → Evaluation β} (hx : s.Blaming e x)
    (hf : ∀ a c c', outcome x c = (.ok a, c') → s.Blaming e (f a)) : s.Blaming e (x >>= f) := by
  intro c err c' h
  obtain hstop | ⟨a, c₁, hrun, h⟩ := outcome_bind_error h
  · exact hx c err c' hstop
  · exact hf a c c₁ hrun c₁ err c' h

theorem blaming_reject {α : Type} {p : Place} {c : Cause} (hp : ∃ x ∈ e.walk, x.place = p)
    (hc : c.kind = "ConstantEvaluationError") : s.Blaming e (s.reject p c : Evaluation α) := by
  rintro _ _ _ ⟨⟩
  obtain ⟨x, hx, rfl⟩ := hp
  exact .inl ⟨hc, x, hx, rfl⟩

theorem blaming_fail {α : Type} {p : Place} (hp : ∃ x ∈ e.walk, x.place = p) (f : Fault) :
    s.Blaming e (s.fail p f : Evaluation α) := by
  unfold fail
  split
  · exact blaming_reject hp rfl
  · rintro _ _ _ ⟨⟩

theorem blaming_invoke {p : Place} (hp : ∃ x ∈ e.walk, x.place = p) (f : Value)
    (positional : List Held) (named : List (String × Value)) :
    s.Blaming e (s.invoke p f positional named) := by
  intro c err c' h
  cases hnamed : named.find? fun e => reservedKeywords.contains e.1 with
  | some a =>
    unfold invoke at h
    rw [hnamed] at h
    cases h
  | none =>
    rw [outcome_invoke hnamed] at h
    generalize hcalled : s.host.callValue f ⟨positional.map Held.value, named⟩
      { c with store := c.store.enter } = called at h
    obtain ⟨(e' | fault) | v, c₁⟩ := called
    · cases h
      exact .inr (raises_of_callValue hcalled)
    · exact blaming_fail hp fault _ err c' h
    · -- an answer is at most made a new object, which stops with nothing
      refine blaming_bind (by rintro _ _ _ ⟨⟩) (fun v _ _ _ => ?_) _ err c' h
      split <;> rintro _ _ _ ⟨⟩

/-- The steps that an evaluation takes for the nodes of an expression are blamed on these. -/
theorem pairedAt_blaming (s : Setting) (e : Expr) :
    s.PairedAt s (· ∈ e.walk) fun x _ => s.Blaming e x where
  names _ := rfl
  pure _ := by rintro _ _ _ ⟨⟩
  bind := blaming_bind
  reject hp hc := blaming_reject hp hc.kind_eq
  blame hp _ := blaming_fail hp _
  miss hq _ := blaming_fail ⟨_, hq, rfl⟩ _
  asOfNow _ := by rintro _ _ _ ⟨⟩
  arranged _ := by rintro _ _ _ ⟨⟩
  fresh _ := by rintro _ _ _ ⟨⟩
  invoke hq _ positional _ := blaming_invoke ⟨_, hq, rfl⟩ _ positional _

theorem blames_of_hold {c c' : Compilation}
    (h : outcome (e.hold s) c = (.error (.rejected err), c')) : s.Blames e err :=
  (pairedAt_blaming s e).hold e (fun _ => id) c err c' h

/-! ### Errors that come through -/

open Classical in
/-- The surroundings where one call has another answer. -/
noncomputable def answering (s : Setting) (f : Value) (a : Arguments) (c : Compilation)
    (answer : Except HostStop Value × Compilation) : Setting :=
  s.withAnswer fun g b c' => if (g, b, c') = (f, a, c) then answer else s.host.answer g b c'

section

variable {f : Value} {a : Arguments} {c₀ c₁ : Compilation}
  {answer : Except HostStop Value × Compilation}

/-- Only this one call is another one. -/
theorem callValue_answering (g : Value) (b : Arguments) (c : Compilation) :
    (s.answering f a c₀ answer).host.callValue g b c = s.host.callValue g b c ∨
      s.host.callValue g b c = s.host.answer f a c₀ := by
  have hanswer (g : Value) : (s.answering f a c₀ answer).host.answer g b c = s.host.answer g b c ∨
      s.host.answer g b c = s.host.answer f a c₀ := by
    rw [answering, answer_withAnswer]
    by_cases hcall : (g, b, c) = (f, a, c₀)
    · cases hcall
      exact .inr rfl
    · exact .inl (if_neg hcall)
  unfold Host.callValue
  split
  · unfold Host.callClass
    rw [show (s.answering f a c₀ answer).host.accepts = s.host.accepts from rfl]
    split
    · exact .inl rfl
    · exact hanswer _
  · unfold Host.callMethod
    split
    · exact .inl rfl
    · exact .inl rfl
    · split
      · exact .inl rfl
      · exact hanswer _
  · exact hanswer g

theorem answered_answering : (s.answering f a c₀ answer).answered = s.answered :=
  s.answered_withAnswer _

/-- With another answer to this one call a computation comes to the same, or it had stopped with the
error that the call ends with. -/
theorem pairedAt_answering (s : Setting)
    (hcall : s.host.answer f a c₀ = (.error (.rejected err), c₁)) (Q : Expr → Prop) :
    s.PairedAt (s.answering f a c₀ answer) Q fun x x' => ∀ c, outcome x' c = outcome x c ∨
      outcome x c = (.error (.rejected err), { c₁ with store := c₁.store.leave }) where
  names _ := rfl
  pure _ _ := .inl rfl
  bind hx hf c := by
    rw [outcome_bind, outcome_bind]
    obtain hsame | hstop := hx c
    · rw [hsame]
      cases hrun : outcome _ c with
      | mk r c' =>
        cases r with
        | error stop => exact .inl rfl
        | ok v => exact hf v c c' hrun c'
    · -- what comes behind is not gone through
      rw [hstop]
      exact .inr rfl
  reject _ _ _ := .inl rfl
  blame _ _ _ := .inl rfl
  miss _ _ _ := .inl rfl
  asOfNow _ _ := .inl rfl
  arranged _ _ := .inl rfl
  fresh _ _ := .inl rfl
  invoke {p e es ks v named} _ _ positional _ c := by
    cases hnamed : named.find? fun e => reservedKeywords.contains e.1 with
    | some a =>
      unfold Setting.invoke
      rw [hnamed]
      exact .inl rfl
    | none =>
      rw [outcome_invoke hnamed, outcome_invoke hnamed, answered_answering]
      obtain hsame | hthis := s.callValue_answering v ⟨positional.map Held.value, named⟩
        { c with store := c.store.enter }
      · exact .inl (by rw [hsame])
      · exact .inr (by rw [hthis, hcall]; rfl)

end

end Setting

/-- The answer to a call makes a difference to the evaluation of an expression. -/
def Expr.Awaits (e : Expr) (s : Setting) (c : Compilation) (f : Value) (a : Arguments)
    (c₀ : Compilation) : Prop :=
  ∃ answer, outcome (e.evaluate (s.answering f a c₀ answer)) c ≠ outcome (e.evaluate s) c

namespace Setting

variable {s : Setting} {e : Expr} {err : AnnotationError}

/-- What comes out of an evaluation that waits for a call is the error that the call ends with. -/
theorem outcome_evaluate_of_awaits {f : Value} {a : Arguments} {c c₀ c₁ : Compilation}
    (hcall : s.host.answer f a c₀ = (.error (.rejected err), c₁)) (h : e.Awaits s c f a c₀) :
    outcome (e.evaluate s) c =
      (.error (.rejected err), { c₁ with store := c₁.store.leave }) := by
  obtain ⟨answer, hother⟩ := h
  rw [outcome_evaluate, outcome_evaluate] at hother
  rw [outcome_evaluate]
  obtain hsame | hstop := (s.pairedAt_answering hcall fun _ => True).hold e (fun _ _ => trivial) c
  · -- then the answer would make no difference
    rw [hsame] at hother
    exact absurd rfl hother
  · rw [hstop]

/-- **Blamed places.**  When the host raises no error of evaluation of its own, every error of
evaluation that an expression ends with is located in the file that is given, at the line and the
column of the expression or of a node in it, and every other error is one that the host raises.  An
error that the host answers a call with, be it of any class and located anywhere or nowhere, comes
out of every evaluation that the answer makes a difference to, as it is. -/
theorem blamed_places (s : Setting)
    (hhost : ∀ err, s.host.Raises err → err.kind ≠ "ConstantEvaluationError") (e : Expr)
    (c : Compilation) :
    (∀ err c', outcome (e.evaluate s) c = (.error (.rejected err), c') →
      if err.kind = "ConstantEvaluationError" then
        ∃ x ∈ e.walk, err.location = some ⟨s.file, x.place.line, x.place.column⟩
      else s.host.Raises err) ∧
    ∀ (f : Value) (a : Arguments) (c₀ c₁ : Compilation) (err : AnnotationError),
      s.host.answer f a c₀ = (.error (.rejected err), c₁) → e.Awaits s c f a c₀ →
        outcome (e.evaluate s) c =
          (.error (.rejected err), { c₁ with store := c₁.store.leave }) := by
  refine ⟨fun err c' h => ?_, fun f a c₀ c₁ err => outcome_evaluate_of_awaits⟩
  have hblames : s.Blames e err := by
    rw [outcome_evaluate] at h
    split at h
    · cases h
    · rename_i stop c₁ hhold
      cases h
      exact blames_of_hold hhold
  obtain ⟨hkind, hplace⟩ | hraised := hblames
  · rw [if_pos hkind]
    exact hplace
  · rw [if_neg (hhost err hraised)]
    exact hraised

/-- An error that `f` raises, located in another file. -/
def oddError : AnnotationError := ⟨.refusedValue "odd", some ⟨"host.py", 7, 3⟩⟩

/-- A function `f` that raises this error, and a function `g` that answers one. -/
def raisingSetting : Setting where
  host :=
    { names := [("f", .function "f"), ("g", .function "g")]
      call := fun n _ c => (if n = "f" then .error (.rejected oddError) else .ok (.int 1), c) }
  scope := {}
  file := "m.py"

/-- A call of `f`. -/
def innerCall : Expr := .call ⟨1, 2⟩ (.name ⟨1, 2⟩ "f") [.literal ⟨1, 4⟩ (.int 1)] []

/-- A call of `g` with what an expression answers. -/
def outerCall (e : Expr) : Expr := .call ⟨1, 0⟩ (.name ⟨1, 0⟩ "g") [e] []

/-- What the call of `f` sees. -/
def seenByCall : Compilation :=
  { Compilation.empty 1 Kind.all with
    created := 1
    store := (Compilation.empty 1 Kind.all).store.enter }

theorem raisingSetting_raises (h : raisingSetting.host.Raises err) : err = oddError := by
  obtain ⟨f, a, c, c', hcall⟩ := h
  have hfirst := congrArg Prod.fst hcall
  cases f with
  | function n =>
    dsimp only [raisingSetting, Host.answer] at hfirst
    split at hfirst <;> cases hfirst
    rfl
  | _ => cases hfirst

/-- The call of `f` comes first, so the whole ends with the error that it ends with. -/
theorem outcome_outerCall (hf : s.valueOf? "f" = some { value := .function "f" })
    (hg : s.valueOf? "g" = some { value := .function "g" })
    (hcall : s.host.answer (.function "f") ⟨[.int 1], []⟩ seenByCall =
      (.error (.rejected err), seenByCall)) :
    (outcome ((outerCall innerCall).evaluate s) (.empty 1 Kind.all)).1 =
      .error (.rejected err) := by
  have hname {p : Place} {n : String} (h : s.valueOf? n = some { value := .function n }) :
      outcome ((Expr.name p n).hold s) (.empty 1 Kind.all) =
        (.ok { value := .function n }, .empty 1 Kind.all) := by
    rw [Expr.hold, h]
    rfl
  have hinner : outcome (innerCall.hold s) (.empty 1 Kind.all) =
      (.error (.rejected err), { seenByCall with store := seenByCall.store.leave }) := by
    rw [innerCall, Expr.hold, outcome_bind_ok (hname hf)]
    show outcome (s.invoke ⟨1, 2⟩ (.function "f") [⟨.int 1, 1⟩] [])
      { Compilation.empty 1 Kind.all with created := 1 } = _
    have hcalled : s.host.callValue (.function "f") ⟨[.int 1], []⟩ seenByCall =
        (.error (.rejected err), seenByCall) := hcall
    unfold seenByCall at hcalled ⊢
    rw [outcome_invoke rfl, List.map, List.map, hcalled]
    rfl
  -- the function is looked up before its arguments are worked out
  have hfunction : outcome ((Expr.name ⟨1, 0⟩ "g").hold s) (.empty 1 Kind.all) =
      (.ok { value := .function "g" }, .empty 1 Kind.all) := hname hg
  have harguments : outcome (argumentsOf s [innerCall]) (.empty 1 Kind.all) =
      (.error (.rejected err), { seenByCall with store := seenByCall.store.leave }) := by
    rw [argumentsOf, outcome_bind, hinner]
    nofun
  rw [outcome_evaluate, outerCall, Expr.hold, outcome_bind_ok hfunction]
  simp [outcome_bind, harguments, Value.isCallable]

theorem outerCall_awaits :
    (outerCall innerCall).Awaits raisingSetting (.empty 1 Kind.all) (.function "f")
      ⟨[.int 1], []⟩ seenByCall := by
  refine ⟨(.error (.rejected ⟨.reentrant, none⟩), seenByCall), fun hsame => ?_⟩
  have hcall : (raisingSetting.answering (.function "f") ⟨[.int 1], []⟩ seenByCall
      (.error (.rejected ⟨.reentrant, none⟩), seenByCall)).host.answer (.function "f")
        ⟨[.int 1], []⟩ seenByCall = (.error (.rejected ⟨.reentrant, none⟩), seenByCall) :=
    if_pos rfl
  have hcall' : raisingSetting.host.answer (.function "f") ⟨[.int 1], []⟩ seenByCall =
      (.error (.rejected oddError), seenByCall) := rfl
  cases (outcome_outerCall rfl rfl hcall').symm.trans
    ((congrArg Prod.fst hsame).symm.trans (outcome_outerCall rfl rfl hcall))

/-- The error of `f` comes out of the call of `g` as it is, and a name that stands for nothing is
blamed at its own place there. -/
theorem blamed_places_nested :
    (∀ err, raisingSetting.host.Raises err → err.kind ≠ "ConstantEvaluationError") ∧
      raisingSetting.host.answer (.function "f") ⟨[.int 1], []⟩ seenByCall =
        (.error (.rejected oddError), seenByCall) ∧
      (outerCall innerCall).Awaits raisingSetting (.empty 1 Kind.all) (.function "f")
        ⟨[.int 1], []⟩ seenByCall ∧
      outcome ((outerCall innerCall).evaluate raisingSetting) (.empty 1 Kind.all) =
        (.error (.rejected oddError), { seenByCall with store := seenByCall.store.leave }) ∧
      ∃ err c', outcome ((outerCall (.name ⟨1, 2⟩ "h")).evaluate raisingSetting)
          (.empty 1 Kind.all) = (.error (.rejected err), c') ∧
        err.kind = "ConstantEvaluationError" ∧
        ∃ x ∈ (outerCall (.name ⟨1, 2⟩ "h")).walk,
          err.location = some ⟨"m.py", x.place.line, x.place.column⟩ := by
  have hhost : ∀ err, raisingSetting.host.Raises err → err.kind ≠ "ConstantEvaluationError" := by
    intro err h
    rw [raisingSetting_raises h]
    decide
  have hraised := (blamed_places raisingSetting hhost (outerCall innerCall) (.empty 1 Kind.all)).2
  have hlocated := (blamed_places raisingSetting hhost (outerCall (.name ⟨1, 2⟩ "h"))
    (.empty 1 Kind.all)).1 ⟨.notConstant "h", some ⟨"m.py", 1, 2⟩⟩ (.empty 1 Kind.all) rfl
  have hkind : AnnotationError.kind ⟨.notConstant "h", some ⟨"m.py", 1, 2⟩⟩ =
      "ConstantEvaluationError" := rfl
  rw [if_pos hkind] at hlocated
  exact ⟨hhost, rfl, outerCall_awaits, hraised _ _ _ _ _ rfl outerCall_awaits,
    _, _, rfl, rfl, hlocated⟩

end Setting

end Marginalia
