/-
The values of the annotations of one declaration.

The items are evaluated from left to right, each from the compilation that the ones before it
have left, and each value is checked before the next item is looked at.

* `Yields` — every item has a value that can be stored;
* `Fails` — the first item that has none is blamed, or the value that cannot be stored;
* `Escapes` — the evaluation of an item stops with a fault that is blamed on no place;
* `yields_or_fails`, `Yields.not_fails` — without an escape exactly one of the first two
  happens;
* `Elaboration.outcome_values_of_yields`, `Elaboration.outcome_values_of_fails`,
  `Elaboration.outcome_values_of_escapes` — the run over the items is described by these.
-/
import Marginalia.Elaborate
import Marginalia.Proofs.EvaluationEffect

namespace Marginalia

variable {m : ModuleSetting} {scope : Scope} {a : AnnotationItem Expr}
  {items rest : List (AnnotationItem Expr)} {c c' c'' : Compilation} {v : Value}
  {vs : List Value} {e : AnnotationError}

/-- What the names in the annotations of a module stand for, where a scope is visible. -/
def ModuleSetting.setting (m : ModuleSetting) (scope : Scope) : Setting :=
  { host := m.host, scope, file := m.file }

theorem outcome_evaluate (s : Setting) (x : Expr) (c : Compilation) :
    outcome (x.evaluate s) c =
      match outcome (x.hold s) c with
      | (.ok h, c') => (.ok h.value, c')
      | (.error e, c') => (.error e, c') := by
  unfold Expr.evaluate
  rw [outcome_bind]
  obtain ⟨r, c'⟩ := outcome (x.hold s) c
  cases r <;> rfl

theorem outcome_evaluate_literal (s : Setting) (p : Place) (l : Literal) (c : Compilation) :
    outcome ((Expr.literal p l).evaluate s) c =
      (.ok (l.value.marked (c.created + 1)), { c with created := c.created + 1 }) := by
  rw [outcome_evaluate, Expr.hold]
  cases l <;> rfl

/-- Items have values that can be stored, one after the other. -/
inductive Yields (m : ModuleSetting) (scope : Scope) :
    List (AnnotationItem Expr) → Compilation → List Value → Compilation → Prop
  | nil (c : Compilation) : Yields m scope [] c [] c
  | cons {a : AnnotationItem Expr} {rest : List (AnnotationItem Expr)} {c c' c'' : Compilation}
      {v : Value} {vs : List Value}
      (value : outcome (a.expression.evaluate (m.setting scope)) c = (.ok v, c'))
      (structural : v.obstacle? = none) (later : Yields m scope rest c' vs c'') :
      Yields m scope (a :: rest) c (v :: vs) c''

/-- An item, after others that have values, has none that can be stored. -/
inductive Fails (m : ModuleSetting) (scope : Scope) :
    List (AnnotationItem Expr) → Compilation → AnnotationError → Compilation → Prop
  | evaluation {a : AnnotationItem Expr} {rest : List (AnnotationItem Expr)} {c c' : Compilation}
      {e : AnnotationError}
      (error : outcome (a.expression.evaluate (m.setting scope)) c = (.error (.rejected e), c')) :
      Fails m scope (a :: rest) c e c'
  | check {a : AnnotationItem Expr} {rest : List (AnnotationItem Expr)} {c c' : Compilation}
      {v : Value} {o : Obstacle}
      (value : outcome (a.expression.evaluate (m.setting scope)) c = (.ok v, c'))
      (obstacle : v.obstacle? = some o) :
      Fails m scope (a :: rest) c ⟨.notStructural o, some a.location⟩ c'
  | later {a : AnnotationItem Expr} {rest : List (AnnotationItem Expr)} {c c' c'' : Compilation}
      {v : Value} {e : AnnotationError}
      (value : outcome (a.expression.evaluate (m.setting scope)) c = (.ok v, c'))
      (structural : v.obstacle? = none) (later : Fails m scope rest c' e c'') :
      Fails m scope (a :: rest) c e c''

/-- The evaluation of an item, after others that have values, stops with a fault of its own
and not with an annotation error. -/
inductive Escapes (m : ModuleSetting) (scope : Scope) :
    List (AnnotationItem Expr) → Compilation → Prop
  | here {a : AnnotationItem Expr} {rest : List (AnnotationItem Expr)} {c c' : Compilation}
      {f : Fault}
      (error : outcome (a.expression.evaluate (m.setting scope)) c = (.error (.escaped f), c')) :
      Escapes m scope (a :: rest) c
  | later {a : AnnotationItem Expr} {rest : List (AnnotationItem Expr)} {c c' : Compilation}
      {v : Value} (value : outcome (a.expression.evaluate (m.setting scope)) c = (.ok v, c'))
      (structural : v.obstacle? = none) (later : Escapes m scope rest c') :
      Escapes m scope (a :: rest) c

/-! ### Exactly one of them -/

theorem yields_or_fails (h : ¬ Escapes m scope items c) :
    (∃ vs c', Yields m scope items c vs c') ∨ ∃ e c', Fails m scope items c e c' := by
  induction items generalizing c with
  | nil => exact .inl ⟨[], c, .nil c⟩
  | cons a rest ih =>
    -- the first item decides, unless it has a value that can be stored
    obtain ⟨r, c', hr⟩ : ∃ r c', outcome (a.expression.evaluate (m.setting scope)) c = (r, c') :=
      ⟨_, _, rfl⟩
    match r, hr with
    | .error (.rejected e), hr => exact .inr ⟨e, c', .evaluation hr⟩
    | .error (.escaped f), hr => exact absurd (.here hr) h
    | .ok v, hr =>
      cases hv : v.obstacle? with
      | some o => exact .inr ⟨_, c', .check hr hv⟩
      | none =>
        obtain ⟨vs, c'', hvs⟩ | ⟨e, c'', he⟩ := ih fun hrest => h (.later hr hv hrest)
        · exact .inl ⟨v :: vs, c'', .cons hr hv hvs⟩
        · exact .inr ⟨e, c'', .later hr hv he⟩

theorem Yields.not_fails (h : Yields m scope items c vs c') : ¬ Fails m scope items c e c'' := by
  induction h with
  | nil c => exact fun hfails => nomatch hfails
  | cons value structural later ih =>
    intro hfails
    cases hfails with
    | evaluation error =>
      rw [value] at error
      cases error
    | check value' obstacle =>
      rw [value] at value'
      cases value'
      rw [structural] at obstacle
      cases obstacle
    | later value' structural' later' =>
      rw [value] at value'
      cases value'
      exact ih later'

theorem Yields.not_escapes (h : Yields m scope items c vs c') : ¬ Escapes m scope items c := by
  induction h with
  | nil c => exact fun hescapes => nomatch hescapes
  | cons value structural later ih =>
    intro hescapes
    cases hescapes with
    | here error =>
      rw [value] at error
      cases error
    | later value' structural' later' =>
      rw [value] at value'
      cases value'
      exact ih later'

/-- The values are determined by the items and the state they are evaluated from. -/
theorem Yields.unique {vs' : List Value} (h : Yields m scope items c vs c')
    (h' : Yields m scope items c vs' c'') : vs = vs' ∧ c' = c'' := by
  induction h generalizing vs' c'' with
  | nil c =>
    cases h'
    exact ⟨rfl, rfl⟩
  | cons value structural later ih =>
    cases h' with
    | cons value' structural' later' =>
      rw [value] at value'
      cases value'
      obtain ⟨rfl, rfl⟩ := ih later'
      exact ⟨rfl, rfl⟩

theorem Yields.length_eq (h : Yields m scope items c vs c') : vs.length = items.length := by
  induction h with
  | nil c => rfl
  | cons value structural later ih => rw [List.length_cons, List.length_cons, ih]

/-! ### What the evaluation of the items leaves behind -/

theorem leaves_evaluate (h : m.host.Abides) (scope : Scope) (x : Expr) (c : Compilation) :
    c.Leaves (outcome (x.evaluate (m.setting scope)) c).2 := by
  have hhold := Host.Abides.leaves_hold (s := m.setting scope) h x c
  rw [outcome_evaluate]
  split <;> simp_all

theorem Yields.leaves (hhost : m.host.Abides) (h : Yields m scope items c vs c') :
    c.Leaves c' := by
  induction h with
  | nil c => exact .refl c
  | @cons a rest c c' c'' v vs value structural later ih =>
    have hfirst := leaves_evaluate hhost scope a.expression c
    rw [value] at hfirst
    exact hfirst.trans ih

theorem Fails.leaves (hhost : m.host.Abides) (h : Fails m scope items c e c') : c.Leaves c' := by
  induction h with
  | @evaluation a rest c c' e error =>
    have hfirst := leaves_evaluate hhost scope a.expression c
    rwa [error] at hfirst
  | @check a rest c c' v o value obstacle =>
    have hfirst := leaves_evaluate hhost scope a.expression c
    rwa [value] at hfirst
  | @later a rest c c' c'' v e value structural later ih =>
    have hfirst := leaves_evaluate hhost scope a.expression c
    rw [value] at hfirst
    exact hfirst.trans ih

/-! ### The run over the items -/

namespace Elaboration

variable {s : Findings}

theorem outcome_value (x : Expr) (s : Findings) :
    outcome (value m x) s =
      match outcome (x.hold (m.setting s.scope)) s.compilation with
      | (.ok k, c') => (.ok (.ok k), { s with compilation := c' })
      | (.error (.rejected e), c') => (.ok (.error e), { s with compilation := c' })
      | (.error (.escaped f), c') => (.error f, { s with compilation := c' }) := by
  unfold value
  rw [outcome_bind_ok (outcome_get s)]
  generalize hhold : outcome (x.hold (m.setting s.scope)) s.compilation = held
  obtain ⟨r, c'⟩ := held
  -- the run inside `value` is the outcome of the evaluation under another name
  have hrun : (x.hold ⟨m.host, s.scope, m.file⟩).run.run s.compilation = (r, c') := hhold
  rw [hrun]
  obtain (e | f) | k := r <;> rfl

/-- An item that has a value has it in the run. -/
theorem exists_held {x : Expr}
    (h : outcome (x.evaluate (m.setting s.scope)) s.compilation = (.ok v, c')) :
    ∃ k : Held, k.value = v ∧
      outcome (value m x) s = (.ok (.ok k), { s with compilation := c' }) := by
  rw [outcome_evaluate] at h
  rw [outcome_value]
  split at h
  · rename_i k c₁ hhold
    cases h
    exact ⟨k, rfl, by rw [hhold]⟩
  · cases h

theorem outcome_value_of_rejected {x : Expr}
    (h : outcome (x.evaluate (m.setting s.scope)) s.compilation = (.error (.rejected e), c')) :
    outcome (value m x) s = (.ok (.error e), { s with compilation := c' }) := by
  rw [outcome_evaluate] at h
  rw [outcome_value]
  split at h
  · cases h
  · rename_i stop c₁ hhold
    cases h
    rw [hhold]

theorem outcome_value_of_escaped {x : Expr} {f : Fault}
    (h : outcome (x.evaluate (m.setting s.scope)) s.compilation = (.error (.escaped f), c')) :
    outcome (value m x) s = (.error f, { s with compilation := c' }) := by
  rw [outcome_evaluate] at h
  rw [outcome_value]
  split at h
  · cases h
  · rename_i stop c₁ hhold
    cases h
    rw [hhold]

theorem outcome_values_of_yields (h : Yields m scope items c vs c') :
    ∀ s : Findings, s.scope = scope → s.compilation = c →
      outcome (values m items) s =
        (.ok (.ok ((items.map AnnotationItem.location).zip vs)),
          { s with compilation := c' }) := by
  induction h with
  | nil c =>
    rintro s - rfl
    rfl
  | @cons a rest c c' c'' v vs value structural later ih =>
    rintro s rfl rfl
    obtain ⟨k, rfl, hk⟩ := exists_held value
    rw [values, outcome_bind_ok hk]
    dsimp only
    rw [Compilation.checkStructural_eq, structural]
    dsimp only
    rw [outcome_bind_ok (ih { s with compilation := c' } rfl rfl)]
    rfl

theorem outcome_values_of_fails (h : Fails m scope items c e c') :
    ∀ s : Findings, s.scope = scope → s.compilation = c →
      outcome (values m items) s = (.ok (.error e), { s with compilation := c' }) := by
  induction h with
  | evaluation error =>
    rintro s rfl rfl
    rw [values, outcome_bind_ok (outcome_value_of_rejected error)]
    rfl
  | check value obstacle =>
    rintro s rfl rfl
    obtain ⟨k, rfl, hk⟩ := exists_held value
    rw [values, outcome_bind_ok hk]
    dsimp only
    rw [Compilation.checkStructural_eq, obstacle]
    rfl
  | @later a rest c c' c'' v e value structural later ih =>
    rintro s rfl rfl
    obtain ⟨k, rfl, hk⟩ := exists_held value
    rw [values, outcome_bind_ok hk]
    dsimp only
    rw [Compilation.checkStructural_eq, structural]
    dsimp only
    rw [outcome_bind_ok (ih { s with compilation := c' } rfl rfl)]
    rfl

theorem outcome_values_of_escapes (h : Escapes m scope items c) :
    ∀ s : Findings, s.scope = scope → s.compilation = c →
      ∃ f s', outcome (values m items) s = (.error f, s') := by
  induction h with
  | @here a rest c c' f error =>
    rintro s rfl rfl
    refine ⟨f, { s with compilation := c' }, ?_⟩
    rw [values, outcome_bind, outcome_value_of_escaped error]
  | @later a rest c c' v value structural later ih =>
    rintro s rfl rfl
    obtain ⟨k, rfl, hk⟩ := exists_held value
    obtain ⟨f, s', hrest⟩ := ih { s with compilation := c' } rfl rfl
    refine ⟨f, s', ?_⟩
    rw [values, outcome_bind_ok hk]
    dsimp only
    rw [Compilation.checkStructural_eq, structural]
    dsimp only
    rw [outcome_bind, hrest]

end Elaboration

end Marginalia
