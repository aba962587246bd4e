/-
What going through statements does to what has come out so far.

Diagnostics and declaration sites are only ever added behind the ones before, and only the
steps that bind a name touch the scope.

* `Findings.Unmoved` — a relation between findings that changes of the compilation keep; so does
  every evaluation of values (`Findings.Unmoved.values`);
* `Findings.Kept` — one that additions keep, too; so do declarations and refusals
  (`Findings.Kept.declare`, `Findings.Kept.refuseIn`), and every step, if changes of the scope do
  (`Findings.Kept.runAll`);
* `Elaboration.scope_declare` — a declaration leaves the scope alone;
* `Elaboration.diagnostics_runAll` — steps only add diagnostics;
* `Elaboration.met_runAll` — what they report is met in the file they are in.
-/
import Marginalia.Proofs.AnnotationValues
import Marginalia.Proofs.ElaborationSteps
import Marginalia.Proofs.TableCalls

namespace Marginalia

namespace Elaboration

variable {α β : Type} {m : ModuleSetting}

/-- A relation holds between the findings before a run and after it. -/
def Within (R : Findings → Findings → Prop) (x : Elaboration α) : Prop :=
  ∀ s, R s (outcome x s).2

end Elaboration

/-- A relation between findings that is kept whatever becomes of the compilation. -/
structure Findings.Unmoved (R : Findings → Findings → Prop) : Prop where
  trans {s s' s'' : Findings} (h : R s s') (h' : R s' s'') : R s s''
  compilation (s : Findings) (c : Compilation) : R s { s with compilation := c }

/-- A relation between findings that is kept, too, when something is reported or listed in a
module. -/
structure Findings.Kept (m : ModuleSetting) (R : Findings → Findings → Prop) : Prop
    extends Findings.Unmoved R where
  reported (s : Findings) (e : AnnotationError) :
    R s { s with diagnostics := s.diagnostics ++ [⟨m.file, .rejected e⟩] }
  listed (s : Findings) (e : ElaboratedSite) : R s { s with sites := s.sites ++ [e] }

namespace Findings.Unmoved

open Elaboration

variable {α β : Type} {m : ModuleSetting} {R : Findings → Findings → Prop}
  (h : Findings.Unmoved R)

include h

theorem refl (s : Findings) : R s s := h.compilation s s.compilation

theorem bind {x : Elaboration α} {f : α → Elaboration β} (hx : Within R x)
    (hf : ∀ a, Within R (f a)) : Within R (x >>= f) := by
  intro s
  have hfirst := hx s
  rw [outcome_bind]
  split
  · rename_i a s' hrun
    rw [hrun] at hfirst
    exact h.trans hfirst (hf a s')
  · rename_i e s' hrun
    rwa [hrun] at hfirst

theorem lift (r : Except Fault α) : Within R (liftM r : Elaboration α) := by
  cases r <;> exact h.refl

theorem value (e : Expr) : Within R (value m e) := by
  intro s
  rw [outcome_value]
  split <;> exact h.compilation s _

theorem values (items : List (AnnotationItem Expr)) : Within R (values m items) := by
  induction items with
  | nil => exact h.refl
  | cons a rest ih =>
    rw [Elaboration.values]
    refine h.bind (h.value _) fun r => ?_
    cases r with
    | error e => exact h.refl
    | ok k =>
      dsimp only
      cases Compilation.checkStructural k.value (some a.location) with
      | error e => exact h.refl
      | ok v =>
        refine h.bind ih fun r => ?_
        cases r <;> exact h.refl

theorem itemValues (kind : Kind) (groups : Groups) (c : Compilation) :
    Within R (itemValues m kind groups c) := by
  unfold Elaboration.itemValues
  cases groups.validate kind c with
  | error e => exact h.refl
  | ok items => exact h.values items

/-! ### What binds names -/

variable (hscope : ∀ (s : Findings) (sc : Scope), R s { s with scope := sc })

include hscope

theorem bindTo (name : String) (e : Option Expr) : Within R (bindTo m name e) := by
  unfold Elaboration.bindTo
  cases e with
  | none => exact fun s => hscope s _
  | some e =>
    refine h.bind (h.value e) fun r => ?_
    cases r <;> exact fun s => hscope s _

theorem tryAlias (b : Body) (name : String) (e : Expr) : Within R (tryAlias m b name e) := by
  intro s
  obtain hnone | ⟨c, halias⟩ := outcome_tryAlias_eq m b name e s
  · rw [hnone]
    exact h.refl s
  · rw [halias]
    exact h.trans (h.compilation s c) (hscope _ _)

end Findings.Unmoved

namespace Findings.Kept

open Elaboration

variable {m : ModuleSetting} {R : Findings → Findings → Prop} (h : Findings.Kept m R)

include h

theorem report (e : AnnotationError) : Within R (report m e) := fun s => h.reported s _

theorem refuseIn (es : List Expr) : Within R (refuseIn m es) := by
  refine h.bind (h.lift _) fun groups => h.bind h.refl fun s => ?_
  split
  · exact h.refl
  · exact h.report _

theorem siteValues (kind : Kind) (groups : Groups) (c : Compilation) :
    Within R (siteValues m kind groups c) := by
  refine h.bind (h.itemValues kind groups c) fun r => ?_
  cases r with
  | error e => exact h.bind (h.report e) fun _ => h.refl
  | ok vs => exact h.refl

theorem annotateSite (kind : Kind) (qualname : String) (site : Location) (groups : Groups)
    (i : Identity) (c : Compilation) :
    Within R (annotateSite m kind qualname site groups i c) := by
  rw [annotateSite_eq]
  exact h.bind (h.siteValues kind groups c) fun vs =>
    h.bind (fun s => h.compilation s _) fun _ s => h.listed s _

theorem declare (kind : Kind) (qualname : String) (site : Location) (groups : Groups) :
    Within R (declare m kind qualname site groups) := by
  intro s
  rw [outcome_declare]
  generalize s.compilation.declare kind m.name.dotted qualname site = declared
  obtain ⟨c, i⟩ := declared
  dsimp only
  split
  · rename_i c' hfirst
    exact h.trans (h.compilation s c')
      (h.annotateSite kind qualname site groups i c' { s with compilation := c' })
  · exact h.compilation s c

omit h

mutual

theorem step (h : Findings.Kept m R) (hscope : ∀ (s : Findings) (sc : Scope),
    R s { s with scope := sc }) : ∀ step : ElaborationStep, Within R (step.run m)
  | .declare kind qualname p written => by
    rw [ElaborationStep.run]
    exact h.bind (h.lift written) fun w => h.bind (h.lift (w.groups m)) fun g => h.declare _ _ _ g
  | .refuse es => by
    rw [ElaborationStep.run]
    exact h.refuseIn es
  | .bind name value => by
    rw [ElaborationStep.run]
    exact h.bindTo hscope name value
  | .assign b p name value => by
    rw [run_assign]
    refine h.bind (h.tryAlias hscope b name value) fun made => ?_
    cases made with
    | true => exact h.refl
    | false => exact h.bind (h.declare _ _ _ _) fun _ => h.bindTo hscope _ _
  | .imported b name module target => by
    rw [ElaborationStep.run]
    exact h.bind (fun s => h.compilation s _) fun _ s => hscope s _
  -- the scope is changed twice more, on the way into the body and on the way out
  | .inside steps => by
    rw [ElaborationStep.run]
    exact h.bind h.refl fun s => h.bind (fun s => hscope s _) fun _ =>
      h.bind (runAll h hscope steps) fun _ s => hscope s _

/-- Steps keep a relation that changes of the scope keep, too. -/
theorem runAll (h : Findings.Kept m R) (hscope : ∀ (s : Findings) (sc : Scope),
    R s { s with scope := sc }) : ∀ steps : List ElaborationStep, Within R (runAll m steps)
  | [] => h.refl
  | step :: rest => by
    rw [Elaboration.runAll]
    exact h.bind (h.step hscope step) fun _ => runAll h hscope rest

end

end Findings.Kept

/-! ### Diagnostics -/

namespace Elaboration

variable {m : ModuleSetting}

/-- What was reported before stays in front. -/
def Reports (s s' : Findings) : Prop := s.diagnostics <+: s'.diagnostics

theorem unmoved_reports : Findings.Unmoved Reports where
  trans h h' := List.IsPrefix.trans h h'
  compilation _ _ := List.prefix_rfl

theorem kept_reports : Findings.Kept m Reports where
  toUnmoved := unmoved_reports
  reported _ _ := List.prefix_append _ _
  listed _ _ := List.prefix_rfl

theorem reports_bindTo (name : String) (e : Option Expr) : Within Reports (bindTo m name e) :=
  unmoved_reports.bindTo (fun _ _ => List.prefix_rfl) name e

theorem reports_step (step : ElaborationStep) : Within Reports (step.run m) :=
  kept_reports.step (fun _ _ => List.prefix_rfl) step

/-- Steps only add diagnostics. -/
theorem diagnostics_runAll (steps : List ElaborationStep) : Within Reports (runAll m steps) :=
  kept_reports.runAll (fun _ _ => List.prefix_rfl) steps

/-- If all that was reported is met in a file, all that is reported now is. -/
def MeetsIn (file : String) (s s' : Findings) : Prop :=
  (∀ d ∈ s.diagnostics, d.met = file) → ∀ d ∈ s'.diagnostics, d.met = file

theorem kept_meetsIn : Findings.Kept m (MeetsIn m.file) where
  trans h h' hs := h' (h hs)
  compilation _ _ := id
  reported _ e hs d hd := by
    obtain hd | hd := List.mem_append.mp hd
    · exact hs d hd
    · rw [List.mem_singleton.mp hd]
  listed _ _ := id

/-- What steps report is met in the file of the module. -/
theorem met_runAll (steps : List ElaborationStep) {s : Findings} (hs : s.diagnostics = []) :
    ∀ d ∈ (outcome (runAll m steps) s).2.diagnostics, d.met = m.file :=
  kept_meetsIn.runAll (fun _ _ => id) steps s (by simp [hs])

/-! ### The scope -/

theorem unmoved_scope : Findings.Unmoved fun s s' => s'.scope = s.scope where
  trans h h' := h'.trans h
  compilation _ _ := rfl

theorem kept_scope : Findings.Kept m fun s s' => s'.scope = s.scope where
  toUnmoved := unmoved_scope
  reported _ _ := rfl
  listed _ _ := rfl

variable {s s' : Findings}

/-- A declaration leaves the scope alone. -/
theorem scope_declare (kind : Kind) (qualname : String) (site : Location) (groups : Groups)
    (s : Findings) : (outcome (declare m kind qualname site groups) s).2.scope = s.scope :=
  kept_scope.declare kind qualname site groups s

/-- A name that is bound has a new value in the innermost body, or is hidden there. -/
theorem scope_bindTo {name : String} {e : Option Expr}
    (hrun : outcome (bindTo m name e) s = (.ok (), s')) : ∃ v, s'.scope = s.scope.set name v := by
  cases e with
  | none =>
    cases hrun
    exact ⟨none, rfl⟩
  | some e =>
    have hscope := unmoved_scope.value (m := m) e s
    rw [bindTo] at hrun
    obtain ⟨r, s₁, hvalue, hrun⟩ := exists_of_outcome_bind_ok hrun
    rw [hvalue] at hscope
    cases r with
    | error err =>
      cases hrun
      exact ⟨none, congrArg (·.hide name) hscope⟩
    | ok k =>
      cases hrun
      exact ⟨some k, congrArg (·.bind name k) hscope⟩

end Elaboration

theorem Scope.lookup_set_of_ne (s : Scope) {name other : String} (v : Option Held)
    (h : other ≠ name) : (s.set name v).lookup other = s.lookup other := by
  simp only [Scope.lookup, Scope.set, Scope.lookupIn, List.lookup_cons,
    beq_eq_false_iff_ne.mpr h, Table.lookup_filter_of_ne h]

end Marginalia
