/-
The calls that steps make, read off the table.

Which names the steps of an elaboration bind, and to what, depends on the table of declarations
alone: it says what an assignment makes another name for.  Values, annotations and diagnostics play
no part in it, as long as the functions of the host leave the table alone.

* `Elaboration.madeAlias?` — what an assignment makes another name for;
* `ElaborationStep.calls` — the calls that a step makes on a table;
* `Elaboration.table_runAll` — steps that come to their end have made these calls.
-/
import Marginalia.Proofs.AssignedAlias
import Marginalia.Proofs.ElaborationFindings

namespace Marginalia

/-- Whatever a host answers leaves the table of declarations alone. -/
def Host.LeavesTable (h : Host) : Prop :=
  ∀ (f : Value) (a : Arguments) (c : Compilation), (h.answer f a c).2.table = c.table

/-- A host that refuses all calls leaves it alone. -/
theorem Host.leavesTable_default : ({} : Host).LeavesTable :=
  answer_of_calls (R := fun c c' => c'.table = c.table) (fun _ _ _ => rfl) fun _ _ _ => rfl

/-- So does every evaluation in a module that calls them. -/
theorem Host.LeavesTable.evaluating {m : ModuleSetting} (h : m.host.LeavesTable) :
    m.KeepsEvaluating fun c c' => c'.table = c.table := fun _ =>
  { refl _ := rfl
    trans h h' := h'.trans h
    created _ := rfl
    changed _ _ := rfl
    called f a _ := h f a _ }

namespace Elaboration

/-! ### Assignments -/

/-- The declaration that an assignment makes another name for, if it does. -/
def madeAlias? (m : ModuleSetting) (b : Body) (t : Table) (e : Expr) : Option Declaration :=
  (e.dottedName?.bind fun dotted => denoted? t m.name.dotted (b.readings dotted)).filter
    fun d => d.kind.aliasable

variable {m : ModuleSetting} {b : Body} {e : Expr} {s : Findings}

theorem outcome_tryAlias_of_some {d : Declaration} (n : String)
    (h : madeAlias? m b s.compilation.table e = some d) :
    outcome (tryAlias m b n e) s = (.ok true, aliased m b n d s) := by
  obtain ⟨hdenoted, haliasable⟩ := Option.filter_eq_some_iff.mp h
  obtain ⟨dotted, hdotted, hdenoted⟩ := Option.bind_eq_some_iff.mp hdenoted
  exact outcome_tryAlias hdotted hdenoted haliasable

theorem outcome_tryAlias_of_none (n : String)
    (h : madeAlias? m b s.compilation.table e = none) :
    outcome (tryAlias m b n e) s = (.ok false, s) := by
  unfold madeAlias? Body.readings at h
  unfold tryAlias
  cases hdotted : e.dottedName? with
  | none => rfl
  | some dotted =>
    rw [hdotted, Option.bind_some] at h
    dsimp only
    rw [outcome_bind_ok (outcome_get s)]
    generalize denoted? s.compilation.table m.name.dotted
      (if b.qualifier.isEmpty then [dotted] else [Dotted.under b.qualifier dotted, dotted]) =
        denoted at h ⊢
    cases denoted with
    | none => rfl
    | some d =>
      have haliasable : d.kind.aliasable = false := by simpa using h
      simp [haliasable]

/-! ### Calls -/

/-- The call that declares something in a module. -/
def declareCall (m : ModuleSetting) (kind : Kind) (qualname : String) (p : Place) : Table.Call :=
  .declare kind m.name.dotted qualname (p.inFile m.file)

/-- The call that an assignment makes on a table. -/
def assignCall (m : ModuleSetting) (b : Body) (p : Place) (name : String) (e : Expr)
    (t : Table) : Table.Call :=
  match madeAlias? m b t e with
  | some d => .addAlias m.name.dotted (Dotted.under b.qualifier name) d.module d.qualname
  | none => declareCall m (variableKind b name) (Dotted.under b.qualifier name) p

end Elaboration

open Elaboration

mutual

/-- The calls that a step makes on a table. -/
def ElaborationStep.calls (m : ModuleSetting) (t : Table) : ElaborationStep → List Table.Call
  | .declare kind qualname p _ => [declareCall m kind qualname p]
  | .assign b p name e => [assignCall m b p name e t]
  | .imported b name module target =>
    [.addAlias m.name.dotted (Dotted.under b.qualifier name) module target]
  | .inside steps => Elaboration.callsOfAll m t steps
  | .refuse _ | .bind .. => []

/-- The calls that steps make on a table, each on what those before it have left. -/
def Elaboration.callsOfAll (m : ModuleSetting) (t : Table) : List ElaborationStep → List Table.Call
  | [] => []
  | step :: rest => step.calls m t ++ Elaboration.callsOfAll m (t.after (step.calls m t)) rest

end

/-! ### The table behind steps -/

namespace Elaboration

variable {m : ModuleSetting}

section

variable (hhost : m.host.LeavesTable)

include hhost

/-- A declaration makes its call, whatever becomes of the annotations. -/
theorem table_declare (kind : Kind) (qualname : String) (p : Place) (groups : Groups)
    (s : Findings) :
    (outcome (declare m kind qualname (p.inFile m.file) groups) s).2.compilation.table =
      s.compilation.table.call (declareCall m kind qualname p) := by
  have htable : (s.compilation.declare kind m.name.dotted qualname (p.inFile m.file)).1.table =
      s.compilation.table.call (declareCall m kind qualname p) := rfl
  rw [outcome_declare]
  generalize s.compilation.declare kind m.name.dotted qualname (p.inFile m.file) = declared
    at htable ⊢
  obtain ⟨c, i⟩ := declared
  dsimp only
  split
  · rename_i c' hfirst
    -- what is recorded at a first visit is no call on the table
    have hvisit : Elaboration.Keeps (fun c c' => c'.table = c.table)
        (annotateSite m kind qualname (p.inFile m.file) groups i c') { s with compilation := c' } :=
      hhost.evaluating.firstVisit fun vs c _ => Compilation.recordAll_table i vs c
    exact hvisit.trans ((elaborate_table hfirst).trans htable)
  · exact htable

/-- An assignment makes its call. -/
theorem table_assign (b : Body) (p : Place) (name : String) (e : Expr) (s : Findings) :
    (outcome ((ElaborationStep.assign b p name e).run m) s).2.compilation.table =
      s.compilation.table.call (assignCall m b p name e s.compilation.table) := by
  rw [run_assign, assignCall]
  cases halias : madeAlias? m b s.compilation.table e with
  | some d =>
    rw [outcome_bind_ok (outcome_tryAlias_of_some name halias)]
    rfl
  | none =>
    have hdeclared :=
      table_declare hhost (variableKind b name) (Dotted.under b.qualifier name) p {} s
    rw [outcome_bind_ok (outcome_tryAlias_of_none name halias)]
    simp only [Bool.not_false, if_true]
    rw [outcome_bind]
    split
    · rename_i u s₁ hrun
      rw [hrun] at hdeclared
      have hbind := hhost.evaluating.bindTo (s := s₁) name (some e)
      exact hbind.trans hdeclared
    · rename_i f s₁ hrun
      rwa [hrun] at hdeclared

end

mutual

theorem table_step (hhost : m.host.LeavesTable) : ∀ (step : ElaborationStep) {s s' : Findings},
    outcome (step.run m) s = (.ok (), s') →
      s'.compilation.table = s.compilation.table.after (step.calls m s.compilation.table)
  | .declare kind qualname p written, s, s', hrun => by
    obtain ⟨w, groups, -, -, hrun⟩ := exists_groups hrun
    have htable := table_declare hhost kind qualname p groups s
    rwa [hrun] at htable
  | .assign b p name e, s, s', hrun => by
    have htable := table_assign hhost b p name e s
    rwa [hrun] at htable
  | .refuse es, s, s', hrun => by
    have htable := hhost.evaluating.refuseIn (s := s) es
    rw [ElaborationStep.run] at hrun
    rwa [Elaboration.Keeps, hrun] at htable
  | .bind name v, s, s', hrun => by
    have htable := hhost.evaluating.bindTo (s := s) name v
    rw [ElaborationStep.run] at hrun
    rwa [Elaboration.Keeps, hrun] at htable
  | .imported b name module target, s, s', hrun => by
    rw [ElaborationStep.run] at hrun
    cases hrun
    rfl
  | .inside steps, s, s', hrun => by
    rw [outcome_inside] at hrun
    split at hrun
    · rename_i s₁ hinner
      cases hrun
      have htable := table_runAll hhost steps hinner
      exact htable
    · cases hrun

/-- Steps that come to their end have made the calls that are read off the table. -/
theorem table_runAll (hhost : m.host.LeavesTable) :
    ∀ (steps : List ElaborationStep) {s s' : Findings},
    outcome (runAll m steps) s = (.ok (), s') →
      s'.compilation.table = s.compilation.table.after (callsOfAll m s.compilation.table steps)
  | [], s, s', hrun => by
    cases hrun
    rfl
  | step :: rest, s, s', hrun => by
    obtain ⟨s₁, hstep, hrest⟩ := (outcome_runAll_cons step rest s s').mp hrun
    rw [table_runAll hhost rest hrest, table_step hhost step hstep, callsOfAll, Table.after_append]

end

end Elaboration

end Marginalia
