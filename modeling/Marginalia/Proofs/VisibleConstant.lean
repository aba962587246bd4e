/-
The statement that a visible constant comes from.

A module whose statements follow one another without branches binds its names in their order.
When a name has a value, some statement gave it this value, and nothing that the scope takes
notice of has bound the name since.  There are statements that it takes no notice of: they bind
or delete a name in the program, and the name keeps the value it had.

* `Statement.Rebinds` — a statement binds, rebinds or deletes a name when the program runs;
* `Gives` — a statement gives a name the value of an expression;
* `Statement.Overlooked` — a statement that rebinds names and leaves the scope as it is
  (`Elaboration.scope_overlooked`);
* `Elaboration.visible_constant` — a name with a value was given it by a statement, and every
  statement behind that one that rebinds the name is overlooked;
* `Elaboration.visible_constant_stale` — a deleted name keeps its value.
-/
import Marginalia.Proofs.DottedName
import Marginalia.Proofs.ElaborationFindings
import Marginalia.Proofs.SiteElaboration

namespace Marginalia

open Elaboration

/-! ### What statements bind when the program runs -/

mutual

/-- The names that are bound when something is assigned to a target, or deleted with it. -/
def Expr.targetNames : Expr → List String
  | .name _ n => [n]
  | .tuple _ es => targetNamesOfAll es
  | .list _ es => targetNamesOfAll es
  | .starred _ e => e.targetNames
  | _ => []

/-- The names of several targets. -/
def targetNamesOfAll : List Expr → List String
  | [] => []
  | e :: es => e.targetNames ++ targetNamesOfAll es

end

/-- The name that an imported module is bound to. -/
def ImportedName.moduleName (i : ImportedName) : String := i.boundAs.getD (Dotted.first i.name)

/-- The name that something imported from a module is bound to. -/
def ImportedName.ownName (i : ImportedName) : String := i.boundAs.getD i.name

namespace Statement

/-- A statement that is no branch, loop or other block: it declares, imports or computes. -/
def Straight : Statement → Prop
  | branch .. | attempt .. | within .. | each .. | repeated .. | select .. => False
  | _ => True

/-- A statement that is not a block binds, rebinds or deletes a name when it is run; an import
of everything can bind any name. -/
def Rebinds (n : String) : Statement → Prop
  | classDef _ name .. | function _ name .. | typeAlias _ name .. => name = n
  | typed _ target _ value => value.isSome ∧ targetName? target = some n
  | assign _ targets _ | delete _ targets => n ∈ targetNamesOfAll targets
  | augment _ target _ => n ∈ target.targetNames
  | importModules _ modules => n ∈ modules.map ImportedName.moduleName
  | importNames _ _ names _ => ∃ i ∈ names, i.name = "*" ∨ i.ownName = n
  | _ => False

/-- A statement that rebinds names, and is not noticed by the scope of a module: an augmented
assignment, a deletion, an import of everything, and an assignment of annotations, to the marker
of the module, or with a target that is no name. -/
def Overlooked (m : ModuleSetting) (n : String) : Statement → Prop
  | augment .. | delete .. => True
  | importNames _ _ names _ => n ∉ (names.filter fun i => i.name != "*").map ImportedName.ownName
  | assign _ targets value =>
    annotatesModule m {} targets = true ∨ m.spellings.marks value = true ∨
      (targets.filterMap targetName?).length ≠ targets.length
  | _ => False

end Statement

/-! ### What steps do to the value of a name -/

/-- A step binds or hides a name. -/
def ElaborationStep.Touches (n : String) : ElaborationStep → Prop
  | bind name _ | assign _ _ name _ | imported _ name _ _ => name = n
  | _ => False

/-- From the findings before it, a step gives a name a value. -/
inductive ElaborationStep.Gives (m : ModuleSetting) (s : Findings) (n : String) (h : Held) :
    ElaborationStep → Prop
  | bind {e : Expr} {s' : Findings} (value : outcome (Elaboration.value m e) s = (.ok (.ok h), s')) :
    Gives m s n h (.bind n (some e))
  | assign {b : Body} {p : Place} {e : Expr} {t t' : Findings}
    (declared : outcome (Elaboration.declare m (variableKind b n) (Dotted.under b.qualifier n)
      (p.inFile m.file) {}) s = (.ok (), t))
    (value : outcome (Elaboration.value m e) t = (.ok (.ok h), t')) : Gives m s n h (.assign b p n e)

namespace Elaboration

variable {m : ModuleSetting} {b : Body} {s s' : Findings} {n name : String} {h : Held}

/-- A visible value of the name that is bound is that of the expression; other names keep what
they had. -/
theorem lookup_bindTo {e : Option Expr} (hrun : outcome (bindTo m name e) s = (.ok (), s')) :
    (name ≠ n → s'.scope.lookup n = s.scope.lookup n) ∧
      (s'.scope.lookup name = some h →
        ∃ x s'', e = some x ∧ outcome (value m x) s = (.ok (.ok h), s'')) := by
  cases e with
  | none =>
    cases hrun
    refine ⟨fun hn => Scope.lookup_set_of_ne _ none (Ne.symm hn), fun hvalue => ?_⟩
    cases (Scope.lookup_set_self s.scope name none).symm.trans hvalue
  | some x =>
    have hscope := unmoved_scope.value (m := m) x s
    rw [bindTo] at hrun
    obtain ⟨r, s₁, hx, hrun⟩ := exists_of_outcome_bind_ok hrun
    rw [hx] at hscope
    dsimp only at hscope
    obtain e | k := r
    · cases hrun
      refine ⟨fun hn => hscope ▸ Scope.lookup_set_of_ne _ _ (Ne.symm hn), fun hvalue => ?_⟩
      cases (Scope.lookup_set_self s₁.scope name none).symm.trans hvalue
    · cases hrun
      refine ⟨fun hn => hscope ▸ Scope.lookup_set_of_ne _ _ (Ne.symm hn), fun hvalue => ?_⟩
      cases (Scope.lookup_set_self s₁.scope name (some k)).symm.trans hvalue
      exact ⟨x, s₁, rfl, hx⟩

/-- A visible value of the name that is assigned was given to it; other names keep what they
had. -/
theorem lookup_assign {p : Place} {e : Expr}
    (hrun : outcome ((ElaborationStep.assign b p name e).run m) s = (.ok (), s')) :
    (name ≠ n → s'.scope.lookup n = s.scope.lookup n) ∧
      (s'.scope.lookup name = some h → (ElaborationStep.assign b p name e).Gives m s name h) := by
  obtain ⟨-, c, rfl⟩ | ⟨t, -, hdeclared, hbind⟩ := exists_assign hrun
  · refine ⟨fun hn => Scope.lookup_set_of_ne _ none (Ne.symm hn), fun hvalue => ?_⟩
    cases (Scope.lookup_set_self s.scope name none).symm.trans hvalue
  · have hscope := scope_declare (m := m) (variableKind b name) (Dotted.under b.qualifier name)
      (p.inFile m.file) {} s
    rw [hdeclared] at hscope
    obtain ⟨hother, hgiven⟩ := lookup_bindTo (n := n) (h := h) hbind
    refine ⟨fun hn => (hother hn).trans (congrArg (·.lookup n) hscope), fun hvalue => ?_⟩
    obtain ⟨x, t', hx, hx'⟩ := hgiven hvalue
    cases hx
    exact .assign hdeclared hx'

/-- A visible value of a name that a step touches was given by the step; other names keep what
they had. -/
theorem lookup_step {step : ElaborationStep} (hrun : outcome (step.run m) s = (.ok (), s')) :
    (¬ step.Touches n → s'.scope.lookup n = s.scope.lookup n) ∧
      (step.Touches n → s'.scope.lookup n = some h → step.Gives m s n h) := by
  cases step with
  | declare kind qualname p written =>
    obtain ⟨w, groups, -, -, hrun⟩ := exists_groups hrun
    have hscope := scope_declare (m := m) kind qualname (p.inFile m.file) groups s
    rw [hrun] at hscope
    exact ⟨fun _ => congrArg (·.lookup n) hscope, False.elim⟩
  | refuse es =>
    have hscope := kept_scope.refuseIn (m := m) es s
    rw [ElaborationStep.run] at hrun
    rw [hrun] at hscope
    exact ⟨fun _ => congrArg (·.lookup n) hscope, False.elim⟩
  | bind name value =>
    rw [ElaborationStep.run] at hrun
    obtain ⟨hother, hgiven⟩ := lookup_bindTo (n := n) (h := h) hrun
    refine ⟨hother, ?_⟩
    rintro rfl hvalue
    obtain ⟨x, s'', rfl, hx⟩ := hgiven hvalue
    exact .bind hx
  | assign b p name e =>
    obtain ⟨hother, hgiven⟩ := lookup_assign (n := n) (h := h) hrun
    refine ⟨hother, ?_⟩
    rintro rfl hvalue
    exact hgiven hvalue
  | imported b name module target =>
    rw [ElaborationStep.run] at hrun
    cases hrun
    refine ⟨fun hn => Scope.lookup_set_of_ne _ none (Ne.symm hn), ?_⟩
    rintro rfl hvalue
    cases (Scope.lookup_set_self s.scope name none).symm.trans hvalue
  | inside steps =>
    rw [outcome_inside] at hrun
    split at hrun
    · cases hrun
      exact ⟨fun _ => rfl, False.elim⟩
    · cases hrun

/-- Steps that do not touch a name leave what it had. -/
theorem lookup_runAll_of_not_touches {steps : List ElaborationStep}
    (hsteps : ∀ step ∈ steps, ¬ step.Touches n)
    (hrun : outcome (runAll m steps) s = (.ok (), s')) :
    s'.scope.lookup n = s.scope.lookup n := by
  induction steps generalizing s with
  | nil =>
    cases hrun
    rfl
  | cons step rest ih =>
    obtain ⟨s₁, hstep, hrest⟩ := (outcome_runAll_cons step rest s s').mp hrun
    rw [ih (fun st hst => hsteps st (List.mem_cons_of_mem _ hst)) hrest]
    exact (lookup_step (h := default) hstep).1 (hsteps step List.mem_cons_self)

/-- A value that is visible behind some steps was given by one of them, and none behind it
touches the name; or none of them touches it. -/
theorem lookup_runAll {steps : List ElaborationStep}
    (hrun : outcome (runAll m steps) s = (.ok (), s')) (hvalue : s'.scope.lookup n = some h) :
    (∃ before step later s₁, steps = before ++ step :: later ∧
      outcome (runAll m before) s = (.ok (), s₁) ∧ step.Gives m s₁ n h ∧
      ∀ st ∈ later, ¬ st.Touches n) ∨
    ((∀ st ∈ steps, ¬ st.Touches n) ∧ s.scope.lookup n = some h) := by
  induction steps generalizing s with
  | nil =>
    cases hrun
    exact .inr ⟨by simp, hvalue⟩
  | cons step rest ih =>
    obtain ⟨s₁, hstep, hrest⟩ := (outcome_runAll_cons step rest s s').mp hrun
    obtain ⟨before, given, later, s₂, rfl, hbefore, hgiven, hlater⟩ | ⟨hnone, hlookup⟩ := ih hrest
    · exact .inl ⟨step :: before, given, later, s₂, rfl,
        (outcome_runAll_cons step before s s₂).mpr ⟨s₁, hstep, hbefore⟩, hgiven, hlater⟩
    · obtain ⟨hother, hgiven⟩ := lookup_step (n := n) (h := h) hstep
      by_cases htouches : step.Touches n
      · exact .inl ⟨[], step, rest, s, rfl, rfl, hgiven htouches hlookup, hnone⟩
      · refine .inr ⟨?_, (hother htouches).symm.trans hlookup⟩
        intro st hst
        obtain rfl | hst := List.mem_cons.mp hst
        · exact htouches
        · exact hnone st hst

end Elaboration

/-! ### Statements that give a name its value -/

/-- Gone through in a module from the findings before it, a statement gives a name a value: it
declares the name with a type, or assigns it.  The value is that of the expression where the name
has just been declared; of several targets, those before the name have been gone through. -/
inductive Statement.Gives (m : ModuleSetting) (s : Findings) (n : String) (h : Held) :
    Statement → Prop
  | typed {p q : Place} {type e : Expr} {w : Written} {groups : Groups} {t t' : Findings}
    (written : typedWritten m type (some e) = .ok w) (read : w.groups m = .ok groups)
    (declared : outcome (declare m .variableDef n (p.inFile m.file) groups) s = (.ok (), t))
    (visible : t.scope = s.scope)
    (value : outcome (Elaboration.value m e) t = (.ok (.ok h), t')) :
    Gives m s n h (.typed p (.name q n) type (some e))
  | assigned {p : Place} {targets : List Expr} {e : Expr} {before rest : List String}
    {s₁ t t' : Findings} (names : targets.map targetName? = (before ++ n :: rest).map some)
    (last : n ∉ rest) (earlier : outcome (declareNames m {} p e before) s = (.ok (), s₁))
    (declared : outcome (declare m .variableDef n (p.inFile m.file) {}) s₁ = (.ok (), t))
    (visible : t.scope = s₁.scope)
    (value : outcome (Elaboration.value m e) t = (.ok (.ok h), t')) :
    Gives m s n h (.assign p targets e)

/-- Targets that are names, as many as there are. -/
theorem map_targetName?_of_length {targets : List Expr}
    (h : (targets.filterMap targetName?).length = targets.length) :
    targets.map targetName? = (targets.filterMap targetName?).map some := by
  induction targets with
  | nil => rfl
  | cons e es ih =>
    have hle := List.length_filterMap_le targetName? es
    cases he : targetName? e with
    | none =>
      rw [List.filterMap_cons_none he, List.length_cons] at h
      omega
    | some n =>
      rw [List.filterMap_cons_some he, List.length_cons, List.length_cons, Nat.add_right_cancel_iff]
        at h
      rw [List.filterMap_cons_some he, List.map_cons, List.map_cons, he, ih h]

theorem targetNamesOfAll_eq : ∀ {targets : List Expr} {names : List String},
    targets.map targetName? = names.map some → targetNamesOfAll targets = names
  | [], [], _ => rfl
  | e :: es, n :: names, h => by
    obtain ⟨hname, hrest⟩ := List.cons_eq_cons.mp h
    cases e with
    | name p id =>
      cases hname
      rw [targetNamesOfAll, Expr.targetNames, targetNamesOfAll_eq hrest]
      rfl
    | _ => cases hname

namespace Elaboration

variable {m : ModuleSetting} {s s' : Findings} {n : String} {h : Held}

/-- A statement whose steps give no values leaves those that are visible behind it. -/
theorem lookup_statement_of_not_gives {st : Statement}
    (hnone : ∀ step ∈ st.steps m {}, ∀ s₁, ¬ step.Gives m s₁ n h)
    (hrun : outcome (statement m {} st) s = (.ok (), s')) (hvalue : s'.scope.lookup n = some h) :
    (∀ step ∈ st.steps m {}, ¬ step.Touches n) ∧ s.scope.lookup n = some h := by
  rw [statement_eq] at hrun
  obtain ⟨before, step, later, s₁, hsteps, -, hgives, -⟩ | hkept := lookup_runAll hrun hvalue
  · exact absurd hgives (hnone step (by simp [hsteps]) s₁)
  · exact hkept

/-- An assignment gives a name the value that is visible behind it, or the value was visible
before and the name is rebound without being noticed at most. -/
theorem lookup_assigned {p : Place} {targets : List Expr} {e : Expr}
    (hrun : outcome (statement m {} (.assign p targets e)) s = (.ok (), s'))
    (hvalue : s'.scope.lookup n = some h) :
    (Statement.assign p targets e).Gives m s n h ∨
      (((Statement.assign p targets e).Rebinds n →
          (Statement.assign p targets e).Overlooked m n) ∧ s.scope.lookup n = some h) := by
  rw [statement_eq, Statement.steps, assignedSteps] at hrun
  split at hrun
  · rename_i hmodule
    have hkept := lookup_runAll_of_not_touches (n := n)
      (by simp [ElaborationStep.Touches]) hrun
    exact .inr ⟨fun _ => .inl hmodule, hkept ▸ hvalue⟩
  · split at hrun
    · rename_i hmarks
      have hkept := lookup_runAll_of_not_touches (n := n)
        (by simp [ElaborationStep.Touches]) hrun
      exact .inr ⟨fun _ => .inr (.inl hmarks), hkept ▸ hvalue⟩
    · split at hrun
      · rename_i hlength
        have hnames := map_targetName?_of_length (by simpa using hlength)
        generalize targets.filterMap targetName? = names at hrun hnames
        obtain ⟨before, step, later, s₁, hsteps, hbefore, hgives, hlater⟩ | ⟨hnone, hlookup⟩ :=
          lookup_runAll hrun hvalue
        · -- the step is that of the last target with the name
          left
          obtain ⟨names₁, names₂, rfl, rfl, hsteps₂⟩ := List.map_eq_append_iff.mp hsteps
          obtain ⟨name, rest, rfl, rfl, rfl⟩ := List.map_eq_cons_iff.mp hsteps₂
          rw [← declareNames_eq] at hbefore
          cases hgives with
          | @assign b p e t t' declared value =>
            rw [Dotted.under_empty] at declared
            refine .assigned hnames (fun hn => ?_) hbefore declared ?_ value
            · exact hlater _ (List.mem_map_of_mem hn) rfl
            · have hscope := scope_declare (m := m) (variableKind {} n) n (p.inFile m.file) {} s₁
              rwa [declared] at hscope
        · refine .inr ⟨fun hrebinds => ?_, hlookup⟩
          rw [Statement.Rebinds, targetNamesOfAll_eq hnames] at hrebinds
          exact absurd rfl (hnone _ (List.mem_map_of_mem hrebinds))
      · rename_i hlength
        have hkept := lookup_runAll_of_not_touches (n := n) (by simp) hrun
        exact .inr ⟨fun _ => .inr (.inr (by simpa using hlength)), hkept ▸ hvalue⟩

/-- So does the declaration of a name with a type. -/
theorem lookup_typed {p : Place} {target type : Expr} {e : Option Expr}
    (hrun : outcome (statement m {} (.typed p target type e)) s = (.ok (), s'))
    (hvalue : s'.scope.lookup n = some h) :
    (Statement.typed p target type e).Gives m s n h ∨
      (((Statement.typed p target type e).Rebinds n →
          (Statement.typed p target type e).Overlooked m n) ∧ s.scope.lookup n = some h) := by
  rw [statement_eq] at hrun
  cases target with
  | name q name =>
    rw [Statement.steps, outcome_runAll_cons] at hrun
    obtain ⟨t, hdeclare, hbind⟩ := hrun
    rw [runAll_singleton, ElaborationStep.run] at hbind
    obtain ⟨w, groups, hwritten, hread, hdeclared⟩ := exists_groups hdeclare
    have hscope := scope_declare (m := m) (variableKind {} name) (Dotted.under "" name)
      (p.inFile m.file) groups s
    rw [hdeclared] at hscope
    obtain ⟨hother, hgiven⟩ := lookup_bindTo (n := n) (h := h) hbind
    by_cases hn : name = n
    · subst hn
      obtain ⟨x, t', rfl, hx⟩ := hgiven hvalue
      rw [Dotted.under_empty] at hdeclared
      exact .inl (.typed hwritten hread hdeclared hscope hx)
    · refine .inr ⟨fun hrebinds => ?_, hscope ▸ (hother hn).symm.trans hvalue⟩
      cases hrebinds.2
      exact absurd rfl hn
  | _ =>
    rw [steps_typed_of_no_name rfl] at hrun
    have hkept := lookup_runAll_of_not_touches (n := n) (by simp [ElaborationStep.Touches]) hrun
    refine .inr ⟨fun hrebinds => ?_, hkept ▸ hvalue⟩
    cases hrebinds.2

theorem not_gives_moduleStep {b : Body} {i : ImportedName} :
    ¬ (moduleStep b i).Gives m s n h := by
  intro hgives
  unfold moduleStep at hgives
  split at hgives <;> cases hgives

theorem touches_moduleStep {b : Body} (i : ImportedName) :
    (moduleStep b i).Touches i.moduleName := by
  unfold moduleStep ImportedName.moduleName
  cases i.boundAs <;> rfl

/-- A value that is visible behind a statement was given by it, or it was visible before, and if
the statement rebinds the name it is one that the scope overlooks. -/
theorem lookup_statement {st : Statement} (hstraight : st.Straight)
    (hrun : outcome (statement m {} st) s = (.ok (), s')) (hvalue : s'.scope.lookup n = some h) :
    st.Gives m s n h ∨
      ((st.Rebinds n → st.Overlooked m n) ∧ s.scope.lookup n = some h) := by
  -- statements whose steps only hide names, or leave them alone
  have hplain : (∀ step ∈ st.steps m {}, ∀ s₁, ¬ step.Gives m s₁ n h) →
      ((∀ step ∈ st.steps m {}, ¬ step.Touches n) → st.Rebinds n → st.Overlooked m n) →
      st.Gives m s n h ∨ ((st.Rebinds n → st.Overlooked m n) ∧ s.scope.lookup n = some h) := by
    intro hnone hrebinds
    obtain ⟨htouches, hlookup⟩ := lookup_statement_of_not_gives hnone hrun hvalue
    exact .inr ⟨hrebinds htouches, hlookup⟩
  cases st with
  | branch | attempt | within | each | repeated | select => exact hstraight.elim
  | assign p targets e => exact lookup_assigned hrun hvalue
  | typed p target type value => exact lookup_typed hrun hvalue
  | classDef p name bounds bases keywords decorators body =>
    refine hplain ?_ fun hnone => ?_
    · rw [Statement.steps]
      rintro step hstep s₁ ⟨⟩ <;> simp at hstep
    · rw [Statement.steps] at hnone
      rintro rfl
      exact absurd rfl (hnone (.bind name none) (by simp))
  | function p name bounds parameters result decorators body =>
    refine hplain ?_ fun hnone => ?_
    · rw [Statement.steps]
      rintro step hstep s₁ ⟨⟩ <;> simp at hstep
    · rw [Statement.steps] at hnone
      rintro rfl
      exact absurd rfl (hnone (.bind name none) (by simp))
  | typeAlias p name bounds value =>
    refine hplain ?_ fun hnone => ?_
    · rw [Statement.steps]
      rintro step hstep s₁ ⟨⟩ <;> simp at hstep
    · rw [Statement.steps] at hnone
      rintro rfl
      exact absurd rfl (hnone (.bind name none) (by simp))
  | importModules p modules =>
    refine hplain ?_ fun hnone => ?_
    · rw [Statement.steps]
      rintro step hstep s₁ hgives
      obtain ⟨i, -, rfl⟩ := List.mem_map.mp hstep
      exact not_gives_moduleStep hgives
    · rw [Statement.steps] at hnone
      intro hrebinds
      obtain ⟨i, hi, rfl⟩ := List.mem_map.mp hrebinds
      exact absurd (touches_moduleStep i) (hnone _ (List.mem_map_of_mem hi))
  | importNames p module names level =>
    refine hplain ?_ fun hnone => ?_
    · rw [Statement.steps]
      rintro step hstep s₁ hgives
      obtain ⟨i, -, rfl⟩ := List.mem_map.mp hstep
      cases hgives
    · rw [Statement.steps] at hnone
      intro _ hbound
      obtain ⟨i, hi, rfl⟩ := List.mem_map.mp hbound
      exact hnone _ (List.mem_map_of_mem hi) rfl
  | augment p target value => exact hplain (by simp [Statement.steps]) fun _ _ => trivial
  | delete p targets => exact hplain (by simp [Statement.steps]) fun _ _ => trivial
  | plain p kind parts => exact hplain (by simp [Statement.steps]) fun _ => False.elim
  | expression e =>
    refine hplain ?_ fun _ => False.elim
    rw [Statement.steps]
    rintro step hstep s₁ hgives
    split at hstep
    · cases hgives <;> simp at hstep
    · simp at hstep

/-! ### The statement behind a value -/

/-- An overlooked statement leaves a name the value it had. -/
theorem scope_overlooked {st : Statement} (hst : st.Overlooked m n)
    (hrun : outcome (statement m {} st) s = (.ok (), s')) :
    s'.scope.lookup n = s.scope.lookup n := by
  rw [statement_eq] at hrun
  refine lookup_runAll_of_not_touches ?_ hrun
  cases st with
  | augment | delete => simp [Statement.steps]
  | importNames p module names level =>
    rw [Statement.steps]
    rintro step hstep htouches
    obtain ⟨i, hi, rfl⟩ := List.mem_map.mp hstep
    exact hst (List.mem_map.mpr ⟨i, hi, htouches⟩)
  | assign p targets value =>
    rw [Statement.steps, assignedSteps]
    split
    · simp [ElaborationStep.Touches]
    · rename_i hmodule
      split
      · simp [ElaborationStep.Touches]
      · rename_i hmarks
        split
        · rename_i hlength
          obtain h | h | h := hst
          · exact absurd h hmodule
          · exact absurd h hmarks
          · exact absurd (by simpa using hlength) h
        · simp
  | _ => exact hst.elim

/-- **Visible constants.**  Where a module of straight statements has been gone through and a
name has a value, a statement gave the name this value: it is the value of the expression that
the statement declares or assigns the name with, where it stands.  Of the statements behind it,
those that bind, rebind or delete the name are overlooked by the scope; so the value is that of
the last statement which does so, exactly when none of them is one of these. -/
theorem visible_constant {c : Compilation} {body : List Statement}
    (hstraight : ∀ st ∈ body, st.Straight)
    (hrun : outcome (wholeModule m body) { compilation := c } = (.ok (), s))
    (hvalue : s.scope.lookup n = some h) :
    ∃ (before : List Statement) (st : Statement) (later : List Statement) (s₁ : Findings),
      body = before ++ st :: later ∧
      outcome (wholeModule m before) { compilation := c } = (.ok (), s₁) ∧
      st.Gives m s₁ n h ∧ ∀ st' ∈ later, st'.Rebinds n → st'.Overlooked m n := by
  induction body using List.reverseRecOn generalizing s with
  | nil =>
    -- nothing is visible at the start
    have hscope := scope_declare (m := m) .nameSpace "" ⟨m.file, 0, 0⟩ {} { compilation := c }
    rw [wholeModule, statements, bind_pure_unit] at hrun
    rw [hrun] at hscope
    rw [hscope] at hvalue
    cases hvalue
  | append_singleton body st ih =>
    obtain ⟨s₁, hbody, hst⟩ := (outcome_wholeModule_concat body st _ s).mp hrun
    obtain hgives | ⟨hoverlooked, hlookup⟩ :=
      lookup_statement (hstraight st (by simp)) hst hvalue
    · exact ⟨body, st, [], s₁, rfl, hbody, hgives, by simp⟩
    · obtain ⟨before, given, later, s₂, rfl, hbefore, hgives, hlater⟩ :=
        ih (fun st hst => hstraight st (List.mem_append_left _ hst)) hbody hlookup
      refine ⟨before, given, later ++ [st], s₂, by simp, hbefore, hgives, ?_⟩
      intro st' hst'
      obtain hst' | hst' := List.mem_append.mp hst'
      · exact hlater st' hst'
      · rw [List.mem_singleton.mp hst']
        exact hoverlooked

/-- A name that is assigned and then deleted. -/
def assignedAndDeleted : List Statement :=
  [.assign ⟨1, 0⟩ [.name ⟨1, 0⟩ "X"] (.literal ⟨1, 4⟩ (.int 1)),
    .delete ⟨2, 0⟩ [.name ⟨2, 4⟩ "X"]]

/-- What has come out when the module was gone through. -/
def afterDeletion : Findings :=
  (outcome (wholeModule sampleModule assignedAndDeleted) sampleFindings).2

theorem outcome_assignedAndDeleted :
    outcome (wholeModule sampleModule assignedAndDeleted) sampleFindings =
      (.ok (), afterDeletion) := by
  rfl

theorem lookup_afterDeletion : afterDeletion.scope.lookup "X" = some ⟨.int 1, 1⟩ := by
  rfl

/-- The value behind the deletion is that of the assignment. -/
theorem visible_constant_sample :
    (∀ st ∈ assignedAndDeleted, st.Straight) ∧
      outcome (wholeModule sampleModule assignedAndDeleted) sampleFindings =
        (.ok (), afterDeletion) ∧
      afterDeletion.scope.lookup "X" = some ⟨.int 1, 1⟩ ∧
      ∃ s₁, (Statement.assign ⟨1, 0⟩ [.name ⟨1, 0⟩ "X"] (.literal ⟨1, 4⟩ (.int 1))).Gives
        sampleModule s₁ "X" ⟨.int 1, 1⟩ := by
  have hstraight : ∀ st ∈ assignedAndDeleted, st.Straight := by
    simp [assignedAndDeleted, Statement.Straight]
  refine ⟨hstraight, outcome_assignedAndDeleted, lookup_afterDeletion, ?_⟩
  obtain ⟨before, st, later, s₁, hbody, -, hgives, -⟩ :=
    visible_constant hstraight outcome_assignedAndDeleted lookup_afterDeletion
  have hst : st ∈ assignedAndDeleted := by simp [hbody]
  obtain rfl | hst := List.mem_cons.mp hst
  · exact ⟨s₁, hgives⟩
  · -- a deletion gives no value
    rw [List.mem_singleton.mp hst] at hgives
    cases hgives

/-- A deleted name has the value it had, and the last statement that binds or deletes it is the
deletion. -/
theorem visible_constant_stale :
    ¬ ∀ (m : ModuleSetting) (c : Compilation) (body : List Statement) (s : Findings) (n : String)
      (h : Held), (∀ st ∈ body, st.Straight) →
      outcome (wholeModule m body) { compilation := c } = (.ok (), s) →
      s.scope.lookup n = some h →
        ∃ (before : List Statement) (st : Statement) (later : List Statement) (s₁ : Findings),
          body = before ++ st :: later ∧
          outcome (wholeModule m before) { compilation := c } = (.ok (), s₁) ∧
          st.Gives m s₁ n h ∧ ∀ st' ∈ later, ¬ st'.Rebinds n := by
  intro hclaim
  obtain ⟨before, st, later, s₁, hbody, -, hgives, hlater⟩ :=
    hclaim sampleModule sampleFindings.compilation assignedAndDeleted afterDeletion "X"
      ⟨.int 1, 1⟩ (by simp [assignedAndDeleted, Statement.Straight]) outcome_assignedAndDeleted
      lookup_afterDeletion
  rw [assignedAndDeleted] at hbody
  match before, hbody with
  | [], hbody =>
    -- the deletion stands behind the assignment
    obtain ⟨-, rfl⟩ := List.cons_eq_cons.mp hbody
    exact hlater _ List.mem_cons_self List.mem_cons_self
  | [_], hbody =>
    obtain ⟨-, hbody⟩ := List.cons_eq_cons.mp hbody
    obtain ⟨rfl, -⟩ := List.cons_eq_cons.mp hbody
    cases hgives
  | _ :: _ :: before, hbody =>
    have hlength := congrArg List.length hbody
    simp at hlength

end Elaboration

end Marginalia
