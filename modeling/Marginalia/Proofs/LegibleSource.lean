/-
Sources that are analysed to the end.

What is written at a declaration is read before anything is evaluated: the declared type is taken
apart, and plain attributes and the vendor's names of groups are written out.  Nothing but this and
the evaluation of the annotations and of assigned values can end an analysis early.

* `Spellings.Legible` — the names in a group can be written;
* `ElaborationStep.Legible` — what a step looks at can be read;
* `ElaborationStep.evaluated` — the expressions that are evaluated for a step;
* `AllContained` — no evaluation that steps make ends in a fault of its own;
* `Elaboration.legible_of_runAll`, `Elaboration.finishes_runAll` — then steps come to their end
  exactly when all of them are legible;
* `Analyzer.analysis_answers_iff` — so does the analysis of a module;
* `Analyzer.analysis_not_answered` — one that does not come to its end.
-/
import Marginalia.Proofs.EscapedFaults
import Marginalia.Proofs.RecordedAnnotations

namespace Marginalia

/-! ### Computations that have a result -/

section Results

variable {ε α β : Type}

theorem exists_bind_eq_ok_iff {x : Except ε α} {f : α → Except ε β} :
    (∃ b, x >>= f = .ok b) ↔ ∃ a, x = .ok a ∧ ∃ b, f a = .ok b := by
  constructor
  · rintro ⟨b, h⟩
    obtain ⟨a, hx, hf⟩ := exists_of_bind_eq_ok h
    exact ⟨a, hx, b, hf⟩
  · rintro ⟨a, rfl, b, hf⟩
    exact ⟨b, hf⟩

theorem exists_mapM_eq_ok_iff {f : α → Except ε β} {xs : List α} :
    (∃ ys, xs.mapM f = .ok ys) ↔ ∀ x ∈ xs, ∃ y, f x = .ok y := by
  induction xs with
  | nil => exact iff_of_true ⟨[], rfl⟩ nofun
  | cons x xs ih =>
    rw [List.mapM_cons, exists_bind_eq_ok_iff, List.forall_mem_cons, ← ih]
    constructor
    · rintro ⟨y, hy, ys, hys⟩
      obtain ⟨zs, hzs, -⟩ := exists_of_bind_eq_ok hys
      exact ⟨⟨y, hy⟩, zs, hzs⟩
    · rintro ⟨⟨y, hy⟩, ys, hys⟩
      exact ⟨y, hy, y :: ys, by rw [hys]; rfl⟩

end Results

/-! ### Groups that can be read -/

namespace Spellings

variable (s : Spellings) (file : String)

/-- The plain attributes and the vendor's names in a group, if an expression makes one, can be
written. -/
def Legible : Expr → Prop
  | .call _ f es ks => f.lastName? = some s.marker →
      (∀ e ∈ es, e.isCallTo s.plainItem = true → ∃ n, attributeName e = .ok n) ∧
        ∀ k ∈ ks, ∃ v, vendor none k = .ok v
  | _ => True

theorem exists_item_iff (e : Expr) :
    (∃ a, s.item file e = .ok a) ↔
      (e.isCallTo s.plainItem = true → ∃ n, attributeName e = .ok n) := by
  unfold item
  by_cases h : e.isCallTo s.plainItem = true
  · simp only [h, if_true, exists_bind_eq_ok_iff, true_imp_iff]
    exact ⟨fun ⟨n, hn, _⟩ => ⟨n, hn⟩, fun ⟨n, hn⟩ => ⟨n, hn, _, rfl⟩⟩
  · simp only [h]
    exact iff_of_true ⟨_, rfl⟩ nofun

/-- Whether a vendor's name can be written does not depend on the one before. -/
theorem exists_vendor_iff (before : Option String) (k : Keyword) :
    (∃ v, vendor before k = .ok v) ↔ ∃ v, vendor none k = .ok v := by
  cases k with
  | unpacked m => exact iff_of_true ⟨_, rfl⟩ ⟨_, rfl⟩
  | given n e =>
    unfold vendor
    split <;> simp_all

theorem exists_vendors_iff (ks : List Keyword) (before : Option String) :
    (∃ v, ks.foldlM vendor before = .ok v) ↔ ∀ k ∈ ks, ∃ v, vendor none k = .ok v := by
  induction ks generalizing before with
  | nil => exact iff_of_true ⟨before, rfl⟩ nofun
  | cons k ks ih =>
    rw [List.foldlM_cons, exists_bind_eq_ok_iff, List.forall_mem_cons,
      ← exists_vendor_iff before]
    constructor
    · rintro ⟨v, hv, hrest⟩
      exact ⟨⟨v, hv⟩, (ih v).mp hrest⟩
    · rintro ⟨⟨v, hv⟩, hrest⟩
      exact ⟨v, hv, (ih v).mpr hrest⟩

theorem exists_group_iff (e : Expr) : (∃ g, s.group? file e = .ok g) ↔ s.Legible e := by
  cases e with
  | call p f es ks =>
    unfold group? Legible
    by_cases h : f.lastName? = some s.marker
    · simp only [h, beq_self_eq_true, if_true, exists_bind_eq_ok_iff, true_imp_iff]
      constructor
      · rintro ⟨items, hitems, vendor, hvendor, -⟩
        have hall := exists_mapM_eq_ok_iff.mp ⟨items, hitems⟩
        exact ⟨fun e he => (s.exists_item_iff file e).mp (hall e he),
          (exists_vendors_iff ks none).mp ⟨vendor, hvendor⟩⟩
      · rintro ⟨hitems, hvendors⟩
        obtain ⟨items, hitems⟩ := exists_mapM_eq_ok_iff.mpr
          fun e he => (s.exists_item_iff file e).mpr (hitems e he)
        obtain ⟨vendor, hvendor⟩ := (exists_vendors_iff ks none).mpr hvendors
        exact ⟨items, hitems, vendor, hvendor, _, rfl⟩
    · simp only [beq_eq_false_iff_ne.mpr h, h, Bool.false_eq_true, if_false, false_imp_iff]
      exact iff_of_true ⟨_, rfl⟩ trivial
  | _ => exact iff_of_true ⟨_, rfl⟩ trivial

theorem exists_groups_iff (es : List Expr) :
    (∃ gs, s.groups file es = .ok gs) ↔ ∀ e ∈ es, s.Legible e := by
  unfold groups
  simp only [exists_bind_eq_ok_iff, ← s.exists_group_iff file, ← exists_mapM_eq_ok_iff]
  exact ⟨fun ⟨gs, hgs, _⟩ => ⟨gs, hgs⟩, fun ⟨gs, hgs⟩ => ⟨gs, hgs, _, rfl⟩⟩

end Spellings

/-! ### Steps that can be read -/

/-- The groups in what is written at a declaration can be read. -/
def Written.Legible (m : ModuleSetting) (w : Written) : Prop :=
  (∀ e ∈ w.own, m.spellings.Legible e) ∧
    ∀ e ∈ (w.types ++ w.value).flatMap Expr.walk, m.spellings.Legible e

theorem Written.exists_groups_iff (m : ModuleSetting) (w : Written) :
    (∃ groups, w.groups m = .ok groups) ↔ w.Legible m := by
  unfold Written.groups Written.Legible
  rw [List.flatMap_append, List.forall_mem_append, ← m.spellings.exists_groups_iff m.file,
    ← m.spellings.exists_groups_iff m.file, ← m.spellings.exists_groups_iff m.file]
  simp only [exists_bind_eq_ok_iff]
  constructor
  · rintro ⟨own, hown, types, htypes, value, hvalue, -⟩
    exact ⟨⟨own, hown⟩, ⟨types, htypes⟩, value, hvalue⟩
  · rintro ⟨⟨own, hown⟩, ⟨types, htypes⟩, value, hvalue⟩
    exact ⟨own, hown, types, htypes, value, hvalue, _, rfl⟩

mutual

/-- What a step looks at can be read. -/
def ElaborationStep.Legible (m : ModuleSetting) : ElaborationStep → Prop
  | .declare _ _ _ written => ∃ w, written = .ok w ∧ w.Legible m
  | .refuse es => ∀ e ∈ es.flatMap Expr.walk, m.spellings.Legible e
  | .inside steps => AllLegible m steps
  | .bind .. | .assign .. | .imported .. => True

/-- What steps look at can be read. -/
def AllLegible (m : ModuleSetting) : List ElaborationStep → Prop
  | [] => True
  | step :: rest => step.Legible m ∧ AllLegible m rest

end

mutual

/-- The expressions that are evaluated for a step. -/
def ElaborationStep.evaluated (m : ModuleSetting) : ElaborationStep → List Expr
  | .declare _ _ _ (.ok w) =>
    (w.own.flatMap (m.spellings.annotationsWritten m.file)).map AnnotationItem.expression
  | .bind _ value => value.toList
  | .assign _ _ _ value => [value]
  | .inside steps => evaluatedOfAll m steps
  | .declare _ _ _ (.error _) | .refuse _ | .imported .. => []

/-- The expressions that are evaluated for steps. -/
def evaluatedOfAll (m : ModuleSetting) : List ElaborationStep → List Expr
  | [] => []
  | step :: rest => step.evaluated m ++ evaluatedOfAll m rest

end

/-! ### Evaluations that end in annotation errors at most -/

/-- The evaluation of an expression in a state does not end in a fault of its own. -/
def Findings.Contains (m : ModuleSetting) (s : Findings) (e : Expr) : Prop :=
  ∀ f, (outcome (e.evaluate (m.setting s.scope)) s.compilation).1 ≠ .error (.escaped f)

/-- Nor does the evaluation of items one after the other, which goes on as long as each of them has a
value that can be stored. -/
def Findings.ContainsAll (m : ModuleSetting) : Findings → List (AnnotationItem Expr) → Prop
  | _, [] => True
  | s, a :: rest => s.Contains m a.expression ∧
    ∀ k s₁, outcome (Elaboration.value m a.expression) s = (.ok (.ok k), s₁) →
      k.value.obstacle? = none → Findings.ContainsAll m s₁ rest

mutual

/-- No evaluation that a step makes ends in a fault of its own. -/
def ElaborationStep.Contained (m : ModuleSetting) : ElaborationStep → Findings → Prop
  | .declare kind qualname p (.ok w), s => ∀ groups c i c₁ items, w.groups m = .ok groups →
    s.compilation.declare kind m.name.dotted qualname (p.inFile m.file) = (c, i) →
    c.elaborate i (p.inFile m.file) = .ok (c₁, true) → groups.validate kind c₁ = .ok items →
      Findings.ContainsAll m { s with compilation := c₁ } items
  | .bind _ value, s => ∀ e ∈ value.toList, s.Contains m e
  | .assign b p name e, s => ∀ s₁ s₂, outcome (Elaboration.tryAlias m b name e) s = (.ok false, s₁) →
    outcome (Elaboration.declare m (Elaboration.variableKind b name)
      (Dotted.under b.qualifier name) (p.inFile m.file) {}) s₁ = (.ok (), s₂) → s₂.Contains m e
  | .inside steps, s => AllContained m steps { s with scope := s.scope.child }
  | .declare _ _ _ (.error _), _ | .refuse _, _ | .imported .., _ => True

/-- No evaluation that steps make, one after the other, ends in a fault of its own. -/
def AllContained (m : ModuleSetting) : List ElaborationStep → Findings → Prop
  | [], _ => True
  | step :: rest, s => step.Contained m s ∧
    ∀ s₁, outcome (step.run m) s = (.ok (), s₁) → AllContained m rest s₁

end

/-- The evaluation of an expression of a module ends in annotation errors at most, in every scope and
state. -/
def ModuleSetting.Contains (m : ModuleSetting) (e : Expr) : Prop := ∀ s : Findings, s.Contains m e

/-- An expression that neither subscripts nor calls anything ends in annotation errors at most. -/
theorem ModuleSetting.contains_of_plain (m : ModuleSetting) {e : Expr}
    (h : ∀ x ∈ e.walk, x.looksForKey = false) : m.Contains e := by
  intro s f hf
  cases e.escapesOnly_evaluate _ s.compilation f hf with
  | @argument x name node given _ =>
    have hplain := h x node
    -- only a call gives names to arguments
    cases x with
    | call => cases hplain
    | _ => cases given
  | key node looks =>
    rw [h _ node] at looks
    cases looks

/-- An evaluation that has a value ends in no fault. -/
theorem Findings.contains_of_isOk {m : ModuleSetting} {s : Findings} {e : Expr}
    (h : (outcome (e.evaluate (m.setting s.scope)) s.compilation).1.isOk = true) :
    s.Contains m e := by
  intro f hf
  rw [hf] at h
  cases h

theorem Findings.containsAll_of_contains {m : ModuleSetting} {items : List (AnnotationItem Expr)}
    (h : ∀ a ∈ items, m.Contains a.expression) (s : Findings) : Findings.ContainsAll m s items := by
  induction items generalizing s with
  | nil => exact trivial
  | cons a rest ih =>
    obtain ⟨ha, hrest⟩ := List.forall_mem_cons.mp h
    exact ⟨ha s, fun _ s₁ _ _ => ih hrest s₁⟩

mutual

theorem ElaborationStep.contained_of_contains {m : ModuleSetting} : ∀ step : ElaborationStep,
    (∀ e ∈ step.evaluated m, m.Contains e) → ∀ s, step.Contained m s
  | .declare kind qualname p (.ok w), h, s => by
    intro groups c i c₁ items hgroups _ _ hvalid
    refine Findings.containsAll_of_contains (fun a ha => h _ ?_) _
    rw [Elaboration.annotations_of_validate hvalid, (Elaboration.annotations_of_written hgroups).1] at ha
    exact List.mem_map_of_mem ha
  | .bind _ value, h, s => fun e he => h e he s
  | .assign b p name e, h, s => fun _ s₂ _ _ => h e (List.mem_singleton_self e) s₂
  | .inside steps, h, s => allContained_of_contains steps h _
  | .declare _ _ _ (.error _), _, _ | .refuse _, _, _ | .imported .., _, _ => trivial

/-- Expressions that end in annotation errors at most wherever they are evaluated do so in a run. -/
theorem allContained_of_contains {m : ModuleSetting} : ∀ steps : List ElaborationStep,
    (∀ e ∈ evaluatedOfAll m steps, m.Contains e) → ∀ s, AllContained m steps s
  | [], _, _ => trivial
  | step :: rest, h, s => by
    rw [evaluatedOfAll, List.forall_mem_append] at h
    exact ⟨step.contained_of_contains h.1 s, fun s₁ _ => allContained_of_contains rest h.2 s₁⟩

end

/-! ### Runs that come to their end -/

namespace Elaboration

/-- A run comes to its end. -/
def Finishes {α : Type} (x : Elaboration α) (s : Findings) : Prop :=
  ∃ a s', outcome x s = (.ok a, s')

variable {m : ModuleSetting} {α β : Type} {s : Findings}

theorem Finishes.pure (a : α) : Finishes (Pure.pure a) s := ⟨a, s, rfl⟩

theorem Finishes.bind {x : Elaboration α} {f : α → Elaboration β} (hx : Finishes x s)
    (hf : ∀ a s₁, outcome x s = (.ok a, s₁) → Finishes (f a) s₁) : Finishes (x >>= f) s := by
  obtain ⟨a, s₁, hfirst⟩ := hx
  obtain ⟨b, s₂, hrest⟩ := hf a s₁ hfirst
  exact ⟨b, s₂, (outcome_bind_ok hfirst).trans hrest⟩

theorem finishes_modify (f : Findings → Findings) :
    Finishes (modify f : Elaboration PUnit) s := ⟨⟨⟩, f s, rfl⟩

theorem finishes_value {e : Expr} (h : s.Contains m e) : Finishes (value m e) s := by
  unfold Findings.Contains at h
  rw [outcome_evaluate] at h
  unfold Finishes
  rw [outcome_value]
  generalize outcome (e.hold (m.setting s.scope)) s.compilation = held at h ⊢
  obtain ⟨(error | f) | k, c⟩ := held
  · exact ⟨_, _, rfl⟩
  · exact absurd rfl (h f)
  · exact ⟨_, _, rfl⟩

theorem finishes_values {items : List (AnnotationItem Expr)} (h : s.ContainsAll m items) :
    Finishes (values m items) s := by
  induction items generalizing s with
  | nil => exact .pure _
  | cons a rest ih =>
    obtain ⟨ha, hrest⟩ := h
    rw [values]
    refine (finishes_value ha).bind fun r s₁ hvalue => ?_
    cases r with
    | error e => exact .pure _
    | ok k =>
      dsimp only
      rw [Compilation.checkStructural_eq]
      cases hobstacle : k.value.obstacle? with
      | some o => exact .pure _
      | none =>
        refine (ih (hrest k s₁ hvalue hobstacle)).bind fun r _ _ => ?_
        cases r <;> exact .pure _

theorem finishes_annotateSite {kind : Kind} {groups : Groups} {c : Compilation}
    (h : ∀ items, groups.validate kind c = .ok items → s.ContainsAll m items) (qualname : String)
    (site : Location) (i : Identity) : Finishes (annotateSite m kind qualname site groups i c) s := by
  have hitems : Finishes (itemValues m kind groups c) s := by
    unfold itemValues
    cases hvalid : groups.validate kind c with
    | error e => exact .pure _
    | ok items => exact finishes_values (h items hvalid)
  have hvalues : Finishes (siteValues m kind groups c) s := by
    refine hitems.bind fun r _ _ => ?_
    cases r with
    | error e => exact (finishes_modify _).bind fun _ _ _ => .pure []
    | ok vs => exact .pure vs
  rw [annotateSite_eq]
  exact hvalues.bind fun vs _ _ => (finishes_modify _).bind fun _ _ _ => finishes_modify _

theorem finishes_declare {kind : Kind} {qualname : String} {site : Location} {groups : Groups}
    (h : ∀ c i c₁ items, s.compilation.declare kind m.name.dotted qualname site = (c, i) →
      c.elaborate i site = .ok (c₁, true) → groups.validate kind c₁ = .ok items →
        Findings.ContainsAll m { s with compilation := c₁ } items) :
    Finishes (declare m kind qualname site groups) s := by
  unfold Finishes
  rw [outcome_declare]
  dsimp only
  split
  · rename_i c₁ hfirst
    exact finishes_annotateSite (fun items => h _ _ c₁ items rfl hfirst) qualname site _
  · exact ⟨_, _, rfl⟩

theorem finishes_bindTo {value : Option Expr} (h : ∀ e ∈ value.toList, s.Contains m e)
    (name : String) : Finishes (bindTo m name value) s := by
  unfold bindTo
  cases value with
  | none => exact finishes_modify _
  | some e =>
    refine (finishes_value (h e (List.mem_singleton_self e))).bind fun r _ _ => ?_
    cases r <;> exact finishes_modify _

theorem finishes_tryAlias (b : Body) (name : String) (e : Expr) :
    Finishes (tryAlias m b name e) s := by
  obtain h | ⟨c, h⟩ := outcome_tryAlias_eq m b name e s
  · exact ⟨_, _, h⟩
  · exact ⟨_, _, h⟩

/-- Where nothing is annotated, nothing is evaluated. -/
theorem finishes_declare_bare (kind : Kind) (qualname : String) (site : Location) :
    Finishes (declare m kind qualname site {}) s := by
  refine finishes_declare fun c i c₁ items _ _ hvalid => ?_
  have hnone : items = [] := annotations_of_validate hvalid
  rw [hnone]
  exact trivial

theorem finishes_assign {b : Body} {p : Place} {name : String} {e : Expr}
    (h : (ElaborationStep.assign b p name e).Contained m s) :
    Finishes ((ElaborationStep.assign b p name e).run m) s := by
  rw [run_assign]
  refine (finishes_tryAlias b name e).bind fun made s₁ hmade => ?_
  cases made with
  | true => exact .pure _
  | false =>
    exact (finishes_declare_bare _ _ _).bind fun _ s₂ hdeclared =>
      finishes_bindTo (fun _ he => List.mem_singleton.mp he ▸ h s₁ s₂ hmade hdeclared) name

theorem finishes_refuseIn {es : List Expr}
    (h : ∀ e ∈ es.flatMap Expr.walk, m.spellings.Legible e) : Finishes (refuseIn m es) s := by
  obtain ⟨groups, hgroups⟩ := (m.spellings.exists_groups_iff m.file _).mpr h
  have hread : (m.spellings.groupsIn m.file es) = .ok groups := hgroups
  unfold refuseIn
  rw [hread, liftM_ok, pure_bind]
  refine Finishes.bind ⟨s, s, rfl⟩ fun s _ _ => ?_
  split
  · exact .pure _
  · exact finishes_modify _

/-- A refusal that comes to its end could be read. -/
theorem legible_of_refuseIn {es : List Expr} {s s' : Findings}
    (h : outcome (refuseIn m es) s = (.ok (), s')) :
    ∀ e ∈ es.flatMap Expr.walk, m.spellings.Legible e := by
  refine (m.spellings.exists_groups_iff m.file _).mp ?_
  cases hgroups : m.spellings.groupsIn m.file es with
  | ok groups => exact ⟨groups, hgroups⟩
  | error f =>
    unfold refuseIn at h
    rw [hgroups, outcome_liftM_error] at h
    cases h

theorem finishes_declareStep {kind : Kind} {qualname : String} {p : Place}
    {written : Except Fault Written} (hlegible : ∃ w, written = .ok w ∧ w.Legible m)
    (h : (ElaborationStep.declare kind qualname p written).Contained m s) :
    Finishes ((ElaborationStep.declare kind qualname p written).run m) s := by
  obtain ⟨w, rfl, hw⟩ := hlegible
  obtain ⟨groups, hgroups⟩ := (w.exists_groups_iff m).mpr hw
  rw [ElaborationStep.run, liftM_ok, pure_bind, hgroups, liftM_ok, pure_bind]
  exact finishes_declare fun c i c₁ items => h groups c i c₁ items hgroups

mutual

/-- What a step that comes to its end looks at can be read. -/
theorem legible_of_step : ∀ (step : ElaborationStep) {s s' : Findings},
    outcome (step.run m) s = (.ok (), s') → step.Legible m
  | .declare kind qualname p written, s, s', hrun => by
    -- the groups are read before anything is done at the site
    obtain ⟨w, groups, hw, hgroups, -⟩ := exists_groups hrun
    exact ⟨w, hw, (w.exists_groups_iff m).mp ⟨groups, hgroups⟩⟩
  | .refuse es, s, s', hrun => legible_of_refuseIn hrun
  | .inside steps, s, s', hrun => by
    rw [outcome_inside] at hrun
    split at hrun
    · rename_i s₁ hinner
      exact legible_of_runAll steps hinner
    · cases hrun
  | .bind .., _, _, _ | .assign .., _, _, _ | .imported .., _, _, _ => trivial

theorem legible_of_runAll : ∀ (steps : List ElaborationStep) {s s' : Findings},
    outcome (runAll m steps) s = (.ok (), s') → AllLegible m steps
  | [], _, _, _ => trivial
  | step :: rest, s, s', hrun => by
    obtain ⟨s₁, hfirst, hrest⟩ := (outcome_runAll_cons step rest s s').mp hrun
    exact ⟨legible_of_step step hfirst, legible_of_runAll rest hrest⟩

end

mutual

/-- A step comes to its end if it can be read and no evaluation that it makes ends in a fault of its
own. -/
theorem finishes_step : ∀ (step : ElaborationStep) {s : Findings}, step.Legible m →
    step.Contained m s → Finishes (step.run m) s
  | .declare kind qualname p written, s, hlegible, h => finishes_declareStep hlegible h
  | .refuse es, s, hlegible, _ => finishes_refuseIn hlegible
  | .bind name value, s, _, h => finishes_bindTo h name
  | .assign b p name e, s, _, h => finishes_assign h
  | .imported b name module target, s, _, _ => ⟨_, _, rfl⟩
  | .inside steps, s, hlegible, h => by
    obtain ⟨_, s₁, hinner⟩ := finishes_runAll steps hlegible h
    exact ⟨(), { s₁ with scope := s.scope }, by rw [outcome_inside, hinner]⟩

theorem finishes_runAll : ∀ (steps : List ElaborationStep) {s : Findings}, AllLegible m steps →
    AllContained m steps s → Finishes (runAll m steps) s
  | [], s, _, _ => ⟨(), s, rfl⟩
  | step :: rest, s, hlegible, h => by
    obtain ⟨_, s₁, hfirst⟩ := finishes_step step hlegible.1 h.1
    obtain ⟨_, s₂, hrest⟩ := finishes_runAll rest hlegible.2 (h.2 s₁ hfirst)
    exact ⟨(), s₂, (outcome_runAll_cons step rest s s₂).mpr ⟨s₁, hfirst, hrest⟩⟩

end

end Elaboration

/-! ### Analyses that come to their end -/

namespace Analyzer

open Elaboration

variable {f : Analyzer} {name : ModuleName} {file : String}

/-- An analysis answers what the run over the module has found, if that comes to its end. -/
theorem elaborate_answers_iff {body : List Statement} {c : Compilation} :
    (∃ a c', f.elaborate name file (.ok body) c = (.ok a, c')) ↔
      ∃ s, outcome (runAll (f.module name file) (moduleSteps (f.module name file) body))
        { compilation := c } = (.ok (), s) := by
  constructor
  · rintro ⟨a, c', h⟩
    obtain ⟨s, hrun, -, -⟩ := exists_run h
    exact ⟨s, hrun⟩
  · rintro ⟨s, hrun⟩
    exact ⟨_, _, elaborate_of_run hrun⟩

/-- **An analysis comes to its end exactly when the source is legible.**  What is no module is
reported; else, if no evaluation that the analysis makes ends in a fault of its own, an analysis
answers if and only if every declared type can be taken apart and every name in a group can be
written.  The analysis of a text is that of what is read from it. -/
theorem analysis_answers_iff (f : Analyzer) (name : ModuleName) (file : String)
    (read : Except SourceFault (List Statement)) (c : Compilation)
    (hcontained : ∀ body, read = .ok body →
      AllContained (f.module name file) (moduleSteps (f.module name file) body)
        { compilation := c }) :
    ((∃ a c', f.elaborate name file read c = (.ok a, c')) ↔
      ∀ body, read = .ok body →
        AllLegible (f.module name file) (moduleSteps (f.module name file) body)) ∧
    ∀ source, f.readSource source = read →
      f.analyzeText name file source c = f.elaborate name file read c := by
  refine ⟨?_, fun source hread => hread ▸ f.analyzeText_eq name file source c⟩
  cases read with
  | error fault => exact iff_of_true ⟨_, _, rfl⟩ nofun
  | ok body =>
    rw [elaborate_answers_iff]
    constructor
    · rintro ⟨s, hrun⟩ body ⟨⟩
      exact legible_of_runAll _ hrun
    · intro hlegible
      obtain ⟨_, s, hrun⟩ := finishes_runAll _ (hlegible body rfl) (hcontained body rfl)
      exact ⟨s, hrun⟩

/-- A name whose type carries an annotation, a call of the class of integers. -/
def annotatedName : List Statement :=
  [.typed ⟨1, 0⟩ (.name ⟨1, 0⟩ "x")
    (.subscript ⟨1, 3⟩ (.name ⟨1, 3⟩ "Annotated")
      (.tuple ⟨1, 13⟩ [.name ⟨1, 13⟩ "int",
        .call ⟨1, 18⟩ (.name ⟨1, 18⟩ "meta")
          [.call ⟨1, 23⟩ (.name ⟨1, 23⟩ "int") [.literal ⟨1, 27⟩ (.int 1)] []] []])) none]

/-- A name whose type is annotated with nothing, and is a type of nothing. -/
def emptyAnnotated : List Statement :=
  [.typed ⟨1, 0⟩ (.name ⟨1, 0⟩ "x")
    (.subscript ⟨1, 3⟩ (.name ⟨1, 3⟩ "Annotated") (.tuple ⟨1, 13⟩ [])) none]

/-- The analysis of an annotated name answers. -/
theorem analysis_answers_annotatedName :
    (∀ body, (.ok annotatedName : Except SourceFault _) = .ok body →
      AllContained (({} : Analyzer).module ⟨"m", false⟩ "m.py")
        (moduleSteps (({} : Analyzer).module ⟨"m", false⟩ "m.py") body)
        { compilation := .empty 1 Kind.all }) ∧
    ∃ a c', ({} : Analyzer).elaborate ⟨"m", false⟩ "m.py" (.ok annotatedName)
      (.empty 1 Kind.all) = (.ok a, c') := by
  have hcontained : ∀ body, (.ok annotatedName : Except SourceFault _) = .ok body →
      AllContained (({} : Analyzer).module ⟨"m", false⟩ "m.py")
        (moduleSteps (({} : Analyzer).module ⟨"m", false⟩ "m.py") body)
        { compilation := .empty 1 Kind.all } := by
    rintro body ⟨⟩
    refine ⟨fun groups c i c₁ items hgroups _ _ hvalid => ?_, fun s₁ hfirst =>
      ⟨fun groups c i c₁ items hgroups hdeclared hentered hvalid => ?_, fun _ _ =>
        ⟨nofun, fun _ _ => trivial⟩⟩⟩
    · cases hgroups
      cases hvalid
      exact trivial
    · -- the class is called in the state behind the declaration of the module
      cases hfirst
      cases hgroups
      cases hdeclared
      cases hentered
      cases hvalid
      exact ⟨Findings.contains_of_isOk (by decide +kernel), fun _ _ _ _ => trivial⟩
  refine ⟨hcontained, (analysis_answers_iff {} _ _ _ _ hcontained).1.mpr ?_⟩
  rintro body ⟨⟩
  refine ⟨⟨{}, rfl, nofun, nofun⟩, ⟨_, rfl, fun e he => ?_, fun e he => ?_⟩, trivial, trivial⟩
  · obtain rfl := List.mem_singleton.mp he
    refine fun _ => ⟨fun e he hplain => ?_, nofun⟩
    obtain rfl := List.mem_singleton.mp he
    cases hplain
  · obtain rfl : e = .name ⟨1, 13⟩ "int" := List.mem_singleton.mp he
    exact trivial

/-- Not every analysis comes to its end, even if nothing is evaluated. -/
theorem analysis_not_answered :
    ¬ ∀ (f : Analyzer) (name : ModuleName) (file : String)
      (read : Except SourceFault (List Statement)) (c : Compilation),
      (∀ body, read = .ok body →
        ∀ e ∈ evaluatedOfAll (f.module name file) (moduleSteps (f.module name file) body),
          (f.module name file).Contains e) →
        ∃ a c', f.elaborate name file read c = (.ok a, c') := by
  intro hclaim
  obtain ⟨a, c', hrun⟩ := hclaim {} ⟨"m", false⟩ "m.py" (.ok emptyAnnotated) (.empty 1 Kind.all)
    (by rintro body ⟨⟩ e he; cases he)
  have hstop : (({} : Analyzer).elaborate ⟨"m", false⟩ "m.py" (.ok emptyAnnotated)
      (.empty 1 Kind.all)).1.toOption.isSome = false := rfl
  rw [hrun] at hstop
  cases hstop

end Analyzer

end Marginalia
