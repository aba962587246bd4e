/-
What going through statements leaves behind in the compilation.

Elaborating a module changes the compilation by operations only, beside numbering and changing
the objects that evaluations make.  Whatever relation holds between the states around a declaration
site, an evaluation and a name that is made another name holds between the states before and after
the module (`ModuleSetting.Keeps.runAll`), whether a fault ends it or not.

* `ModuleSetting.KeepsEvaluating` — what holds around every evaluation holds around a first visit
  of a site, as long as it holds around what is recorded there;
* `Compilation.Reaches` — a state that operations lead to; tables are extended and marks of
  sites stay (`Compilation.Reaches.coherent`, `Compilation.Reaches.elaborated`);
* `Host.Operates` — whatever a host answers leads to such states;
* `Analyzer.reaches_analyzeText` — so does the analysis of a source text.
-/
import Marginalia.Project
import Marginalia.Proofs.ElaborationSteps
import Marginalia.Proofs.SiteElaboration
import Marginalia.Proofs.TableCalls

namespace Marginalia

/-! ### States that operations lead to -/

namespace Compilation

variable {c c' c'' : Compilation}

/-- A later state, after operations; objects may have been numbered and changed in between. -/
def Reaches (c c' : Compilation) : Prop :=
  ∃ (ops : List Operation) (n : Nat) (cs : Changes),
    c' = { c.performAll ops with created := n, changed := cs }

/-- No operation asks what objects there are. -/
theorem perform_created (c : Compilation) (op : Operation) (n : Nat) (cs : Changes) :
    ({ c with created := n, changed := cs }.perform op).1 =
      { (c.perform op).1 with created := n, changed := cs } := by
  cases op with
  | record i type value location =>
    simp only [perform, record_eq]
    split_ifs <;> rfl
  | annotate i value location given =>
    simp only [perform, annotate_eq, record_eq]
    split_ifs <;> cases value.obstacle? <;> rfl
  | elaborate i site =>
    simp only [perform, elaborate_eq]
    split_ifs <;> rfl
  | _ => rfl

theorem performAll_created (c : Compilation) (ops : List Operation) (n : Nat) (cs : Changes) :
    { c with created := n, changed := cs }.performAll ops =
      { c.performAll ops with created := n, changed := cs } := by
  induction ops generalizing c with
  | nil => rfl
  | cons op ops ih => rw [performAll_cons, performAll_cons, perform_created, ih]

theorem performAll_append (c : Compilation) (ops ops' : List Operation) :
    c.performAll (ops ++ ops') = (c.performAll ops).performAll ops' :=
  List.foldl_append

/-- Marks of sites are never taken away. -/
theorem perform_elaborated (c : Compilation) (op : Operation) :
    c.store.elaborated ⊆ (c.perform op).1.store.elaborated := by
  obtain h | ⟨i, site, -, h⟩ := perform_marks (c := c) op
  · rw [h]
    exact List.Subset.refl _
  · rw [h]
    exact List.subset_cons_self _ _

theorem Reaches.refl (c : Compilation) : c.Reaches c := ⟨[], c.created, c.changed, rfl⟩

theorem reaches_created (c : Compilation) (n : Nat) : c.Reaches { c with created := n } :=
  ⟨[], n, c.changed, rfl⟩

theorem reaches_changed (c : Compilation) (cs : Changes) : c.Reaches { c with changed := cs } :=
  ⟨[], c.created, cs, rfl⟩

theorem reaches_perform (c : Compilation) (op : Operation) : c.Reaches (c.perform op).1 :=
  ⟨[op], _, _, rfl⟩

theorem Reaches.trans (h : c.Reaches c') (h' : c'.Reaches c'') : c.Reaches c'' := by
  obtain ⟨ops, n, cs, rfl⟩ := h
  obtain ⟨ops', n', cs', rfl⟩ := h'
  exact ⟨ops ++ ops', n', cs', by rw [performAll_append, performAll_created]⟩

/-- What every operation keeps holds of every state that is reached. -/
theorem Reaches.keeps {P : Compilation → Prop} (h : c.Reaches c') (hc : P c)
    (hcreated : ∀ c n cs, P c → P { c with created := n, changed := cs })
    (hperform : ∀ c op, P c → P (c.perform op).1) : P c' := by
  obtain ⟨ops, n, cs, rfl⟩ := h
  refine hcreated _ n cs ?_
  induction ops generalizing c with
  | nil => exact hc
  | cons op ops ih => exact ih (hperform c op hc)

theorem Reaches.extends (h : c.Reaches c') : c.table.Extends c'.table :=
  h.keeps (P := fun c' => c.table.Extends c'.table) (.refl _) (fun _ _ _ hc => hc)
    fun c₁ op hc => by
    obtain ⟨calls, hcalls⟩ := c₁.exists_calls_perform op
    rw [hcalls]
    exact hc.trans (Table.extends_after _ calls)

theorem Reaches.coherent (h : c.Reaches c') (hc : c.table.Coherent) : c'.table.Coherent :=
  h.keeps (P := fun c => c.table.Coherent) hc (fun _ _ _ hc => hc) fun c₁ op hc => by
    obtain ⟨calls, hcalls⟩ := c₁.exists_calls_perform op
    rw [hcalls]
    exact hc.after calls

theorem Reaches.consistent (h : c.Reaches c') (hc : c.Consistent) : c'.Consistent :=
  h.keeps hc (fun _ _ _ hc => ⟨hc.numbered, hc.owned, hc.ofClass, hc.counted⟩)
    fun _ op hc => hc.perform op

/-- A site that was gone through counts as such ever after. -/
theorem Reaches.elaborated (h : c.Reaches c') : c.store.elaborated ⊆ c'.store.elaborated :=
  h.keeps (P := fun c' => c.store.elaborated ⊆ c'.store.elaborated) (List.Subset.refl _)
    (fun _ _ _ hc => hc) fun c₁ op hc => List.Subset.trans hc (perform_elaborated c₁ op)

end Compilation

/-- Whatever a host answers changes the compilation by operations only, beside making and changing
objects. -/
def Host.Operates (h : Host) : Prop :=
  ∀ (f : Value) (a : Arguments) (c : Compilation), c.Reaches (h.answer f a c).2

/-- A host that refuses all calls changes nothing. -/
theorem Host.operates_default : ({} : Host).Operates :=
  answer_of_calls (fun _ _ c => .refl c) fun _ _ c => .refl c

theorem Host.Operates.contained {s : Setting} (h : s.host.Operates) :
    s.Contained Compilation.Reaches where
  refl := .refl
  trans := .trans
  created c := c.reaches_created _
  changed c cs := c.reaches_changed cs
  called f a c := (c.reaches_perform .enter).trans
    ((h f a _).trans (Compilation.reaches_perform _ .leave))

/-! ### Relations that a module keeps -/

/-- A relation holds between the compilation before a run and after it. -/
def Elaboration.Keeps {α : Type} (R : Compilation → Compilation → Prop) (x : Elaboration α)
    (s : Findings) : Prop :=
  R s.compilation (outcome x s).2.compilation

section

variable {α β : Type} {m : ModuleSetting} {R : Compilation → Compilation → Prop} {s : Findings}

theorem Elaboration.Keeps.seq (htrans : ∀ c c' c'', R c c' → R c' c'' → R c c'')
    {x : Elaboration α} {f : α → Elaboration β} (hx : Elaboration.Keeps R x s)
    (hf : ∀ a s', outcome x s = (.ok a, s') → Elaboration.Keeps R (f a) s') :
    Elaboration.Keeps R (x >>= f) s := by
  unfold Elaboration.Keeps at hx ⊢
  rw [outcome_bind]
  split
  · rename_i a s' hrun
    rw [hrun] at hx
    exact htrans _ _ _ hx (hf a s' hrun)
  · rename_i e s' hrun
    rwa [hrun] at hx

/-- Items keep what the evaluation of each of them keeps. -/
theorem Elaboration.Keeps.values (hrefl : ∀ c, R c c)
    (htrans : ∀ c c' c'', R c c' → R c' c'' → R c c'') {items : List (AnnotationItem Expr)}
    (hitems : ∀ a ∈ items, ∀ s, Elaboration.Keeps R (value m a.expression) s) :
    Elaboration.Keeps R (values m items) s := by
  induction items generalizing s with
  | nil => exact hrefl _
  | cons a rest ih =>
    obtain ⟨hfirst, hrest⟩ := List.forall_mem_cons.mp hitems
    rw [Elaboration.values]
    refine Elaboration.Keeps.seq htrans (hfirst s) fun r s₁ _ => ?_
    cases r with
    | error e => exact hrefl _
    | ok k =>
      dsimp only
      cases Compilation.checkStructural k.value (some a.location) with
      | error e => exact hrefl _
      | ok v =>
        refine Elaboration.Keeps.seq htrans (ih hrest) fun r s₂ _ => ?_
        cases r <;> exact hrefl _

end

/-- Where no annotation is written, there is nothing to record. -/
theorem Elaboration.siteValues_of_none {m : ModuleSetting} {kind : Kind} {groups : Groups}
    {c : Compilation} {s s' : Findings} {found : List (Location × Value)}
    (hnone : groups.own.flatMap Group.annotations = [])
    (h : outcome (siteValues m kind groups c) s = (.ok found, s')) : found = [] := by
  unfold siteValues itemValues at h
  cases hvalid : groups.validate kind c with
  | error e =>
    rw [hvalid] at h
    cases h
    rfl
  | ok items =>
    rw [hvalid, annotations_of_validate hvalid, hnone] at h
    cases h
    rfl

/-- A relation that holds between the states around every evaluation in a module. -/
def ModuleSetting.KeepsEvaluating (m : ModuleSetting) (R : Compilation → Compilation → Prop) :
    Prop :=
  ∀ scope : Scope, (m.setting scope).Contained R

namespace ModuleSetting.KeepsEvaluating

open Elaboration

variable {α β : Type} {m : ModuleSetting} {R : Compilation → Compilation → Prop}
  {s : Findings} (h : m.KeepsEvaluating R)

include h

theorem of_eq {x : Elaboration α} (hx : (outcome x s).2.compilation = s.compilation) :
    Elaboration.Keeps R x s := by
  unfold Elaboration.Keeps
  rw [hx]
  exact (h {}).refl _

theorem seq {x : Elaboration α} {f : α → Elaboration β} (hx : Elaboration.Keeps R x s)
    (hf : ∀ a s', outcome x s = (.ok a, s') → Elaboration.Keeps R (f a) s') :
    Elaboration.Keeps R (x >>= f) s :=
  Elaboration.Keeps.seq (R := R) (fun _ _ _ => (h {}).trans) hx hf

theorem lift (r : Except Fault α) : Elaboration.Keeps R (liftM r : Elaboration α) s := by
  cases r <;> exact h.of_eq rfl

theorem refuseIn (es : List Expr) : Elaboration.Keeps R (refuseIn m es) s := by
  refine h.seq (h.lift _) fun groups s₁ _ => h.seq (h.of_eq rfl) fun s₂ _ _ => ?_
  split <;> exact h.of_eq rfl

theorem value (e : Expr) : Elaboration.Keeps R (value m e) s := by
  have hhold := (h s.scope).keeps_hold e s.compilation
  unfold Elaboration.Keeps
  rw [outcome_value]
  split <;> simp_all

theorem values (items : List (AnnotationItem Expr)) : Elaboration.Keeps R (values m items) s :=
  Elaboration.Keeps.values (R := R) (h {}).refl (fun _ _ _ => (h {}).trans)
    fun a _ _ => h.value a.expression

theorem bindTo (name : String) (e : Option Expr) : Elaboration.Keeps R (bindTo m name e) s := by
  unfold Elaboration.bindTo
  cases e with
  | none => exact h.of_eq rfl
  | some e =>
    refine h.seq (h.value e) fun r s₁ _ => ?_
    cases r <;> exact h.of_eq rfl

theorem inChild {run : Elaboration Unit} (hrun : ∀ s, Elaboration.Keeps R run s) :
    Elaboration.Keeps R (inChild run) s :=
  h.seq (h.of_eq rfl) fun _ _ _ => h.seq (h.of_eq rfl) fun _ s₁ _ =>
    h.seq (hrun s₁) fun _ _ _ => h.of_eq rfl

theorem itemValues (kind : Kind) (groups : Groups) (c : Compilation) :
    Elaboration.Keeps R (itemValues m kind groups c) s := by
  unfold Elaboration.itemValues
  cases groups.validate kind c with
  | error e => exact h.of_eq rfl
  | ok items => exact h.values items

theorem siteValues (kind : Kind) (groups : Groups) (c : Compilation) :
    Elaboration.Keeps R (siteValues m kind groups c) s := by
  refine h.seq (h.itemValues kind groups c) fun r s₁ _ => ?_
  cases r with
  | error e => exact h.of_eq rfl
  | ok vs => exact h.of_eq rfl

/-- The first visit of a site keeps a relation when the recording does; where no annotation is
written, nothing is recorded. -/
theorem firstVisit {kind : Kind} {qualname : String} {site : Location} {groups : Groups}
    {i : Identity} {c : Compilation}
    (hrecord : ∀ (vs : List (Location × Value)) (c : Compilation),
      (groups.own.flatMap Group.annotations = [] → vs = []) → R c (recordAll i vs c)) :
    Elaboration.Keeps R (annotateSite m kind qualname site groups i c) s := by
  rw [annotateSite_eq]
  -- without an annotation the values are none, whatever the checks have come to
  exact h.seq (h.siteValues kind groups c) fun vs s₁ hrun =>
    h.seq (hrecord vs s₁.compilation fun hnone => siteValues_of_none hnone hrun) fun _ _ _ =>
      h.of_eq rfl

end ModuleSetting.KeepsEvaluating

/-- A relation that holds between the states around everything a module does to the compilation
beside going through declaration sites. -/
structure ModuleSetting.KeepsAside (m : ModuleSetting) (R : Compilation → Compilation → Prop) :
    Prop where
  evaluated (scope : Scope) : (m.setting scope).Contained R
  declared (kind : Kind) (qualname : String) (site : Location) (c : Compilation) :
    R c (c.declare kind m.name.dotted qualname site).1
  aliased (name targetModule targetName : String) (c : Compilation) :
    R c (c.addAlias m.name.dotted name targetModule targetName)

/-- A relation that holds between the states around everything a module does to the compilation
beside recording. -/
structure ModuleSetting.Keeps (m : ModuleSetting) (R : Compilation → Compilation → Prop) : Prop
    extends m.KeepsAside R where
  entered (i : Identity) (site : Location) (c c' : Compilation)
    (first : c.elaborate i site = .ok (c', true)) : R c c'

mutual

/-- The declarations that a step makes in any case, each with its module, name and kind and with
its site. -/
def ElaborationStep.sites (m : ModuleSetting) : ElaborationStep → List (DeclarationKey × Location)
  | .declare kind qualname p _ => [((m.name.dotted, qualname, kind), p.inFile m.file)]
  | .inside steps => Elaboration.sitesOfAll m steps
  | _ => []

/-- The declarations that steps make in any case. -/
def Elaboration.sitesOfAll (m : ModuleSetting) :
    List ElaborationStep → List (DeclarationKey × Location)
  | [] => []
  | step :: rest => step.sites m ++ Elaboration.sitesOfAll m rest

end

/-- A relation holds between the states around each of some declaration sites, whatever groups
are written there. -/
def ModuleSetting.KeepsAt (m : ModuleSetting) (R : Compilation → Compilation → Prop)
    (sites : List (DeclarationKey × Location)) : Prop :=
  ∀ (kind : Kind) (qualname : String) (site : Location),
    ((m.name.dotted, qualname, kind), site) ∈ sites →
      ∀ (groups : Elaboration.Groups) (s : Findings),
        Elaboration.Keeps R (Elaboration.declare m kind qualname site groups) s

theorem ModuleSetting.KeepsAt.mono {m : ModuleSetting} {R : Compilation → Compilation → Prop}
    {sites sites' : List (DeclarationKey × Location)} (h : m.KeepsAt R sites')
    (hsites : sites ⊆ sites') : m.KeepsAt R sites :=
  fun kind qualname site hsite => h kind qualname site (hsites hsite)

namespace ModuleSetting.KeepsAside

open Elaboration

variable {m : ModuleSetting} {b : Body} {R : Compilation → Compilation → Prop} {s : Findings}
  (h : m.KeepsAside R)

include h

theorem evaluating : m.KeepsEvaluating R := h.evaluated

theorem bindImported (name module target : String) :
    Elaboration.Keeps R (bindImported m b name module target) s :=
  h.evaluating.seq (h.aliased _ _ _ _) fun _ _ _ => h.evaluating.of_eq rfl

theorem tryAlias (name : String) (e : Expr) : Elaboration.Keeps R (tryAlias m b name e) s := by
  have hsame := fun {α : Type} {x : Elaboration α} {s} => h.evaluating.of_eq (x := x) (s := s)
  unfold Elaboration.tryAlias
  cases e.dottedName? with
  | none => exact hsame rfl
  | some dotted =>
    refine h.evaluating.seq (hsame rfl) fun s₀ s₁ _ => ?_
    split
    · exact hsame rfl
    · split
      · exact hsame rfl
      · exact h.evaluating.seq (h.aliased _ _ _ _) fun _ _ _ =>
          h.evaluating.seq (hsame rfl) fun _ _ _ => hsame rfl

end ModuleSetting.KeepsAside

namespace ModuleSetting.Keeps

open Elaboration

variable {m : ModuleSetting} {b : Body} {R : Compilation → Compilation → Prop} {s : Findings}
  (h : m.Keeps R)

include h

section

variable {kind : Kind} {qualname : String} {site : Location} {groups : Groups}

/-- Every visit of a site keeps a relation when the recording does. -/
theorem visit (hrecord : ∀ (i : Identity) (vs : List (Location × Value)) (c : Compilation),
      (groups.own.flatMap Group.annotations = [] → vs = []) → R c (recordAll i vs c)) :
    Elaboration.Keeps R (declare m kind qualname site groups) s := by
  have hdeclared := h.declared kind qualname site s.compilation
  unfold Elaboration.Keeps
  rw [outcome_declare]
  generalize s.compilation.declare kind m.name.dotted qualname site = declared at hdeclared ⊢
  obtain ⟨c, i⟩ := declared
  dsimp only
  split
  · rename_i c' hfirst
    have hvisit : Elaboration.Keeps R (annotateSite m kind qualname site groups i c')
        { s with compilation := c' } := h.evaluating.firstVisit (hrecord i)
    exact (h.evaluated {}).trans hdeclared
      ((h.evaluated {}).trans (h.entered i site c c' hfirst) hvisit)
  · exact hdeclared

end

theorem assign (p : Place) (name : String) (e : Expr) :
    Elaboration.Keeps R ((ElaborationStep.assign b p name e).run m) s := by
  rw [run_assign]
  refine h.evaluating.seq (h.tryAlias name e) fun made s₁ _ => ?_
  cases made with
  | true => exact h.evaluating.of_eq rfl
  | false =>
    refine h.evaluating.seq (h.visit fun i vs c hvs => ?_) fun _ _ _ => h.evaluating.bindTo _ _
    -- no groups are written at a name that is assigned
    rw [hvs rfl]
    exact (h.evaluated {}).refl c

mutual

theorem step : ∀ step : ElaborationStep, m.KeepsAt R (step.sites m) →
    ∀ s, Elaboration.Keeps R (step.run m) s
  | .declare kind qualname p written, hsites, s => by
    rw [ElaborationStep.run]
    have heval := h.evaluating
    exact heval.seq (heval.lift written) fun w _ _ =>
      heval.seq (heval.lift (w.groups m)) fun groups s₂ _ =>
        hsites kind qualname _ (by simp [ElaborationStep.sites]) groups s₂
  | .refuse es, _, s => by
    rw [ElaborationStep.run]
    exact h.evaluating.refuseIn es
  | .bind name value, _, s => by
    rw [ElaborationStep.run]
    exact h.evaluating.bindTo name value
  | .assign b p name value, _, s => h.assign p name value
  | .imported b name module target, _, s => by
    rw [ElaborationStep.run]
    exact h.bindImported name module target
  | .inside steps, hsites, s => by
    rw [ElaborationStep.sites] at hsites
    rw [ElaborationStep.run]
    exact h.evaluating.inChild (runAll steps hsites)

/-- Steps keep a relation when their declarations do. -/
theorem runAll : ∀ steps : List ElaborationStep, m.KeepsAt R (sitesOfAll m steps) →
    ∀ s, Elaboration.Keeps R (Elaboration.runAll m steps) s
  | [], _, s => h.evaluating.of_eq rfl
  | st :: rest, hsites, s => by
    rw [sitesOfAll] at hsites
    rw [Elaboration.runAll]
    exact h.evaluating.seq (step st (hsites.mono (List.subset_append_left _ _)) s)
      fun _ s₁ _ => runAll rest (hsites.mono (List.subset_append_right _ _)) s₁

end

end ModuleSetting.Keeps

/-! ### A module goes on by operations -/

namespace Compilation

theorem reaches_elaborate {c c' : Compilation} {i : Identity} {site : Location} {first : Bool}
    (h : c.elaborate i site = .ok (c', first)) : c.Reaches c' := by
  have hperform := c.reaches_perform (.elaborate i site)
  rw [perform, h] at hperform
  exact hperform

theorem reaches_recordAll (i : Identity) (lvs : List (Location × Value)) (c : Compilation) :
    c.Reaches (Elaboration.recordAll i lvs c) := by
  induction lvs generalizing c with
  | nil => exact .refl c
  | cons lv lvs ih =>
    obtain ⟨l, v⟩ := lv
    have hperform := c.reaches_perform (.record i v.typeOf v l)
    rw [Elaboration.recordAll]
    rw [perform] at hperform
    split
    · rename_i c' r hrecord
      rw [hrecord] at hperform
      exact hperform.trans (ih c')
    · exact ih c

variable {c c₁ : Compilation} {kind : Kind} {module qualname : String} {site : Location}
  {i : Identity}

/-- A declaration answers the identity of the entry of its kind and name. -/
theorem exists_declared (hdeclared : c.declare kind module qualname site = (c₁, i)) :
    c.Reaches c₁ ∧ ∃ d ∈ c₁.table.entries, d.identity = i ∧ d.key = (module, qualname, kind) := by
  have hreaches := c.reaches_perform (.declare kind module qualname site)
  have hentry := c.table.declare_entry kind module qualname site
  cases hdeclared
  exact ⟨hreaches, hentry⟩

/-- An identity that was just declared is live, and one of its sites is passed over or marked. -/
theorem elaborate_declared (hcoherent : c.table.Coherent)
    (hdeclared : c.declare kind module qualname site = (c₁, i)) :
    (i, site) ∈ c₁.store.elaborated ∧ c₁.elaborate i site = .ok (c₁, false) ∨
      c₁.elaborate i site = .ok (Elaboration.entered c₁ i site, true) := by
  obtain ⟨hreaches, d, hd, rfl, -⟩ := exists_declared hdeclared
  have hlive := (hreaches.coherent hcoherent).numbered.isLive hd
  by_cases hsite : (d.identity, site) ∈ c₁.store.elaborated
  · exact .inl ⟨hsite, by rw [Compilation.elaborate_eq, if_pos hlive, if_pos hsite]⟩
  · exact .inr (Elaboration.elaborate_first hlive hsite)

end Compilation

namespace Host.Operates

variable {m : ModuleSetting} (h : m.host.Operates)

include h

theorem keeps : m.Keeps Compilation.Reaches where
  evaluated scope := Host.Operates.contained (s := m.setting scope) h
  declared kind qualname site c := c.reaches_perform (.declare kind m.name.dotted qualname site)
  entered _ _ _ _ first := Compilation.reaches_elaborate first
  aliased name tm tn c := c.reaches_perform (.addAlias m.name.dotted name tm tn)

theorem keepsAt (sites : List (DeclarationKey × Location)) : m.KeepsAt Compilation.Reaches sites :=
  fun _ _ _ _ _ _ => h.keeps.visit fun i vs c _ => Compilation.reaches_recordAll i vs c

theorem reaches_runAll (steps : List ElaborationStep) (s : Findings) :
    s.compilation.Reaches (outcome (Elaboration.runAll m steps) s).2.compilation :=
  h.keeps.runAll steps (h.keepsAt _) s

end Host.Operates

namespace Analyzer

/-- What stays the same while a source text is gone through. -/
def module (f : Analyzer) (name : ModuleName) (file : String) : ModuleSetting :=
  { host := f.host, spellings := f.spellings, name, file }

/-- Elaborates what was read from the text of a module: its statements, or why there are none. -/
def elaborate (f : Analyzer) (name : ModuleName) (file : String)
    (read : Except SourceFault (List Statement)) (c : Compilation) :
    Except Fault Analysis × Compilation :=
  match read with
  | .error fault => (.ok { diagnostics := [⟨file, .malformed fault⟩] }, c)
  | .ok body =>
    match outcome (Elaboration.wholeModule (f.module name file) body) { compilation := c } with
    | (.ok (), s) => (.ok ⟨s.sites, s.diagnostics⟩, s.compilation.forget c.created)
    | (.error fault, s) => (.error fault, s.compilation.forget c.created)

/-- A text is read first; what the state is does not matter to that. -/
theorem analyzeText_eq (f : Analyzer) (name : ModuleName) (file source : String)
    (c : Compilation) :
    f.analyzeText name file source c = f.elaborate name file (f.readSource source) c := by
  unfold analyzeText elaborate
  cases f.readSource source with
  | error fault => rfl
  | ok body =>
    dsimp only
    unfold outcome module
    generalize (Elaboration.wholeModule ⟨f.host, f.spellings, name, file⟩ body).run.run
      { compilation := c } = run
    obtain ⟨_ | _, s⟩ := run <;> rfl

variable {f : Analyzer} {name : ModuleName} {file : String}

theorem elaborate_compilation (body : List Statement) (c : Compilation) :
    (f.elaborate name file (.ok body) c).2 =
      (outcome (Elaboration.wholeModule (f.module name file) body)
        { compilation := c }).2.compilation.forget c.created := by
  unfold elaborate
  dsimp only
  split <;> simp_all

/-- An analysis that answers has gone through the steps of the module. -/
theorem exists_run {body : List Statement} {c c' : Compilation} {a : Analysis}
    (h : f.elaborate name file (.ok body) c = (.ok a, c')) :
    ∃ s, outcome (Elaboration.runAll (f.module name file)
        (Elaboration.moduleSteps (f.module name file) body)) { compilation := c } =
          (.ok (), s) ∧
      a = ⟨s.sites, s.diagnostics⟩ ∧ c' = s.compilation.forget c.created := by
  unfold elaborate at h
  dsimp only at h
  rw [← Elaboration.wholeModule_eq]
  split at h
  · rename_i s hrun
    cases h
    exact ⟨s, hrun, rfl, rfl⟩
  · cases h

theorem elaborate_of_run {body : List Statement} {c : Compilation} {s : Findings}
    (h : outcome (Elaboration.runAll (f.module name file)
      (Elaboration.moduleSteps (f.module name file) body)) { compilation := c } = (.ok (), s)) :
    f.elaborate name file (.ok body) c =
      (.ok ⟨s.sites, s.diagnostics⟩, s.compilation.forget c.created) := by
  unfold elaborate
  dsimp only
  rw [Elaboration.wholeModule_eq, h]

/-- An analysis leads to a state that operations lead to, whatever comes of it. -/
theorem reaches_elaborate (h : f.host.Operates) (read : Except SourceFault (List Statement))
    (c : Compilation) : c.Reaches (f.elaborate name file read c).2 := by
  cases read with
  | error fault => exact .refl c
  | ok body =>
    rw [elaborate_compilation, Elaboration.wholeModule_eq]
    exact (Host.Operates.reaches_runAll (m := f.module name file) h _ { compilation := c }).trans
      (Compilation.reaches_changed _ _)

theorem reaches_analyzeText (h : f.host.Operates) (source : String) (c : Compilation) :
    c.Reaches (f.analyzeText name file source c).2 := by
  rw [analyzeText_eq]
  exact reaches_elaborate h _ c

end Analyzer

end Marginalia
