/-
Runs under other tokens.

When the tokens of a compilation are permuted, everything that is run on it comes to the same as
before, with the tokens permuted in what it answers and in what it leaves behind.  That much has to
be asked of the functions of a host; of the rest it holds.

* `CarriedOver` — a computation that does so, with its rules for sequences;
* `Host.Retokens` — a host whose functions do not tell tokens apart;
* `Host.Retokens.hold` — the evaluation of an expression is carried over;
* `Host.Retokens.runAll` — so are the steps of a module;
* `Analyzer.analyzeFiles_retoken` — and the analysis of source files.
-/
import Marginalia.Proofs.AnnotationValues
import Marginalia.Proofs.ElaborationEffect
import Marginalia.Proofs.EvaluationEffect
import Marginalia.Proofs.Retokening

namespace Marginalia

/-! ### Computations that are carried over -/

section

variable {ε ρ α α' β β' : Type} {g : ρ → ρ} {k : ε → ε}

/-- From states that were carried over by `g`, a computation comes to what another one comes to
from the states as they were: what it answers and what it stops with is carried over, and so is the
state it leaves. -/
def CarriedOver (g : ρ → ρ) (k : ε → ε) (r : α → α') (x : ExceptT ε (StateM ρ) α)
    (x' : ExceptT ε (StateM ρ) α') : Prop :=
  ∀ s, outcome x' (g s) = (((outcome x s).1.map r).mapError k, g (outcome x s).2)

namespace CarriedOver

variable {r : α → α'} {q : β → β'} {x : ExceptT ε (StateM ρ) α} {x' : ExceptT ε (StateM ρ) α'}
  {f : α → ExceptT ε (StateM ρ) β} {f' : α' → ExceptT ε (StateM ρ) β'}

theorem pure (a : α) : CarriedOver g k r (Pure.pure a) (Pure.pure (r a)) := fun _ => rfl

theorem bind (hx : CarriedOver g k r x x')
    (hf : ∀ a s s', outcome x s = (.ok a, s') → CarriedOver g k q (f a) (f' (r a))) :
    CarriedOver g k q (x >>= f) (x' >>= f') := by
  intro s
  rw [outcome_bind, outcome_bind, hx s]
  cases hrun : outcome x s with
  | mk result s' =>
    cases result with
    | error e => rfl
    | ok a => exact hf a s s' hrun s'

theorem seq (hx : CarriedOver g k r x x') (hf : ∀ a, CarriedOver g k q (f a) (f' (r a))) :
    CarriedOver g k q (x >>= f) (x' >>= f') :=
  hx.bind fun a _ _ _ => hf a

end CarriedOver

end

variable {σ : Equiv.Perm Int}

/-! ### Evaluations -/

def HostStop.retoken (σ : Equiv.Perm Int) : HostStop → HostStop
  | rejected e => rejected (e.retoken σ)
  | failed f => failed f

def EvaluationStop.retoken (σ : Equiv.Perm Int) : EvaluationStop → EvaluationStop
  | rejected e => rejected (e.retoken σ)
  | escaped f => escaped f

/-- A host does not tell tokens apart: when the tokens are permuted in the compilation that it sees,
they are permuted in what it answers and leaves behind. -/
def Host.Retokens (h : Host) (σ : Equiv.Perm Int) : Prop :=
  ∀ (f : Value) (a : Arguments) (c : Compilation), h.answer f a (c.retoken σ) =
    ((h.answer f a c).1.mapError (HostStop.retoken σ), (h.answer f a c).2.retoken σ)

/-- Nothing is asked of a host when the tokens stay. -/
theorem Host.retokens_refl (h : Host) : h.Retokens (Equiv.refl Int) := by
  have hstop : ∀ stop : HostStop, stop.retoken (Equiv.refl Int) = stop := by
    intro stop
    cases stop with
    | rejected e => exact congrArg HostStop.rejected e.retoken_refl
    | failed f => rfl
  intro f a c
  rw [Compilation.retoken_refl, Compilation.retoken_refl]
  obtain ⟨stop | v, c'⟩ := h.answer f a c
  · exact Prod.ext (congrArg Except.error (hstop stop).symm) rfl
  · rfl

/-- What is evaluated under other tokens comes to the same. -/
abbrev Evaluation.Retokens {α : Type} (σ : Equiv.Perm Int) (x : Evaluation α) : Prop :=
  CarriedOver (Compilation.retoken σ) (EvaluationStop.retoken σ) id x x

theorem Cause.OfExpression.retoken {c : Cause} (h : c.OfExpression) : c.retoken σ = c := by
  cases c with
  | notLive | ambiguous => exact h.elim
  | _ => rfl

namespace Host.Retokens

section

variable {s : Setting} (h : s.host.Retokens σ)

theorem fail {α : Type} (p : Place) (f : Fault) :
    Evaluation.Retokens σ (s.fail p f : Evaluation α) := by
  unfold Setting.fail
  split <;> exact fun _ => rfl

theorem made (p : Place) (operands : List Held) (r : Except Fault Value) :
    Evaluation.Retokens σ (s.made p operands r) := by
  have hsettled : Evaluation.Retokens σ (s.settle p r) := by
    cases r with
    | error f => exact fail p f
    | ok v => exact .pure v
  refine hsettled.seq fun v => ?_
  rw [id_eq]
  split
  · exact .pure _
  · exact fun _ => rfl

theorem answered (p : Place) (operands : List Held) (r : Except HostStop Value) :
    CarriedOver (Compilation.retoken σ) (EvaluationStop.retoken σ) id (s.answered p operands r)
      (s.answered p operands (r.mapError (HostStop.retoken σ))) := by
  obtain (e | f) | v := r
  · exact fun _ => rfl
  · exact fail p f
  · exact made p operands (.ok v)

include h

/-- Whatever is called, only the host looks at the tokens. -/
theorem callValue (f : Value) (a : Arguments) (c : Compilation) :
    s.host.callValue f a (c.retoken σ) =
      ((s.host.callValue f a c).1.mapError (HostStop.retoken σ),
        (s.host.callValue f a c).2.retoken σ) := by
  -- what the host is not asked about leaves the compilation alone
  have hpure : ∀ r : Except Fault Value, ((r.mapError HostStop.failed, c.retoken σ) :
      Except HostStop Value × Compilation) =
        ((r.mapError HostStop.failed).mapError (HostStop.retoken σ), c.retoken σ) := by
    intro r
    cases r <;> rfl
  unfold Host.callValue
  split
  · unfold Host.callClass
    split
    · exact hpure _
    · exact h _ a c
  · unfold Host.callMethod
    split
    · rfl
    · rfl
    · split
      · exact hpure _
      · exact h _ a c
  · exact h f a c

theorem invoke (p : Place) (f : Value) (positional : List Held) (named : List (String × Value)) :
    Evaluation.Retokens σ (s.invoke p f positional named) := by
  intro c
  cases hnamed : named.find? fun e => reservedKeywords.contains e.1 with
  | some e =>
    unfold Setting.invoke
    rw [hnamed]
    rfl
  | none =>
    have hcalled := h.callValue f ⟨positional.map Held.value, named⟩
      { c with store := c.store.enter }
    -- the guard that is put up for the call has no token in it
    have hentered : { c.retoken σ with store := (c.retoken σ).store.enter } =
        Compilation.retoken σ { c with store := c.store.enter } := rfl
    rw [Setting.outcome_invoke hnamed, Setting.outcome_invoke hnamed, hentered, hcalled]
    generalize s.host.callValue f ⟨positional.map Held.value, named⟩
      { c with store := c.store.enter } = called
    exact answered p _ called.1 { called.2 with store := called.2.store.leave }

theorem closed : s.Closed (fun _ => True) (Evaluation.Retokens σ) where
  pure a := .pure a
  bind hx hf := hx.bind hf
  reject p hc c := by
    show (_, _) = (Except.error (EvaluationStop.rejected ⟨Cause.retoken σ _, _⟩), _)
    -- no identity is part of what is refused about an expression
    rw [hc.retoken]
    rfl
  blame p _ _ := fail p _
  miss _ k := fail _ (.missingKey k)
  asOfNow _ _ := rfl
  arranged _ _ := rfl
  fresh _ _ := rfl
  invoke _ f positional _ _ := h.invoke _ f positional _

/-- An expression has the same value under other tokens. -/
theorem hold (e : Expr) : Evaluation.Retokens σ (e.hold s) := h.closed.hold e fun _ _ => trivial

end

end Host.Retokens

/-! ### Elaborations -/

def Findings.retoken (σ : Equiv.Perm Int) (s : Findings) : Findings where
  compilation := s.compilation.retoken σ
  scope := s.scope
  sites := s.sites.map (ElaboratedSite.retoken σ)
  diagnostics := s.diagnostics.map (Diagnostic.retoken σ)

/-- A placement is refused for what is written there, which no token is part of. -/
theorem Placement.retoken_of_validate {α : Type} {p : Placement α} {ks : List Kind}
    {e : AnnotationError} (h : p.validate ks = .error e) : e.retoken σ = e := by
  unfold Placement.validate at h
  split at h
  · rename_i e' hmixed
    cases h
    obtain ⟨group, -, hgroup⟩ := List.exists_of_findSome?_eq_some hmixed
    unfold Group.mixed? at hgroup
    split at hgroup <;> cases hgroup
    rfl
  · split at h
    · cases h
    · split at h
      · rename_i c hobjection
        cases h
        unfold objection? at hobjection
        split at hobjection <;> first | cases hobjection; rfl | skip
        split_ifs at hobjection
        cases hobjection
        rfl
      · cases h

theorem Elaboration.Groups.retoken_of_validate {g : Groups} {kind : Kind} {c : Compilation}
    {e : AnnotationError} (h : g.validate kind c = .error e) : e.retoken σ = e := by
  unfold validate at h
  cases htypes : c.validate ⟨some kind, .typeSpecifier, g.types⟩ with
  | error e' =>
    rw [htypes] at h
    cases h
    exact Placement.retoken_of_validate htypes
  | ok _ =>
    cases hvalue : c.validate ⟨none, .statement, g.value⟩ with
    | error e' =>
      rw [htypes, hvalue] at h
      cases h
      exact Placement.retoken_of_validate hvalue
    | ok _ =>
      rw [htypes, hvalue] at h
      exact Placement.retoken_of_validate h

theorem Elaboration.denoted?_retoken (σ : Equiv.Perm Int) (t : Table) (module : String)
    (names : List String) :
    denoted? (t.retoken σ) module names =
      (denoted? t module names).map (Declaration.retoken σ) := by
  unfold denoted?
  rw [show (t.retoken σ).resolve? module = Option.map (Identity.retoken σ) ∘ t.resolve? module
    from funext (t.resolve?_retoken σ module), ← List.map_findSome?]
  cases names.findSome? (t.resolve? module) with
  | none => rfl
  | some i =>
    simp only [Option.map_some, Option.bind_some, Table.get_retoken]
    cases t.get i <;> rfl

namespace Elaboration

/-- What is run under other tokens comes to the same; what it answers is carried over by `r`. -/
abbrev Retokens {α α' : Type} (σ : Equiv.Perm Int) (r : α → α') (x : Elaboration α)
    (x' : Elaboration α') : Prop :=
  CarriedOver (Findings.retoken σ) id r x x'

namespace Retokens

variable {α : Type} {m : ModuleSetting} {b : Body}

theorem lift (r : Except Fault α) : Retokens σ id (liftM r : Elaboration α) (liftM r) := by
  cases r <;> exact fun _ => rfl

theorem get : Retokens σ (Findings.retoken σ) (get : Elaboration Findings) get := fun _ => rfl

theorem modify {f f' : Findings → Findings} (h : ∀ s, f' (s.retoken σ) = (f s).retoken σ) :
    Retokens σ id (modify f : Elaboration Unit) (modify f') :=
  fun s => congrArg (Prod.mk _) (h s)

theorem onScope (f : Scope → Scope) :
    Retokens σ id (Elaboration.onScope f) (Elaboration.onScope f) :=
  .modify fun _ => rfl

theorem onCompilation {f f' : Compilation → Compilation}
    (h : ∀ c, f' (c.retoken σ) = (f c).retoken σ) :
    Retokens σ id (Elaboration.onCompilation f) (Elaboration.onCompilation f') :=
  .modify fun s => by simp [Findings.retoken, h]

theorem report (e : AnnotationError) :
    Retokens σ id (Elaboration.report m e) (Elaboration.report m (e.retoken σ)) :=
  .modify fun s => by simp [Findings.retoken, Diagnostic.retoken]

theorem refuseIn (es : List Expr) :
    Retokens σ id (Elaboration.refuseIn m es) (Elaboration.refuseIn m es) := by
  refine (lift _).seq fun groups => get.seq fun s => ?_
  have hvalidate : (s.retoken σ).compilation.validate ⟨none, .statement, groups⟩ =
      s.compilation.validate ⟨none, .statement, groups⟩ := rfl
  rw [id_eq, hvalidate]
  cases h : s.compilation.validate ⟨none, .statement, groups⟩ with
  | ok items => exact .pure ()
  | error e =>
    have hreport := report (σ := σ) (m := m) e
    rwa [Placement.retoken_of_validate h] at hreport

theorem bindImported (name module target : String) :
    Retokens σ id (Elaboration.bindImported m b name module target)
      (Elaboration.bindImported m b name module target) :=
  (onCompilation fun c => c.addAlias_retoken σ _ _ _ _).seq fun _ => onScope _

theorem tryAlias (name : String) (e : Expr) :
    Retokens σ id (Elaboration.tryAlias m b name e) (Elaboration.tryAlias m b name e) := by
  unfold Elaboration.tryAlias
  cases e.dottedName? with
  | none => exact .pure false
  | some dotted =>
    refine get.seq fun s => ?_
    rw [show (s.retoken σ).compilation.table = s.compilation.table.retoken σ from rfl,
      denoted?_retoken]
    cases denoted? s.compilation.table m.name.dotted _ with
    | none => exact .pure false
    | some d =>
      dsimp only [Option.map_some]
      rw [show (d.retoken σ).kind = d.kind from rfl]
      split
      · exact .pure false
      · exact (onCompilation fun c => c.addAlias_retoken σ _ _ _ _).seq fun _ =>
          (onScope _).seq fun _ => .pure true

end Retokens

end Elaboration

/-! ### Modules -/

namespace Host.Retokens

open Elaboration

variable {m : ModuleSetting} {b : Body} (h : m.host.Retokens σ)

include h

theorem value (e : Expr) :
    Elaboration.Retokens σ (Except.mapError (AnnotationError.retoken σ)) (Elaboration.value m e)
      (Elaboration.value m e) := by
  intro s
  have hhold := Host.Retokens.hold (s := m.setting s.scope) h e s.compilation
  rw [outcome_value, outcome_value, show (s.retoken σ).scope = s.scope from rfl,
    show (s.retoken σ).compilation = s.compilation.retoken σ from rfl, hhold]
  generalize outcome (e.hold (m.setting s.scope)) s.compilation = held
  obtain ⟨(e | f) | k, c⟩ := held <;> rfl

theorem values (items : List (AnnotationItem Expr)) :
    Elaboration.Retokens σ (Except.mapError (AnnotationError.retoken σ))
      (Elaboration.values m items) (Elaboration.values m items) := by
  induction items with
  | nil => exact .pure (Except.ok [])
  | cons a rest ih =>
    rw [Elaboration.values]
    refine (h.value a.expression).seq fun r => ?_
    cases r with
    | error e => exact .pure (Except.error e)
    | ok k =>
      dsimp only [Except.mapError]
      unfold Compilation.checkStructural
      cases k.value.obstacle? with
      | some o => exact .pure (Except.error _)
      | none =>
        refine ih.seq fun r => ?_
        cases r with
        | error e => exact .pure (Except.error e)
        | ok vs => exact .pure (Except.ok _)

theorem bindTo (name : String) (e : Option Expr) :
    Elaboration.Retokens σ id (Elaboration.bindTo m name e) (Elaboration.bindTo m name e) := by
  unfold Elaboration.bindTo
  cases e with
  | none => exact Retokens.onScope _
  | some e =>
    refine (h.value e).seq fun r => ?_
    cases r <;> exact Retokens.onScope _

theorem siteValues (kind : Kind) (groups : Groups) (c : Compilation) :
    Elaboration.Retokens σ id (Elaboration.siteValues m kind groups c)
      (Elaboration.siteValues m kind groups (c.retoken σ)) := by
  have hitems : Elaboration.Retokens σ (Except.mapError (AnnotationError.retoken σ))
      (itemValues m kind groups c) (itemValues m kind groups (c.retoken σ)) := by
    unfold itemValues
    rw [show groups.validate kind (c.retoken σ) = groups.validate kind c from rfl]
    cases hvalid : groups.validate kind c with
    | error e =>
      -- no token is part of what is refused here
      have hsame : e.retoken σ = e := Groups.retoken_of_validate hvalid
      intro s
      show _ = (Except.ok (Except.error (e.retoken σ)), s.retoken σ)
      rw [hsame]
      rfl
    | ok items => exact h.values items
  refine hitems.seq fun r => ?_
  cases r with
  | error e => exact (Retokens.report e).seq fun _ => .pure []
  | ok vs => exact .pure vs

theorem annotateSite (kind : Kind) (qualname : String) (site : Location) (groups : Groups)
    (i : Identity) (c : Compilation) :
    Elaboration.Retokens σ id (Elaboration.annotateSite m kind qualname site groups i c)
      (Elaboration.annotateSite m kind qualname site groups (i.retoken σ) (c.retoken σ)) := by
  rw [annotateSite_eq, annotateSite_eq]
  exact (h.siteValues kind groups c).seq fun vs =>
    (Retokens.onCompilation fun c => recordAll_retoken σ i vs c).seq fun _ =>
      Retokens.modify fun s => by simp [Findings.retoken, ElaboratedSite.retoken]

theorem declare (kind : Kind) (qualname : String) (site : Location) (groups : Groups) :
    Elaboration.Retokens σ id (Elaboration.declare m kind qualname site groups)
      (Elaboration.declare m kind qualname site groups) := by
  intro s
  rw [outcome_declare, outcome_declare,
    show (s.retoken σ).compilation = s.compilation.retoken σ from rfl, Compilation.declare_retoken]
  generalize s.compilation.declare kind m.name.dotted qualname site = declared
  obtain ⟨c, i⟩ := declared
  dsimp only
  rw [Compilation.elaborate_retoken]
  obtain e | ⟨c', _ | _⟩ := c.elaborate i site
  · rfl
  · rfl
  · exact h.annotateSite kind qualname site groups i c' { s with compilation := c' }

theorem assign (p : Place) (name : String) (e : Expr) :
    Elaboration.Retokens σ id ((ElaborationStep.assign b p name e).run m)
      ((ElaborationStep.assign b p name e).run m) := by
  rw [run_assign]
  refine (Retokens.tryAlias name e).seq fun made => ?_
  cases made with
  | true => exact .pure ()
  | false => exact (h.declare _ _ _ _).seq fun _ => h.bindTo _ _

omit h

mutual

theorem step (h : m.host.Retokens σ) :
    ∀ step : ElaborationStep, Elaboration.Retokens σ id (step.run m) (step.run m)
  | .declare kind qualname p written => by
    rw [ElaborationStep.run]
    exact (Retokens.lift written).seq fun w => (Retokens.lift (w.groups m)).seq fun groups =>
      h.declare kind qualname _ groups
  | .refuse es => by
    rw [ElaborationStep.run]
    exact Retokens.refuseIn es
  | .bind name value => by
    rw [ElaborationStep.run]
    exact h.bindTo name value
  | .assign b p name value => h.assign p name value
  | .imported b name module target => by
    rw [ElaborationStep.run]
    exact Retokens.bindImported name module target
  | .inside steps => by
    intro s
    have hentered : { s.retoken σ with scope := (s.retoken σ).scope.child } =
        Findings.retoken σ { s with scope := s.scope.child } := rfl
    rw [outcome_inside, outcome_inside, hentered, runAll h steps]
    generalize outcome (Elaboration.runAll m steps) { s with scope := s.scope.child } = run
    obtain ⟨_ | _, s'⟩ := run <;> rfl

/-- Going through a module comes to the same under other tokens. -/
theorem runAll (h : m.host.Retokens σ) : ∀ steps : List ElaborationStep,
    Elaboration.Retokens σ id (Elaboration.runAll m steps) (Elaboration.runAll m steps)
  | [] => .pure ()
  | st :: rest => by
    rw [Elaboration.runAll]
    exact (step h st).seq fun _ => runAll h rest

end

end Host.Retokens

/-! ### Analyses -/

def Analysis.retoken (σ : Equiv.Perm Int) (a : Analysis) : Analysis where
  sites := a.sites.map (ElaboratedSite.retoken σ)
  diagnostics := a.diagnostics.map (Diagnostic.retoken σ)

theorem Analysis.append_retoken (σ : Equiv.Perm Int) (a b : Analysis) :
    (a.retoken σ).append (b.retoken σ) = (a.append b).retoken σ := by
  simp [append, retoken]

namespace Analyzer

/-- Elaborates a source file. -/
def analyzeFile (f : Analyzer) (rootName : String) (file : Path × FileContent) (c : Compilation) :
    Except Fault Analysis × Compilation :=
  match textOfContent file.2 with
  | .error fault => (.ok { diagnostics := [⟨file.1.text, .unread fault⟩] }, c)
  | .ok source => f.elaborate (moduleOf rootName file.1) file.1.text (f.readSource source) c

/-- Files are gone through one after the other, up to a fault. -/
theorem analyzeFiles_cons (f : Analyzer) (rootName : String) (file : Path × FileContent)
    (rest : List (Path × FileContent)) (c : Compilation) :
    f.analyzeFiles rootName (file :: rest) c =
      match f.analyzeFile rootName file c with
      | (.error fault, c) => (.error fault, c)
      | (.ok a, c) =>
        ((f.analyzeFiles rootName rest c).1.map a.append, (f.analyzeFiles rootName rest c).2) := by
  obtain ⟨path, content⟩ := file
  rw [analyzeFiles, analyzeFile]
  cases textOfContent content with
  | error e => rfl
  | ok source =>
    dsimp only
    rw [analyzeText_eq]
    generalize f.elaborate _ _ _ _ = here
    obtain ⟨_ | _, _⟩ := here <;> rfl

variable {f : Analyzer} (h : f.host.Retokens σ)

include h

theorem elaborate_retoken (name : ModuleName) (file : String)
    (read : Except SourceFault (List Statement)) (c : Compilation) :
    f.elaborate name file read (c.retoken σ) =
      ((f.elaborate name file read c).1.map (Analysis.retoken σ),
        (f.elaborate name file read c).2.retoken σ) := by
  cases read with
  | error fault => rfl
  | ok body =>
    have hrun := Host.Retokens.runAll (m := f.module name file) h
      (Elaboration.moduleSteps (f.module name file) body) { compilation := c }
    have hstart : (Findings.retoken σ { compilation := c }) =
        { compilation := c.retoken σ } := rfl
    rw [hstart] at hrun
    unfold elaborate
    simp only [Elaboration.wholeModule_eq, hrun]
    generalize outcome (Elaboration.runAll (f.module name file) _) _ = run
    obtain ⟨_ | _, s⟩ := run <;> rfl

theorem analyzeFile_retoken (rootName : String) (file : Path × FileContent) (c : Compilation) :
    f.analyzeFile rootName file (c.retoken σ) =
      ((f.analyzeFile rootName file c).1.map (Analysis.retoken σ),
        (f.analyzeFile rootName file c).2.retoken σ) := by
  unfold analyzeFile
  cases textOfContent file.2 with
  | error e => rfl
  | ok source => exact elaborate_retoken h _ _ _ c

/-- Source files are analysed the same under other tokens. -/
theorem analyzeFiles_retoken (rootName : String) (files : List (Path × FileContent))
    (c : Compilation) :
    f.analyzeFiles rootName files (c.retoken σ) =
      ((f.analyzeFiles rootName files c).1.map (Analysis.retoken σ),
        (f.analyzeFiles rootName files c).2.retoken σ) := by
  induction files generalizing c with
  | nil => rfl
  | cons file rest ih =>
    rw [analyzeFiles_cons, analyzeFiles_cons, analyzeFile_retoken h]
    generalize f.analyzeFile rootName file c = here
    obtain ⟨fault | a, c'⟩ := here
    · rfl
    · simp only [Except.map, ih]
      cases (f.analyzeFiles rootName rest c').1 with
      | error fault => rfl
      | ok others => simp only [Analysis.append_retoken]

end Analyzer

end Marginalia
