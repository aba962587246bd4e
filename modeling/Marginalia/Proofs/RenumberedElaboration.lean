/-
Two runs of a module with the objects numbered anew.

A module is gone through twice, from compilations in which different numbers of objects have been
made and different modules declared.  As long as each assignment makes another name in both runs
or in neither, the runs declare the same, record the same values up to the numbers of the objects
in them, and report the same.

* `Elaboration.Follows` — a run goes the way of another one;
* `Elaboration.follows_value`, `Elaboration.follows_declare` — values and declaration sites;
* `Elaboration.allSameChoices` — each assignment makes another name on both tables or on neither;
* `Pairing.alongside_runAll` — steps keep two runs alongside each other.
-/
import Marginalia.Proofs.RunPairing

namespace Marginalia

/-! ### One run follows another -/

namespace Elaboration

variable {P : Pairing} {module : String} {α β γ δ : Type} {r : α → β → Prop} {r' : γ → δ → Prop}

/-- Two runs that come to related results, or are both ended by faults that are alike. -/
def Related (r : α → β → Prop) : Except Fault α → Except Fault β → Prop
  | .ok a, .ok b => r a b
  | .error f, .error f' => f.Alike f'
  | _, _ => False

/-- A run goes the way of another one: started alongside it, it ends alongside, with a related
result. -/
structure Follows (P : Pairing) (module : String) (r : α → β → Prop) (x : Elaboration α)
    (y : Elaboration β) : Prop where
  makes (s : Findings) : s.compilation.created ≤ (outcome x s).2.compilation.created
  alike (s s' : Findings) (h : P.Alongside module s s')
    (hn : (outcome x s).2.compilation.created ≤ P.shift.bound) :
    P.Alongside module (outcome x s).2 (outcome y s').2 ∧
      Related r (outcome x s).1 (outcome y s').1

/-- Results of parts of a site: what a function makes of one, or two errors that are alike. -/
abbrev PartsAlike (g : α → α) : Except AnnotationError α → Except AnnotationError α → Prop :=
  ResultsAlike AnnotationError.Alike g

theorem Follows.pure {a : α} {b : β} (h : r a b) :
    Follows P module r (Pure.pure a) (Pure.pure b) where
  makes _ := le_rfl
  alike _ _ hs _ := ⟨hs, h⟩

/-- Two runs go on alongside each other. -/
theorem Follows.andThen {x : Elaboration α} {y : Elaboration β} {k : α → Elaboration γ}
    {k' : β → Elaboration δ} (hx : Follows P module r x y)
    (hmakes : ∀ a s, s.compilation.created ≤ (outcome (k a) s).2.compilation.created)
    (hk : ∀ a b, r a b → Follows P module r' (k a) (k' b)) :
    Follows P module r' (x >>= k) (y >>= k') := by
  refine ⟨fun s => ?_, fun s s' hs hn => ?_⟩
  · have hmade := hx.makes s
    rw [outcome_bind]
    generalize outcome x s = first at hmade
    obtain ⟨_ | a, s₁⟩ := first
    · exact hmade
    · exact hmade.trans (hmakes a s₁)
  · have hfirst := hx.alike s s' hs
    rw [outcome_bind] at hn ⊢
    rw [outcome_bind]
    generalize outcome x s = first at hfirst hn ⊢
    generalize outcome y s' = first' at hfirst ⊢
    obtain ⟨_ | a, s₁⟩ := first <;> obtain ⟨_ | b, s₁'⟩ := first'
    · exact hfirst hn
    · exact absurd (hfirst hn).2 id
    · -- the bound holds behind the first run, as the second one makes more objects
      exact absurd (hfirst ((hmakes a s₁).trans hn)).2 id
    · obtain ⟨hs₁, hb⟩ := hfirst ((hmakes a s₁).trans hn)
      exact (hk a b hb).alike s₁ s₁' hs₁ hn

theorem Follows.bind {x y : Elaboration (Except AnnotationError α)} {g : α → α}
    {k k' : Except AnnotationError α → Elaboration γ} {r' : γ → γ → Prop}
    (hx : Follows P module (PartsAlike g) x y)
    (hok : ∀ a, Follows P module r' (k (.ok a)) (k' (.ok (g a))))
    (herror : ∀ e e', e.Alike e' → Follows P module r' (k (.error e)) (k' (.error e'))) :
    Follows P module r' (x >>= k) (y >>= k') := by
  refine hx.andThen ?_ ?_
  · rintro (e | a) s
    · exact (herror e e (.refl e)).makes s
    · exact (hok a).makes s
  · intro r r' hparts
    obtain ⟨a, rfl, rfl⟩ | ⟨e, e', rfl, rfl, he⟩ := hparts.cases
    · exact hok a
    · exact herror e e' he

/-- What two runs do one after the other, without an answer in between. -/
theorem Follows.seq {x y k k' : Elaboration Unit} (hx : Follows P module (· = ·) x y)
    (hk : Follows P module (· = ·) k k') :
    Follows P module (· = ·) (x >>= fun _ => k) (y >>= fun _ => k') :=
  hx.andThen (fun _ => hk.makes) fun _ _ _ => hk

variable {m : ModuleSetting} {s s' : Findings}

theorem alongside_report {e e' : AnnotationError} (h : e.Alike e')
    (hs : P.Alongside module s s') :
    P.Alongside module (outcome (report m e) s).2 (outcome (report m e') s').2 :=
  ⟨hs.scope, P.reported hs.reports (h.diagnostic m.file), hs.beside⟩

theorem follows_report {e e' : AnnotationError} (h : e.Alike e') :
    Follows P module (· = ·) (report m e) (report m e') where
  makes _ := le_rfl
  alike _ _ hs _ := ⟨alongside_report h hs, rfl⟩

/-- A change of the visible names that commutes with renumbering. -/
theorem follows_onScope {f f' : Scope → Scope}
    (h : ∀ sc : Scope, f' (sc.renumber P.shift) = (f sc).renumber P.shift) :
    Follows P module (· = ·) (onScope f) (onScope f') where
  makes _ := le_rfl
  alike _ _ hs _ := ⟨⟨(congrArg f' hs.scope).trans (h _), hs.reports, hs.beside⟩, rfl⟩

theorem hide_renumber (sc : Scope) (name : String) :
    (sc.renumber P.shift).hide name = (sc.hide name).renumber P.shift :=
  sc.set_renumber P.shift name none

theorem bind_renumber (sc : Scope) (name : String) (k : Held) :
    (sc.renumber P.shift).bind name (k.renumber P.shift) = (sc.bind name k).renumber P.shift :=
  sc.set_renumber P.shift name (some k)

/-- What is validated depends on the kinds that can be annotated alone. -/
theorem Groups.validate_congr (g : Groups) (kind : Kind) {c c' : Compilation}
    (h : c'.annotatable = c.annotatable) : g.validate kind c' = g.validate kind c := by
  simp only [Groups.validate, Compilation.validate, h]

theorem outcome_refuseIn_of_error {es : List Expr} {f : Fault}
    (h : m.spellings.groupsIn m.file es = .error f) (s : Findings) :
    outcome (refuseIn m es) s = (.error f, s) := by
  unfold refuseIn
  rw [h]
  rfl

theorem outcome_refuseIn_of_ok {es : List Expr} {groups : List (Group Expr)}
    (h : m.spellings.groupsIn m.file es = .ok groups) (s : Findings) :
    outcome (refuseIn m es) s =
      match s.compilation.validate ⟨none, .statement, groups⟩ with
      | .ok _ => (.ok (), s)
      | .error e => outcome (report m e) s := by
  unfold refuseIn
  rw [h, liftM_ok, pure_bind, outcome_bind_ok (outcome_get s)]
  split <;> simp_all

theorem follows_refuseIn (es : List Expr) :
    Follows P module (· = ·) (refuseIn m es) (refuseIn m es) := by
  -- what is written in a statement is read without a look at the state
  cases hgroups : m.spellings.groupsIn m.file es with
  | error f =>
    refine ⟨fun s => ?_, fun s s' hs _ => ?_⟩
    · rw [outcome_refuseIn_of_error hgroups]
    · rw [outcome_refuseIn_of_error hgroups, outcome_refuseIn_of_error hgroups]
      exact ⟨hs, .refl f⟩
  | ok groups =>
    refine ⟨fun s => ?_, fun s s' hs _ => ?_⟩
    · rw [outcome_refuseIn_of_ok hgroups]
      split <;> exact le_refl s.compilation.created
    · have hvalidate : s'.compilation.validate ⟨none, .statement, groups⟩ =
          s.compilation.validate ⟨none, .statement, groups⟩ := by
        simp only [Compilation.validate, hs.beside.annotatable]
      rw [outcome_refuseIn_of_ok hgroups, outcome_refuseIn_of_ok hgroups, hvalidate]
      cases s.compilation.validate ⟨none, .statement, groups⟩ with
      | ok _ => exact ⟨hs, rfl⟩
      | error e => exact ⟨alongside_report (.refl e) hs, rfl⟩

section Values

variable (hhost : m.host.Invariant P.shift)

include hhost

theorem follows_value (e : Expr) :
    Follows P module (PartsAlike (Held.renumber P.shift)) (value m e) (value m e) := by
  have hmakes (sc : Scope) (c : Compilation) :
      c.Makes (outcome (e.hold (m.setting sc)) c).2 :=
    (Host.MakesOnly.contained (s := m.setting sc) hhost.makes).keeps_hold e c
  refine ⟨fun s => (hhost.makes.keeps.evaluating.value e).created, fun s s' hs hn => ?_⟩
  · have hmade := hmakes s.scope s.compilation
    have hmade' := hmakes s'.scope s'.compilation
    have hfollows := (Setting.follows_hold (s := m.setting s.scope) (z := P.shift) hhost e).alike
      s.compilation s'.compilation hs.beside.abreast
    rw [show (m.setting s.scope).renumber P.shift = m.setting s'.scope by rw [hs.scope]; rfl]
      at hfollows
    rw [outcome_value] at hn ⊢
    rw [outcome_value]
    generalize outcome (e.hold (m.setting s.scope)) s.compilation = held at hmade hfollows hn ⊢
    generalize outcome (e.hold (m.setting s'.scope)) s'.compilation = held' at hmade' hfollows ⊢
    obtain ⟨r, c⟩ := held
    obtain ⟨r', c'⟩ := held'
    have hbound : c.created ≤ P.shift.bound := by
      obtain (e | f) | k := r <;> exact hn
    obtain ⟨habreast, hresults⟩ := hfollows hbound
    have hafter : P.Alongside module { s with compilation := c } { s' with compilation := c' } :=
      ⟨hs.scope, hs.reports, hs.beside.made hmade hmade' habreast⟩
    obtain (e | f) | k := r <;> obtain (e' | f') | k' := r' <;>
      first | exact hresults.elim | exact ⟨hafter, hresults⟩

theorem follows_values (items : List (AnnotationItem Expr)) :
    Follows P module (PartsAlike (List.map (renumberAt P.shift))) (values m items)
      (values m items) := by
  induction items with
  | nil => exact .pure (r := PartsAlike (List.map (renumberAt P.shift))) (a := .ok []) rfl
  | cons a rest ih =>
    rw [values]
    refine (follows_value hhost a.expression).bind (fun k => ?_) fun e e' he => .pure he
    dsimp only
    rw [Held.value_renumber, Compilation.checkStructural_eq, Compilation.checkStructural_eq,
      Value.obstacle_renumber]
    cases k.value.obstacle? with
    | some o => exact .pure (r := PartsAlike (List.map (renumberAt P.shift))) (.refl _)
    | none => exact ih.bind (fun vs => .pure rfl) fun e e' he => .pure he

theorem follows_siteValues (kind : Kind) (groups : Groups) {c c' : Compilation}
    (h : c'.annotatable = c.annotatable) :
    Follows P module (fun vs vs' => vs' = vs.map (renumberAt P.shift))
      (siteValues m kind groups c) (siteValues m kind groups c') := by
  have hitems : Follows P module (PartsAlike (List.map (renumberAt P.shift)))
      (itemValues m kind groups c) (itemValues m kind groups c') := by
    unfold itemValues
    rw [groups.validate_congr kind h]
    cases groups.validate kind c with
    | error e => exact .pure (r := PartsAlike (List.map (renumberAt P.shift))) (.refl e)
    | ok items => exact follows_values hhost items
  exact hitems.bind (fun vs => .pure rfl)
    fun e e' he => (follows_report he).andThen (fun _ _ => le_rfl) fun _ _ _ => .pure rfl

omit hhost in
/-- What is recorded at a site was found fit to be stored. -/
theorem values_storable {items : List (AnnotationItem Expr)} {vs : List (Location × Value)}
    {s s₁ : Findings} (h : outcome (values m items) s = (.ok (.ok vs), s₁)) :
    ∀ lv ∈ vs, lv.2.obstacle? = none := by
  induction items generalizing s vs with
  | nil =>
    cases h
    simp
  | cons a rest ih =>
    rw [values] at h
    obtain ⟨r, s₂, -, h⟩ := exists_of_outcome_bind_ok h
    cases r with
    | error e => cases h
    | ok k =>
      dsimp only at h
      rw [Compilation.checkStructural_eq] at h
      cases hobstacle : k.value.obstacle? with
      | some o =>
        rw [hobstacle] at h
        cases h
      | none =>
        rw [hobstacle] at h
        obtain ⟨r, s₃, hrest, h⟩ := exists_of_outcome_bind_ok h
        cases r with
        | error e => cases h
        | ok ws =>
          cases h
          exact List.forall_mem_cons.mpr ⟨hobstacle, ih hrest⟩

omit hhost in
theorem siteValues_storable {kind : Kind} {groups : Groups} {c : Compilation}
    {vs : List (Location × Value)} {s s₁ : Findings}
    (h : outcome (siteValues m kind groups c) s = (.ok vs, s₁)) :
    ∀ lv ∈ vs, lv.2.obstacle? = none := by
  unfold siteValues itemValues at h
  cases hvalid : groups.validate kind c with
  | error e =>
    rw [hvalid] at h
    cases h
    simp
  | ok items =>
    rw [hvalid] at h
    obtain ⟨r, s₂, hvalues, h⟩ := exists_of_outcome_bind_ok h
    cases r with
    | error e =>
      cases h
      simp
    | ok vs =>
      cases h
      exact values_storable hvalues

/-- The first visit of a declaration of the module in both runs. -/
theorem follows_annotateSite (key : DeclarationKey) {kind : Kind} {qualname : String}
    {site : Location} {groups : Groups} {i i' : Identity} {c c' : Compilation}
    (hannotatable : c'.annotatable = c.annotatable) (hs : P.Alongside key.1 s s')
    (hi : s.compilation.identityAt? key = some i) (hi' : s'.compilation.identityAt? key = some i')
    (hn : (outcome (annotateSite m kind qualname site groups i c) s).2.compilation.created ≤
      P.shift.bound) :
    P.Alongside key.1 (outcome (annotateSite m kind qualname site groups i c) s).2
        (outcome (annotateSite m kind qualname site groups i' c') s').2 ∧
      Related (· = ·) (outcome (annotateSite m kind qualname site groups i c) s).1
        (outcome (annotateSite m kind qualname site groups i' c') s').1 := by
  have hfollows : Follows P key.1 (fun vs vs' => vs' = vs.map (renumberAt P.shift))
      (siteValues m kind groups c) (siteValues m kind groups c') :=
    follows_siteValues hhost kind groups hannotatable
  have hvalues := hfollows.alike s s' hs
  have heval := hhost.makes.leavesTable.evaluating
  have htable := heval.siteValues (s := s) kind groups c
  have htable' := heval.siteValues (s := s') kind groups c'
  rw [outcome_annotateSite] at hn ⊢
  rw [outcome_annotateSite]
  cases hrun : outcome (siteValues m kind groups c) s with | mk r s₁
  cases hrun' : outcome (siteValues m kind groups c') s' with | mk r' s₁'
  rw [Elaboration.Keeps, hrun] at htable
  rw [Elaboration.Keeps, hrun'] at htable'
  rw [hrun] at hvalues hn
  rw [hrun'] at hvalues
  have hbound : s₁.compilation.created ≤ P.shift.bound := by
    -- recording makes no objects
    cases r with
    | error f => exact hn
    | ok vs =>
      dsimp only at hn
      rwa [Compilation.recordAll_created] at hn
  obtain ⟨hafter, hrelated⟩ := hvalues hbound
  obtain f | vs := r <;> obtain f' | vs' := r'
  · exact ⟨hafter, hrelated⟩
  · exact hrelated.elim
  · exact hrelated.elim
  · obtain rfl : vs' = vs.map (renumberAt P.shift) := hrelated
    replace hi : s₁.compilation.identityAt? key = some i := by
      rwa [Compilation.identityAt?, htable]
    replace hi' : s₁'.compilation.identityAt? key = some i' := by
      rwa [Compilation.identityAt?, htable']
    exact ⟨⟨hafter.scope, hafter.reports,
      hafter.beside.recorded hi hi' (siteValues_storable hrun)⟩, rfl⟩

/-- A site is gone through in both runs, or passed over in both. -/
theorem follows_declare (kind : Kind) (qualname : String) (site : Location) (groups : Groups) :
    Follows P m.name.dotted (· = ·) (declare m kind qualname site groups)
      (declare m kind qualname site groups) := by
  refine ⟨fun s => (hhost.makes.keeps.visit fun i vs c _ => c.goesOn_recordAll i vs).created,
    fun s s' hs hn => ?_⟩
  · obtain ⟨c, i, hdeclared⟩ :
        ∃ c i, s.compilation.declare kind m.name.dotted qualname site = (c, i) := ⟨_, _, rfl⟩
    obtain ⟨c', i', hdeclared'⟩ :
        ∃ c i, s'.compilation.declare kind m.name.dotted qualname site = (c, i) := ⟨_, _, rfl⟩
    have hi := (Compilation.identityAt?_declare hdeclared).1
    have hi' := (Compilation.identityAt?_declare hdeclared').1
    have hbeside : P.Beside m.name.dotted c c' := hs.beside.declared hdeclared hdeclared'
    -- the site was gone through in both runs or in neither
    have hvisited := (hbeside.own (m.name.dotted, qualname, kind) rfl).visited
    rw [outcome_declare, hdeclared] at hn ⊢
    rw [outcome_declare, hdeclared']
    dsimp only at hn ⊢
    obtain ⟨hbefore, helaborate⟩ | ⟨hbefore, helaborate⟩ :=
      Compilation.elaborate_about hbeside.sound hi site
    · obtain ⟨-, helaborate'⟩ | ⟨hnot, -⟩ := Compilation.elaborate_about hbeside.sound' hi' site
      · rw [helaborate, helaborate']
        exact ⟨⟨hs.scope, hs.reports, hbeside⟩, rfl⟩
      · exact absurd (hvisited ▸ hbefore) hnot
    · obtain ⟨hpassed, -⟩ | ⟨-, helaborate'⟩ := Compilation.elaborate_about hbeside.sound' hi' site
      · exact absurd (hvisited ▸ hpassed) hbefore
      · rw [helaborate] at hn ⊢
        rw [helaborate']
        exact follows_annotateSite hhost (m.name.dotted, qualname, kind)
          hbeside.annotatable ⟨hs.scope, hs.reports, hbeside.entered rfl hi hi' site⟩ hi hi' hn

theorem follows_bindTo (name : String) (e : Option Expr) :
    Follows P module (· = ·) (bindTo m name e) (bindTo m name e) := by
  unfold bindTo
  cases e with
  | none => exact follows_onScope fun sc => hide_renumber sc name
  | some e =>
    exact (follows_value hhost e).bind (fun k => follows_onScope fun sc => bind_renumber sc name k)
      fun _ _ _ => follows_onScope fun sc => hide_renumber sc name

end Values

theorem alongside_addAlias (name name' target target' targetName targetName' : String)
    (hs : P.Alongside m.name.dotted s s') :
    P.Alongside m.name.dotted
      { s with
        compilation := s.compilation.addAlias m.name.dotted name target targetName
        scope := s.scope.hide name' }
      { s' with
        compilation := s'.compilation.addAlias m.name.dotted name target' targetName'
        scope := s'.scope.hide name' } := by
  have hbeside := hs.beside
  exact ⟨(congrArg (·.hide name') hs.scope).trans (hide_renumber s.scope name'), hs.reports,
    hbeside.sound.addAlias _ _ _ _, hbeside.sound'.addAlias _ _ _ _, hbeside.annotatable,
    ⟨hbeside.abreast.created, hbeside.abreast.changed⟩, hbeside.own, hbeside.apart⟩

theorem follows_bindImported (b : Body) (name target targetName : String) :
    Follows P m.name.dotted (· = ·) (bindImported m b name target targetName)
      (bindImported m b name target targetName) where
  makes _ := le_rfl
  alike _ _ hs _ := ⟨alongside_addAlias _ name target target targetName targetName hs, rfl⟩

/-- What cannot be read ends both runs. -/
theorem follows_lift {x : Except Fault α} {k : α → Elaboration Unit}
    (hk : ∀ a, Follows P module (· = ·) (k a) (k a)) :
    Follows P module (· = ·) (liftM x >>= k) (liftM x >>= k) := by
  cases x with
  | error f => exact ⟨fun _ => le_rfl, fun _ _ hs _ => ⟨hs, .refl f⟩⟩
  | ok a =>
    rw [liftM_ok, pure_bind]
    exact hk a

end Elaboration

/-! ### The same choices -/

open Elaboration

mutual

/-- Whether an assignment makes another name on both tables or on neither. -/
def ElaborationStep.sameChoices (m : ModuleSetting) (t t' : Table) : ElaborationStep → Bool
  | .assign b _ _ e => (madeAlias? m b t' e).isSome == (madeAlias? m b t e).isSome
  | .inside steps => Elaboration.allSameChoices m t t' steps
  | _ => true

/-- Whether each assignment among steps does so, on the tables that the steps before it leave. -/
def Elaboration.allSameChoices (m : ModuleSetting) (t t' : Table) : List ElaborationStep → Bool
  | [] => true
  | step :: rest => step.sameChoices m t t' &&
    Elaboration.allSameChoices m (t.after (step.calls m t)) (t'.after (step.calls m t')) rest

end

mutual

theorem ElaborationStep.sameChoices_refl (m : ModuleSetting) (t : Table) :
    ∀ step : ElaborationStep, step.sameChoices m t t = true
  | .assign .. => by simp [ElaborationStep.sameChoices]
  | .inside steps => by
    rw [ElaborationStep.sameChoices]
    exact Elaboration.allSameChoices_refl m t steps
  | .declare .. | .refuse _ | .bind .. | .imported .. => by simp [ElaborationStep.sameChoices]

/-- On one table, the choices are the same. -/
theorem Elaboration.allSameChoices_refl (m : ModuleSetting) (t : Table) :
    ∀ steps : List ElaborationStep, allSameChoices m t t steps = true
  | [] => by rw [allSameChoices]
  | step :: rest => by
    rw [allSameChoices, step.sameChoices_refl m t, Elaboration.allSameChoices_refl m _ rest]
    rfl

end

/-! ### Steps -/

namespace Pairing

variable {P : Pairing} {m : ModuleSetting} {s s' : Findings}

/-- A name that is assigned in both runs. -/
theorem alongside_assign (hhost : m.host.Invariant P.shift) {b : Body} {p : Place} {name : String}
    {e : Expr} (hs : P.Alongside m.name.dotted s s')
    (hchoice : (madeAlias? m b s'.compilation.table e).isSome =
      (madeAlias? m b s.compilation.table e).isSome)
    (hn : (outcome ((ElaborationStep.assign b p name e).run m) s).2.compilation.created ≤
      P.shift.bound) :
    P.Alongside m.name.dotted (outcome ((ElaborationStep.assign b p name e).run m) s).2
        (outcome ((ElaborationStep.assign b p name e).run m) s').2 ∧
      Related (· = ·) (outcome ((ElaborationStep.assign b p name e).run m) s).1
        (outcome ((ElaborationStep.assign b p name e).run m) s').1 := by
  rw [run_assign] at hn ⊢
  cases halias : madeAlias? m b s.compilation.table e with
  | some d =>
    rw [halias] at hchoice
    -- the two names may denote different declarations
    obtain ⟨d', halias'⟩ := Option.isSome_iff_exists.mp hchoice
    rw [outcome_bind_ok (outcome_tryAlias_of_some name halias),
      outcome_bind_ok (outcome_tryAlias_of_some name halias')]
    exact ⟨alongside_addAlias _ name _ _ _ _ hs, rfl⟩
  | none =>
    rw [halias] at hchoice
    have halias' : madeAlias? m b s'.compilation.table e = none := by simpa using hchoice
    rw [outcome_bind_ok (outcome_tryAlias_of_none name halias)] at hn ⊢
    rw [outcome_bind_ok (outcome_tryAlias_of_none name halias')]
    exact ((follows_declare hhost (variableKind b name) _ _ {}).seq
      (follows_bindTo hhost name (some e))).alike s s' hs hn

mutual

theorem alongside_step (hhost : m.host.Invariant P.shift) :
    ∀ (step : ElaborationStep) {s s' : Findings}, P.Alongside m.name.dotted s s' →
      step.sameChoices m s.compilation.table s'.compilation.table = true →
      (outcome (step.run m) s).2.compilation.created ≤ P.shift.bound →
      P.Alongside m.name.dotted (outcome (step.run m) s).2 (outcome (step.run m) s').2 ∧
        Related (· = ·) (outcome (step.run m) s).1 (outcome (step.run m) s').1
  | .declare kind qualname p written, s, s', hs, _, hn => by
    rw [ElaborationStep.run] at hn ⊢
    exact (follows_lift fun w => follows_lift fun groups =>
      follows_declare hhost kind qualname _ groups).alike s s' hs hn
  | .refuse es, s, s', hs, _, hn => by
    rw [ElaborationStep.run] at hn ⊢
    exact (follows_refuseIn es).alike s s' hs hn
  | .bind name v, s, s', hs, _, hn => by
    rw [ElaborationStep.run] at hn ⊢
    exact (follows_bindTo hhost name v).alike s s' hs hn
  | .assign b p name e, s, s', hs, hchoice, hn => by
    rw [ElaborationStep.sameChoices, beq_iff_eq] at hchoice
    exact alongside_assign hhost hs hchoice hn
  | .imported b name target targetName, s, s', hs, _, hn => by
    rw [ElaborationStep.run] at hn ⊢
    exact (follows_bindImported b name target targetName).alike s s' hs hn
  | .inside steps, s, s', hs, hchoice, hn => by
    rw [ElaborationStep.sameChoices] at hchoice
    have hrun := alongside_runAll hhost steps hs.enter hchoice
    rw [outcome_inside] at hn ⊢
    rw [outcome_inside]
    generalize outcome (runAll m steps) { s with scope := s.scope.child } = run at hrun hn ⊢
    generalize outcome (runAll m steps) { s' with scope := s'.scope.child } = run' at hrun ⊢
    obtain ⟨f | _, s₁⟩ := run <;> obtain ⟨f' | _, s₁'⟩ := run' <;>
      obtain ⟨hafter, hrelated⟩ := hrun hn
    · exact ⟨hafter, hrelated⟩
    · exact hrelated.elim
    · exact hrelated.elim
    · exact ⟨⟨hs.scope, hafter.reports, hafter.beside⟩, rfl⟩

/-- **Two runs of a module.**  Steps keep two runs alongside each other, and end both or none, as
long as each assignment makes another name in both runs or in neither. -/
theorem alongside_runAll (hhost : m.host.Invariant P.shift) :
    ∀ (steps : List ElaborationStep) {s s' : Findings}, P.Alongside m.name.dotted s s' →
      allSameChoices m s.compilation.table s'.compilation.table steps = true →
      (outcome (runAll m steps) s).2.compilation.created ≤ P.shift.bound →
      P.Alongside m.name.dotted (outcome (runAll m steps) s).2 (outcome (runAll m steps) s').2 ∧
        Related (· = ·) (outcome (runAll m steps) s).1 (outcome (runAll m steps) s').1
  | [], s, s', hs, _, _ => ⟨hs, rfl⟩
  | step :: rest, s, s', hs, hchoices, hn => by
    rw [allSameChoices, Bool.and_eq_true] at hchoices
    obtain ⟨hchoice, hlater⟩ := hchoices
    have hstep := alongside_step hhost step hs hchoice
    rw [runAll, outcome_bind] at hn ⊢
    rw [outcome_bind]
    cases hrun : outcome (step.run m) s with | mk r s₁
    cases hrun' : outcome (step.run m) s' with | mk r' s₁'
    rw [hrun] at hstep hn
    rw [hrun'] at hstep
    obtain f | _ := r <;> obtain f' | _ := r'
    · exact hstep hn
    · exact (hstep hn).2.elim
    · exact (hstep ((hhost.makes.goesOn_runAll rest s₁).created.trans hn)).2.elim
    · obtain ⟨hs₁, -⟩ := hstep ((hhost.makes.goesOn_runAll rest s₁).created.trans hn)
      refine alongside_runAll hhost rest hs₁ ?_ hn
      rwa [table_step hhost.makes.leavesTable step hrun,
        table_step hhost.makes.leavesTable step hrun']

end

end Pairing

end Marginalia
