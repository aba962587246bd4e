/-
Two runs that part at one declaration.

The steps of two modules that differ in the arguments at one declaration are gone through from one
state.  Up to the declaration the two runs are the same.  There they may make different numbers of
objects, record different values and report different problems.  Behind it they are alongside each
other, with the objects of one numbered as those of the other, as long as the arguments have
changed no object that was there before.

* `Elaboration.AllLeaveObjectsAt` — no object is changed where a run comes to the declaration;
* `Findings.Settled` — nothing in a state depends on how objects to come are numbered;
* `Elaboration.SiteDone` — what becomes of the state at the declaration;
* `Elaboration.behind_runAll` — runs behind the declaration;
* `Elaboration.parted_runAll` — two runs are the same, or they have parted at the declaration.
-/
import Marginalia.Proofs.BareModule
import Marginalia.Proofs.Reanalysis
import Marginalia.Proofs.RecordedAnnotations
import Marginalia.Proofs.RenumberedElaboration

namespace Marginalia

/-! ### What two runs have in common -/

/-- What two records say is the same, up to the numbers of objects if they can be stored. -/
def KeptContent (r r' : TypeTerm × Value × Location) : Prop := r' = r ∨ SameContent r r'

theorem KeptContent.symm {r r' : TypeTerm × Value × Location} (h : KeptContent r r') :
    KeptContent r' r :=
  h.imp Eq.symm SameContent.symm

theorem Diagnostic.Alike.symm {d d' : Diagnostic} (h : d.Alike d') : d'.Alike d :=
  ⟨h.kind.symm, h.message.symm, h.location.symm⟩

/-- At most one diagnostic, of a certain kind. -/
def AtMostOne (own : Diagnostic → Prop) (ds : List Diagnostic) : Prop :=
  ds.length ≤ 1 ∧ ∀ d ∈ ds, own d

/-- What two runs report is the same before and after one place, and each of them has at most one
more diagnostic there, of its own. -/
def ReportsApart (own own' : Diagnostic → Prop) (ds ds' : List Diagnostic) : Prop :=
  ∃ before extra extra' later later',
    ds = before ++ extra ++ later ∧ ds' = before ++ extra' ++ later' ∧
      AtMostOne own extra ∧ AtMostOne own' extra' ∧ List.Forall₂ Diagnostic.Alike later later'

theorem atMostOne_nil (own : Diagnostic → Prop) : AtMostOne own [] := ⟨Nat.zero_le 1, by simp⟩

theorem ReportsApart.refl (own own' : Diagnostic → Prop) (ds : List Diagnostic) :
    ReportsApart own own' ds ds :=
  ⟨ds, [], [], [], [], by simp, by simp, atMostOne_nil own, atMostOne_nil own', .nil⟩

theorem ReportsApart.symm {own own' : Diagnostic → Prop} {ds ds' : List Diagnostic}
    (h : ReportsApart own own' ds ds') : ReportsApart own' own ds' ds := by
  obtain ⟨before, extra, extra', later, later', hds, hds', hextra, hextra', hlater⟩ := h
  exact ⟨before, extra', extra, later', later, hds', hds, hextra', hextra,
    hlater.flip.imp fun _ _ h => h.symm⟩

/-- The pairing of two runs that differ at one declaration. -/
def localPair (z : Shift) (key : DeclarationKey) (start : DeclarationKey → Standing)
    (own own' : Diagnostic → Prop) : Pairing where
  shift := z
  records k rs rs' := k ≠ key → List.Forall₂ KeptContent rs rs'
  reports := ReportsApart own own'
  start := start
  start' := start
  recorded h lvs hstored hkey := by
    refine List.rel_append (h hkey) ?_
    rw [List.map_map, List.forall₂_map_left_iff, List.forall₂_map_right_iff, List.forall₂_same]
    exact fun lv hlv => .inr (recordedAs_renumber z (hstored lv hlv))
  reported h hd := by
    obtain ⟨before, extra, extra', later, later', rfl, rfl, hextra, hextra', hlater⟩ := h
    exact ⟨before, extra, extra', later ++ [_], later' ++ [_], by simp, by simp, hextra, hextra',
      List.rel_append hlater (.cons hd .nil)⟩

/-- The name that a declaration of a module goes by. -/
def DeclarationSite.key (D : DeclarationSite) (m : ModuleSetting) : DeclarationKey :=
  (m.name.dotted, D.qualname, D.kind)

/-- What is reported when the annotations that are written at a declaration are refused. -/
def Written.Refused (m : ModuleSetting) (kind : Kind) (w : Written) (d : Diagnostic) : Prop :=
  ∃ groups c s s' e, w.groups m = .ok groups ∧
    outcome (Elaboration.itemValues m kind groups c) s = (.ok (.error e), s') ∧
      d = ⟨m.file, .rejected e⟩

/-! ### Objects at the declaration -/

mutual

/-- Where a step comes to a declaration, no object is changed. -/
def ElaborationStep.LeavesObjectsAt (m : ModuleSetting) (D : DeclarationSite) :
    ElaborationStep → Findings → Prop
  | .declare kind qualname p written, s => D = ⟨kind, qualname, p⟩ →
    (outcome ((ElaborationStep.declare kind qualname p written).run m) s).2.compilation.changed =
      s.compilation.changed
  | .inside steps, s => Elaboration.AllLeaveObjectsAt m D steps { s with scope := s.scope.child }
  | _, _ => True

/-- Where a run comes to a declaration, no object is changed. -/
def Elaboration.AllLeaveObjectsAt (m : ModuleSetting) (D : DeclarationSite) :
    List ElaborationStep → Findings → Prop
  | [], _ => True
  | step :: rest, s => step.LeavesObjectsAt m D s ∧
    ∀ s₁, outcome (step.run m) s = (.ok (), s₁) → Elaboration.AllLeaveObjectsAt m D rest s₁

end

/-! ### States that do not depend on numbers to come -/

/-- What is told of changed objects names no object that is yet to be made, up to a limit. -/
def Compilation.NamesNoneToCome (c : Compilation) (limit : Nat) : Prop :=
  ∀ f : Renumbering, f.Below limit → (∀ n ≤ c.created, f n = n) →
    c.changed.renumber f = c.changed

theorem Compilation.namesNoneToCome_of_unchanged {c : Compilation} (h : c.changed = [])
    (limit : Nat) : c.NamesNoneToCome limit := fun _ _ _ => by
  rw [h]
  rfl

/-- What is forgotten goes by the numbers up to those that have been given. -/
theorem Compilation.NamesNoneToCome.forget {c : Compilation} {limit : Nat}
    (h : c.NamesNoneToCome limit) (start : Nat) : (c.forget start).NamesNoneToCome limit := by
  intro f hf hfixed
  -- a number that is yet to be given stays one
  have hlater (n : Nat) : f n ≤ c.created ↔ n ≤ c.created := by
    refine ⟨fun hn => ?_, fun hn => (hfixed n hn).symm ▸ hn⟩
    rwa [← f.injective (hfixed _ hn)]
  have hkept (e : Mark × Value) : (!(start < f e.1 && f e.1 ≤ c.created)) =
      !(start < e.1 && e.1 ≤ c.created) := by
    by_cases hn : e.1 ≤ c.created
    · rw [hfixed _ hn]
    · simp [hlater, hn]
  have hchanged := h f hf hfixed
  unfold Changes.renumber at hchanged
  show (c.changed.filter _).map _ = c.changed.filter _
  conv_rhs => rw [← hchanged, List.filter_map]
  congr 1
  exact List.filter_congr fun e _ => (hkept e).symm

/-- A state in which no number of an object to come is used, up to a limit, and in which nothing
new is said about declarations of other modules than one. -/
structure Findings.Settled (limit : Nat) (start : DeclarationKey → Standing) (module : String)
    (s : Findings) : Prop where
  sound : s.compilation.Sound
  apart : ∀ key : DeclarationKey, key.1 ≠ module → s.compilation.about key = start key
  scope : ∀ f : Renumbering, f.Below limit → (∀ n ≤ s.compilation.created, f n = n) →
    s.scope.renumber f = s.scope
  changed : s.compilation.NamesNoneToCome limit

theorem Findings.Settled.enter {limit : Nat} {start : DeclarationKey → Standing} {module : String}
    {s : Findings} (hs : s.Settled limit start module) :
    Findings.Settled limit start module { s with scope := s.scope.child } where
  sound := hs.sound
  apart := hs.apart
  scope f hf hfixed := by
    show s.scope.child.renumber f = s.scope.child
    rw [← s.scope.child_renumber f, hs.scope f hf hfixed]
  changed := hs.changed

namespace Elaboration

variable {m : ModuleSetting} {D : DeclarationSite} {limit : Nat}
  {start : DeclarationKey → Standing} {s s' s₁ s₁' : Findings}

/-- A run beside itself. -/
def selfPair (z : Shift) (start : DeclarationKey → Standing) : Pairing where
  shift := z
  records _ _ _ := True
  reports _ _ := True
  start := start
  start' := start
  recorded _ _ _ := trivial
  reported _ _ := trivial

/-- What a run leaves behind is beside itself, with the numbers of later objects changed. -/
theorem alongside_self (hhost : m.host.Detached limit) {steps : List ElaborationStep}
    (hs : s.Settled limit start m.name.dotted)
    (hrun : (outcome (runAll m steps) s).2 = s₁) {f : Renumbering} (hf : f.Below limit)
    (hfixed : ∀ n ≤ s₁.compilation.created, f n = n) :
    ∃ z : Shift, z.toRenumbering = f ∧ (selfPair z start).Alongside m.name.dotted s₁ s₁ := by
  have hgoes : s.compilation.GoesOn s₁.compilation := by
    have h := hhost.makes.goesOn_runAll steps s
    rwa [hrun] at h
  have hbefore : ∀ n ≤ s.compilation.created, f n = n :=
    fun n hn => hfixed n (hn.trans hgoes.created)
  obtain ⟨z, hz⟩ : ∃ z : Shift, z = { f with
      start := s.compilation.created
      restart := s.compilation.created
      bound := s₁.compilation.created
      apply_add := fun k _ hk => hfixed _ hk } := ⟨_, rfl⟩
  have hzf : z.toRenumbering = f := by subst hz; rfl
  have hstart : (selfPair z start).Alongside m.name.dotted s s :=
    { scope := by rw [selfPair, hzf, hs.scope f hf hbefore]
      reports := trivial
      beside :=
        { sound := hs.sound
          sound' := hs.sound
          annotatable := rfl
          abreast := ⟨⟨0, by subst hz; exact ⟨rfl, rfl⟩⟩, by
            rw [selfPair, hzf, hs.changed f hf hbefore]⟩
          own := fun _ _ => ⟨rfl, rfl, trivial⟩
          apart := fun key hkey => ⟨hs.apart key hkey, hs.apart key hkey⟩ } }
  obtain ⟨hafter, -⟩ := Pairing.alongside_runAll (m := m) (P := selfPair z start)
    (hhost z (by rw [hzf]; exact hf)) steps hstart (allSameChoices_refl m _ steps)
    (by rw [hrun]; subst hz; exact le_rfl)
  rw [hrun] at hafter
  exact ⟨z, hzf, hafter⟩

/-- The numbers of objects that are made later than a run do not matter to it. -/
theorem settled_runAll (hhost : m.host.Detached limit) {steps : List ElaborationStep}
    (hs : s.Settled limit start m.name.dotted)
    (hrun : (outcome (runAll m steps) s).2 = s₁) : s₁.Settled limit start m.name.dotted := by
  obtain ⟨z, -, hafter⟩ := alongside_self hhost hs hrun (f := .refl) (fun _ _ => rfl)
    fun _ _ => rfl
  refine ⟨hafter.beside.sound, fun key hkey => (hafter.beside.apart key hkey).1,
    fun f hf hfixed => ?_, fun f hf hfixed => ?_⟩
  · obtain ⟨z, rfl, hafter⟩ := alongside_self hhost hs hrun hf hfixed
    exact hafter.scope.symm
  · obtain ⟨z, rfl, hafter⟩ := alongside_self hhost hs hrun hf hfixed
    exact hafter.beside.abreast.changed.symm

/-! ### What annotations leave behind -/

section Makes

variable (hhost : m.host.MakesOnly)

include hhost

/-- Evaluating what annotates a site makes and changes objects only. -/
theorem outcome_itemValues_makes (kind : Kind) (groups : Groups) (c : Compilation) (s : Findings) :
    ∃ c', (outcome (itemValues m kind groups c) s).2 = { s with compilation := c' } ∧
      s.compilation.Makes c' := by
  have hrest : Findings.Unmoved fun s s' => s' = { s with compilation := s'.compilation } :=
    { trans := fun h h' => by rw [h', h]
      compilation := fun _ _ => rfl }
  have hmakes : m.KeepsEvaluating Compilation.Makes :=
    fun scope => Host.MakesOnly.contained (s := m.setting scope) hhost
  exact ⟨_, hrest.itemValues kind groups c s, hmakes.itemValues kind groups c⟩

/-- At a site at most one error is reported. -/
theorem outcome_siteValues_makes {w : Written} {groups : Groups}
    (hgroups : w.groups m = .ok groups) (kind : Kind) (c : Compilation) (s : Findings) :
    ∃ c' ds, (outcome (siteValues m kind groups c) s).2 =
        { s with compilation := c', diagnostics := s.diagnostics ++ ds } ∧
      AtMostOne (w.Refused m kind) ds ∧ s.compilation.Makes c' := by
  obtain ⟨c', hstate, hmakes⟩ := outcome_itemValues_makes hhost kind groups c s
  unfold siteValues
  rw [outcome_bind]
  cases hrun : outcome (itemValues m kind groups c) s with | mk r s₁
  rw [hrun] at hstate
  obtain rfl : s₁ = { s with compilation := c' } := hstate
  obtain g | e | vs := r
  · exact ⟨c', [], by simp, atMostOne_nil _, hmakes⟩
  · refine ⟨c', [⟨m.file, .rejected e⟩], rfl, ⟨le_rfl, fun d hd => ?_⟩, hmakes⟩
    exact ⟨groups, c, s, _, e, hgroups, hrun, List.mem_singleton.mp hd⟩
  · exact ⟨c', [], by simp [orReported], atMostOne_nil _, hmakes⟩

end Makes

/-! ### The declaration where the runs differ -/

/-- Whether a declaration of a module was gone through at its place. -/
def Passed (m : ModuleSetting) (D : DeclarationSite) (c : Compilation) : Prop :=
  c.Marked (D.key m) (D.place.inFile m.file)

/-- What has become of a compilation when a declaration was gone through at a site. -/
structure VisitedAt (key : DeclarationKey) (site : Location) (c c' : Compilation) : Prop where
  sound : c'.Sound
  annotatable : c'.annotatable = c.annotatable
  created : c.created ≤ c'.created
  others : ∀ k, k ≠ key → c'.about k = c.about k
  declared : (c'.about key).declared = True
  visited : (c'.about key).visited = fun l => (c.about key).visited l ∨ l = site

theorem visitedAt_recordAll {c c₁ c₂ : Compilation} {kind : Kind} {module qualname : String}
    {site : Location} {i : Identity} (hsound : c.Sound)
    (hdeclared : c.declare kind module qualname site = (c₁, i))
    (hmakes : (entered c₁ i site).Makes c₂) (vs : List (Location × Value)) :
    VisitedAt (module, qualname, kind) site c (recordAll i vs c₂) := by
  have hi := (Compilation.identityAt?_declare hdeclared).1
  have hsound₁ := hsound.declare hdeclared
  have hsound₂ : c₂.Sound := by
    rw [hmakes.1]
    exact (hsound₁.entered hi site).made _ _
  have hi₂ : c₂.identityAt? (module, qualname, kind) = some i := by
    rw [hmakes.1]
    exact hi
  have hmade : c₂.about = (entered c₁ i site).about := by
    rw [hmakes.1]
    exact Compilation.about_made _ _
  have habout := Compilation.about_recordAll hsound₂ hi₂ vs
  rw [hmade, Compilation.about_entered hsound₁ hi site,
    Compilation.about_declare hsound hdeclared] at habout
  obtain ⟨hc, -⟩ := Compilation.declare_eq hdeclared
  refine ⟨hsound₂.recordAll hi₂ vs, ?_, ?_, fun k hk => ?_, ?_, ?_⟩
  · rw [Compilation.recordAll_annotatable, hmakes.1, entered, hc]
  · rw [Compilation.recordAll_created]
    exact le_trans (by rw [entered, hc]) hmakes.2
  · rw [habout]
    simp only [Function.update_of_ne hk]
  · rw [habout]
    simp only [Function.update_self]
  · rw [habout]
    simp only [Function.update_self]

/-- What has become of a state when a site was gone through for the first time. -/
structure SiteDone (m : ModuleSetting) (D : DeclarationSite) (w : Written) (s s₁ : Findings) :
    Prop where
  scope : s₁.scope = s.scope
  reports : ∃ ds, s₁.diagnostics = s.diagnostics ++ ds ∧ AtMostOne (w.Refused m D.kind) ds
  visitedAt : VisitedAt (D.key m) (D.place.inFile m.file) s.compilation s₁.compilation

theorem siteDone_declare (hhost : m.host.MakesOnly) (hsound : s.compilation.Sound)
    (hfirst : ¬ Passed m D s.compilation) {w : Written} {groups : Groups}
    (hgroups : w.groups m = .ok groups)
    (hrun : outcome (declare m D.kind D.qualname (D.place.inFile m.file) groups) s = (.ok (), s₁)) :
    SiteDone m D w s s₁ := by
  obtain ⟨c, i, hdeclared⟩ : ∃ c i, s.compilation.declare D.kind m.name.dotted D.qualname
      (D.place.inFile m.file) = (c, i) := ⟨_, _, rfl⟩
  have hi := (Compilation.identityAt?_declare hdeclared).1
  obtain ⟨hvisited, -⟩ | ⟨-, helaborate⟩ :=
    Compilation.elaborate_about (hsound.declare hdeclared) hi (D.place.inFile m.file)
  · rw [Compilation.about_declare hsound hdeclared, Function.update_self] at hvisited
    -- the mark of the site contradicts that this is the first visit
    obtain ⟨j, hj, hmark⟩ := hvisited
    obtain ⟨d, hd, rfl⟩ := Option.map_eq_some_iff.mp hj
    obtain ⟨hmem, hkey⟩ := Table.key_of_entryAt? hd
    exact absurd ⟨d, hmem, hkey, hmark⟩ hfirst
  · obtain ⟨c', ds, hstate, hds, hmakes⟩ := outcome_siteValues_makes hhost hgroups D.kind
      (entered c i (D.place.inFile m.file))
      { s with compilation := entered c i (D.place.inFile m.file) }
    rw [outcome_declare_first hdeclared helaborate, outcome_annotateSite] at hrun
    generalize outcome (siteValues m D.kind groups (entered c i (D.place.inFile m.file)))
      { s with compilation := entered c i (D.place.inFile m.file) } = values at hstate hrun
    obtain ⟨g | vs, s₂⟩ := values
    · cases hrun
    · obtain rfl : s₂ = _ := hstate
      cases hrun
      exact ⟨rfl, ⟨ds, rfl, hds⟩, visitedAt_recordAll hsound hdeclared hmakes vs⟩

/-! ### Behind the declaration -/

/-- Two runs that have gone through the declaration, and made the same calls. -/
structure Passing (m : ModuleSetting) (D : DeclarationSite) (s s' : Findings) : Prop where
  coherent : s.compilation.table.Coherent
  table : s'.compilation.table = s.compilation.table
  passed : Passed m D s.compilation
  passed' : Passed m D s'.compilation

theorem Passing.symm (h : Passing m D s s') : Passing m D s' s :=
  ⟨h.table ▸ h.coherent, h.table.symm, h.passed', h.passed⟩

theorem outcome_runAll_singleton {step : ElaborationStep}
    (hrun : outcome (step.run m) s = (.ok (), s₁)) :
    outcome (runAll m [step]) s = (.ok (), s₁) :=
  (outcome_runAll_cons step [] s s₁).mpr ⟨s₁, hrun, rfl⟩

theorem Passing.run (hhost : m.host.MakesOnly) {steps steps' : List ElaborationStep}
    (h : bareSteps D steps = bareSteps D steps') (hs : Passing m D s s')
    (hrun : outcome (runAll m steps) s = (.ok (), s₁))
    (hrun' : outcome (runAll m steps') s' = (.ok (), s₁')) : Passing m D s₁ s₁' := by
  have hreaches := hhost.operates.reaches_runAll steps s
  have hreaches' := hhost.operates.reaches_runAll steps' s'
  rw [hrun] at hreaches
  rw [hrun'] at hreaches'
  refine ⟨hreaches.coherent hs.coherent, ?_, hs.passed.reaches hreaches,
    hs.passed'.reaches hreaches'⟩
  rw [table_runAll hhost.leavesTable steps' hrun', table_runAll hhost.leavesTable steps hrun,
    hs.table, ← callsOfAll_bareSteps m D _ steps, h, callsOfAll_bareSteps]

section Behind

variable {P : Pairing} (hhost : m.host.Invariant P.shift)

include hhost

theorem behind_same {step : ElaborationStep} (hpassing : Passing m D s s')
    (hs : P.Alongside m.name.dotted s s') (hrun : outcome (step.run m) s = (.ok (), s₁))
    (hrun' : outcome (step.run m) s' = (.ok (), s₁'))
    (hn : s₁.compilation.created ≤ P.shift.bound) : P.Alongside m.name.dotted s₁ s₁' := by
  have hstep := Pairing.alongside_step (m := m) hhost step hs
    (by rw [hpassing.table]; exact step.sameChoices_refl m _) (by rw [hrun]; exact hn)
  rw [hrun, hrun'] at hstep
  exact hstep.1

omit hhost in
theorem behind_declare {written written' : Except Fault Written} (hpassing : Passing m D s s')
    (hs : P.Alongside m.name.dotted s s')
    (hrun : outcome ((ElaborationStep.declare D.kind D.qualname D.place written).run m) s =
      (.ok (), s₁))
    (hrun' : outcome ((ElaborationStep.declare D.kind D.qualname D.place written').run m) s' =
      (.ok (), s₁')) : P.Alongside m.name.dotted s₁ s₁' := by
  obtain ⟨-, groups, -, -, hrun⟩ := exists_groups hrun
  obtain ⟨-, groups', -, -, hrun'⟩ := exists_groups hrun'
  rw [outcome_declare_marked hpassing.coherent hpassing.passed] at hrun
  rw [outcome_declare_marked hpassing.symm.coherent hpassing.passed'] at hrun'
  cases hrun
  cases hrun'
  exact ⟨hs.scope, hs.reports, hs.beside.declared rfl rfl⟩

mutual

theorem behind_step : ∀ (step step' : ElaborationStep) {s s' s₁ s₁' : Findings},
    step.Differ D step' → Passing m D s s' → P.Alongside m.name.dotted s s' →
      outcome (step.run m) s = (.ok (), s₁) → outcome (step'.run m) s' = (.ok (), s₁') →
      s₁.compilation.created ≤ P.shift.bound → P.Alongside m.name.dotted s₁ s₁'
  | _, _, s, s', s₁, s₁', .same step, hpassing, hs, hrun, hrun', hn =>
    behind_same hhost hpassing hs hrun hrun' hn
  | _, _, s, s', s₁, s₁', .declare _, hpassing, hs, hrun, hrun', _ =>
    behind_declare hpassing hs hrun hrun'
  | .inside steps, .inside steps', s, s', s₁, s₁', .inside h, hpassing, hs, hrun, hrun', hn => by
    rw [outcome_inside] at hrun hrun'
    split at hrun
    · rename_i s₂ hsteps
      split at hrun'
      · rename_i s₂' hsteps'
        cases hrun
        cases hrun'
        have hpassing₁ : Passing m D { s with scope := s.scope.child }
            { s' with scope := s'.scope.child } :=
          ⟨hpassing.coherent, hpassing.table, hpassing.passed, hpassing.passed'⟩
        have hafter := behind_runAll steps steps' h hpassing₁ hs.enter hsteps hsteps' hn
        exact ⟨hs.scope, hafter.reports, hafter.beside⟩
      · cases hrun'
    · cases hrun

/-- Two runs that have gone through the declaration stay alongside each other. -/
theorem behind_runAll : ∀ (steps steps' : List ElaborationStep) {s s' s₁ s₁' : Findings},
    bareSteps D steps = bareSteps D steps' → Passing m D s s' → P.Alongside m.name.dotted s s' →
      outcome (runAll m steps) s = (.ok (), s₁) → outcome (runAll m steps') s' = (.ok (), s₁') →
      s₁.compilation.created ≤ P.shift.bound → P.Alongside m.name.dotted s₁ s₁'
  | [], steps', s, s', s₁, s₁', h, _, hs, hrun, hrun', _ => by
    cases steps' with
    | nil =>
      cases hrun
      cases hrun'
      exact hs
    | cons step' rest' => simp only [bareSteps, List.nil_eq, reduceCtorEq] at h
  | step :: rest, steps', s, s', s₁, s₁', h, hpassing, hs, hrun, hrun', hn => by
    cases steps' with
    | nil => simp only [bareSteps, reduceCtorEq] at h
    | cons step' rest' =>
      rw [bareSteps, bareSteps, List.cons.injEq] at h
      obtain ⟨hstep, hrest⟩ := h
      obtain ⟨s₂, hfirst, hlater⟩ := (outcome_runAll_cons step rest s s₁).mp hrun
      obtain ⟨s₂', hfirst', hlater'⟩ := (outcome_runAll_cons step' rest' s' s₁').mp hrun'
      have hgoes := hhost.makes.goesOn_runAll rest s₂
      rw [hlater] at hgoes
      have hbare : bareSteps D [step] = bareSteps D [step'] := by
        simp only [bareSteps, hstep]
      have hpassing₂ := hpassing.run hhost.makes hbare (outcome_runAll_singleton hfirst)
        (outcome_runAll_singleton hfirst')
      have hdiffer := ElaborationStep.differ_of_bareAt_eq hstep
      have halongside := behind_step step step' hdiffer hpassing hs hfirst hfirst'
        (hgoes.created.trans hn)
      exact behind_runAll rest rest' hrest hpassing₂ halongside hlater hlater' hn

end

end Behind

/-! ### Two runs through the declaration -/

/-- Two runs that have gone through the declaration and are alongside each other since, whichever
of them has made more objects there.  At most `n` objects had been made before. -/
structure Parted (m : ModuleSetting) (D : DeclarationSite) (limit n : Nat)
    (start : DeclarationKey → Standing) (own own' : Diagnostic → Prop) (s s' : Findings) :
    Prop where
  passing : Passing m D s s'
  alongside : ∃ z : Shift, z.toRenumbering.Below limit ∧ z.bound = limit ∧
    (∀ k ≤ n, z.toRenumbering k = k) ∧
      ((localPair z (D.key m) start own own').Alongside m.name.dotted s s' ∨
        (localPair z (D.key m) start own' own).Alongside m.name.dotted s' s)

variable {own own' : Diagnostic → Prop}

theorem Parted.symm {n : Nat} (h : Parted m D limit n start own own' s s') :
    Parted m D limit n start own' own s' s := by
  obtain ⟨z, hbelow, hbound, hfixed, halongside⟩ := h.alongside
  exact ⟨h.passing.symm, z, hbelow, hbound, hfixed, halongside.symm⟩

theorem Parted.mono {n n' : Nat} (h : Parted m D limit n start own own' s s') (hle : n' ≤ n) :
    Parted m D limit n' start own own' s s' := by
  obtain ⟨z, hbelow, hbound, hfixed, halongside⟩ := h.alongside
  exact ⟨h.passing, z, hbelow, hbound, fun k hk => hfixed k (hk.trans hle), halongside⟩

/-- Outside of a class body the names are visible again that were visible before. -/
theorem Parted.leave (h : Parted m D limit s.compilation.created start own own' s₁ s₁')
    (hs : s.Settled limit start m.name.dotted) :
    Parted m D limit s.compilation.created start own own' { s₁ with scope := s.scope }
      { s₁' with scope := s.scope } := by
  obtain ⟨z, hbelow, hbound, hfixed, halongside⟩ := h.alongside
  have hscope : s.scope = s.scope.renumber z := (hs.scope z hbelow hfixed).symm
  have hpassing := h.passing
  exact ⟨⟨hpassing.coherent, hpassing.table, hpassing.passed, hpassing.passed'⟩, z, hbelow, hbound,
    hfixed, halongside.imp (fun h => ⟨hscope, h.reports, h.beside⟩)
      fun h => ⟨hscope, h.reports, h.beside⟩⟩

/-- The declaration gone through in one state, with the objects of one run numbered as those of
the other. -/
theorem beside_of_siteDone {w w' : Written} {z : Shift} (hs : s.Settled limit start m.name.dotted)
    (h : SiteDone m D w s s₁) (h' : SiteDone m D w' s s₁')
    (hchanged : s₁.compilation.changed = s.compilation.changed)
    (hchanged' : s₁'.compilation.changed = s.compilation.changed)
    (hbelow : z.toRenumbering.Below limit)
    (hfixed : ∀ k ≤ s.compilation.created, z.toRenumbering k = k)
    (hstart : s₁.compilation.created = z.start) (hrestart : s₁'.compilation.created = z.restart) :
    (localPair z (D.key m) start own own').Beside m.name.dotted s₁.compilation s₁'.compilation := by
  have hothers {key : DeclarationKey} (hkey : key ≠ D.key m) :
      s₁.compilation.about key = s.compilation.about key ∧
        s₁'.compilation.about key = s.compilation.about key :=
    ⟨h.visitedAt.others key hkey, h'.visitedAt.others key hkey⟩
  refine
    { sound := h.visitedAt.sound
      sound' := h'.visitedAt.sound
      annotatable := h'.visitedAt.annotatable.trans h.visitedAt.annotatable.symm
      abreast := ⟨⟨0, hstart, hrestart⟩, ?_⟩
      own := fun key _ => ?_
      apart := fun key hkey => ?_ }
  · rw [hchanged', hchanged]
    exact (hs.changed _ hbelow hfixed).symm
  · by_cases hkey : key = D.key m
    · subst hkey
      exact ⟨h'.visitedAt.declared.trans h.visitedAt.declared.symm,
        h'.visitedAt.visited.trans h.visitedAt.visited.symm, fun hne => absurd rfl hne⟩
    · rw [(hothers hkey).1, (hothers hkey).2]
      exact ⟨rfl, rfl, fun _ => List.forall₂_same.mpr fun r _ => .inl rfl⟩
  · have hother : key ≠ D.key m := fun hsame => hkey (hsame ▸ rfl)
    rw [(hothers hother).1, (hothers hother).2]
    exact ⟨hs.apart key hkey, hs.apart key hkey⟩

/-- The declaration gone through in one state, with more objects made in the first run. -/
theorem parted_of_siteDone {w w' : Written} (hs : s.Settled limit start m.name.dotted)
    (h : SiteDone m D w s s₁) (h' : SiteDone m D w' s s₁') (hpassing : Passing m D s₁ s₁')
    (hchanged : s₁.compilation.changed = s.compilation.changed)
    (hchanged' : s₁'.compilation.changed = s.compilation.changed)
    (hown : ∀ d, w.Refused m D.kind d → own d) (hown' : ∀ d, w'.Refused m D.kind d → own' d)
    (hle : s₁'.compilation.created ≤ s₁.compilation.created)
    (hlimit : s₁.compilation.created ≤ limit) :
    Parted m D limit s.compilation.created start own own' s₁ s₁' := by
  -- the objects behind the first run move back behind those of the second one
  obtain ⟨z, hz⟩ : ∃ z, z = Shift.back s₁.compilation.created s₁'.compilation.created limit hle
    hlimit := ⟨_, rfl⟩
  have hbelow : z.toRenumbering.Below limit := by
    subst hz
    exact Shift.back_below
  have hfixed : ∀ k ≤ s.compilation.created, z.toRenumbering k = k := by
    subst hz
    exact fun k hk => Shift.back_of_le (hk.trans h'.visitedAt.created)
  have hscope : s₁'.scope = s₁.scope.renumber z := by
    rw [h'.scope, h.scope]
    exact (hs.scope _ hbelow hfixed).symm
  obtain ⟨ds, hds, hlength, hrefused⟩ := h.reports
  obtain ⟨ds', hds', hlength', hrefused'⟩ := h'.reports
  have hreports : ReportsApart own own' s₁.diagnostics s₁'.diagnostics :=
    ⟨s.diagnostics, ds, ds', [], [], by simp [hds], by simp [hds'],
      ⟨hlength, fun d hd => hown d (hrefused d hd)⟩,
      ⟨hlength', fun d hd => hown' d (hrefused' d hd)⟩, .nil⟩
  exact ⟨hpassing, z, hbelow, by subst hz; rfl, hfixed, .inl ⟨hscope, hreports,
    beside_of_siteDone hs h h' hchanged hchanged' hbelow hfixed (by subst hz; rfl)
      (by subst hz; rfl)⟩⟩

section Parting

variable (hhost : m.host.Detached limit)

include hhost

/-- The declaration gone through in one state with different arguments. -/
theorem parted_declare {w w' : Written} {groups groups' : Groups}
    (hs : s.Settled limit start m.name.dotted)
    (hgroups : w.groups m = .ok groups) (hgroups' : w'.groups m = .ok groups')
    (hown : ∀ d, w.Refused m D.kind d → own d) (hown' : ∀ d, w'.Refused m D.kind d → own' d)
    (hrun : outcome (declare m D.kind D.qualname (D.place.inFile m.file) groups) s = (.ok (), s₁))
    (hrun' : outcome (declare m D.kind D.qualname (D.place.inFile m.file) groups') s =
      (.ok (), s₁'))
    (hchanged : s₁.compilation.changed = s.compilation.changed)
    (hchanged' : s₁'.compilation.changed = s.compilation.changed)
    (hlimit : s₁.compilation.created ≤ limit) (hlimit' : s₁'.compilation.created ≤ limit) :
    s₁' = s₁ ∨ Parted m D limit s.compilation.created start own own' s₁ s₁' := by
  have hmakes := hhost.makes
  by_cases hpassed : Passed m D s.compilation
  · -- nothing is evaluated at a site that was gone through before
    rw [outcome_declare_marked hs.sound.coherent hpassed] at hrun hrun'
    cases hrun
    cases hrun'
    exact .inl rfl
  · have hdone := siteDone_declare hmakes hs.sound hpassed hgroups hrun
    have hdone' := siteDone_declare hmakes hs.sound hpassed hgroups' hrun'
    have hmarked := marks_declare hmakes.operates D.kind D.qualname (D.place.inFile m.file)
      groups hs.sound.coherent
    have hmarked' := marks_declare hmakes.operates D.kind D.qualname (D.place.inFile m.file)
      groups' hs.sound.coherent
    have htable := table_declare hmakes.leavesTable D.kind D.qualname D.place groups s
    have htable' := table_declare hmakes.leavesTable D.kind D.qualname D.place groups' s
    rw [hrun] at hmarked htable
    rw [hrun'] at hmarked' htable'
    have hpassing : Passing m D s₁ s₁' :=
      ⟨hdone.visitedAt.sound.coherent, htable'.trans htable.symm, hmarked, hmarked'⟩
    -- the run that has made more objects is the first one
    obtain hle | hle := le_total s₁'.compilation.created s₁.compilation.created
    · exact .inr (parted_of_siteDone hs hdone hdone' hpassing hchanged hchanged' hown hown' hle
        hlimit)
    · exact .inr (parted_of_siteDone hs hdone' hdone hpassing.symm hchanged' hchanged hown' hown
        hle hlimit').symm

/-- Runs that have parted go on alongside each other. -/
theorem Parted.runAll {n : Nat} {steps steps' : List ElaborationStep}
    (hs : Parted m D limit n start own own' s s') (h : bareSteps D steps = bareSteps D steps')
    (hrun : outcome (runAll m steps) s = (.ok (), s₁))
    (hrun' : outcome (runAll m steps') s' = (.ok (), s₁'))
    (hlimit : s₁.compilation.created ≤ limit) (hlimit' : s₁'.compilation.created ≤ limit) :
    Parted m D limit n start own own' s₁ s₁' := by
  obtain ⟨z, hbelow, hbound, hfixed, halongside⟩ := hs.alongside
  have hinvariant : m.host.Invariant z := hhost z hbelow
  refine ⟨hs.passing.run hhost.makes h hrun hrun', z, hbelow, hbound, hfixed, ?_⟩
  obtain halongside | halongside := halongside
  · exact .inl (behind_runAll (P := localPair z (D.key m) start own own') hinvariant steps steps' h
      hs.passing halongside hrun hrun' (hlimit.trans hbound.ge))
  · exact .inr (behind_runAll (P := localPair z (D.key m) start own' own) hinvariant steps' steps
      h.symm hs.passing.symm halongside hrun' hrun (hlimit'.trans hbound.ge))

mutual

theorem parted_step : ∀ (step step' : ElaborationStep) {s s₁ s₁' : Findings},
    step.Differ D step' → s.Settled limit start m.name.dotted →
      (∀ w ∈ step.writtenAt D, ∀ d, w.Refused m D.kind d → own d) →
      (∀ w ∈ step'.writtenAt D, ∀ d, w.Refused m D.kind d → own' d) →
      step.LeavesObjectsAt m D s → step'.LeavesObjectsAt m D s →
      outcome (step.run m) s = (.ok (), s₁) → outcome (step'.run m) s = (.ok (), s₁') →
      s₁.compilation.created ≤ limit → s₁'.compilation.created ≤ limit →
      s₁' = s₁ ∨ Parted m D limit s.compilation.created start own own' s₁ s₁'
  | _, _, s, s₁, s₁', .same step, _, _, _, _, _, hrun, hrun', _, _ => by
    rw [hrun] at hrun'
    cases hrun'
    exact .inl rfl
  | _, _, s, s₁, s₁', .declare _, hs, hown, hown', hquiet, hquiet', hrun, hrun', hlimit,
    hlimit' => by
    simp only [ElaborationStep.LeavesObjectsAt, forall_const] at hquiet hquiet'
    rw [hrun] at hquiet
    rw [hrun'] at hquiet'
    obtain ⟨w, groups, rfl, hgroups, hrun⟩ := exists_groups hrun
    obtain ⟨w', groups', rfl, hgroups', hrun'⟩ := exists_groups hrun'
    simp only [ElaborationStep.writtenAt, if_true, List.forall_mem_singleton] at hown hown'
    exact parted_declare hhost hs hgroups hgroups' hown hown' hrun hrun' hquiet hquiet' hlimit
      hlimit'
  | .inside steps, .inside steps', s, s₁, s₁', .inside h, hs, hown, hown', hquiet, hquiet', hrun,
    hrun', hlimit, hlimit' => by
    rw [outcome_inside] at hrun hrun'
    split at hrun
    · rename_i s₂ hsteps
      split at hrun'
      · rename_i s₂' hsteps'
        cases hrun
        cases hrun'
        simp only [ElaborationStep.writtenAt] at hown hown'
        simp only [ElaborationStep.LeavesObjectsAt] at hquiet hquiet'
        obtain hsame | hparted := parted_runAll steps steps' h hs.enter hown hown' hquiet
          hquiet' hsteps hsteps' hlimit hlimit'
        · exact .inl (by rw [hsame])
        · exact .inr (hparted.leave (s := s) hs)
      · cases hrun'
    · cases hrun

/-- Two runs from one state come to the same end, or they have parted at the declaration. -/
theorem parted_runAll : ∀ (steps steps' : List ElaborationStep) {s s₁ s₁' : Findings},
    bareSteps D steps = bareSteps D steps' → s.Settled limit start m.name.dotted →
      (∀ w ∈ writtenAtAll D steps, ∀ d, w.Refused m D.kind d → own d) →
      (∀ w ∈ writtenAtAll D steps', ∀ d, w.Refused m D.kind d → own' d) →
      AllLeaveObjectsAt m D steps s → AllLeaveObjectsAt m D steps' s →
      outcome (runAll m steps) s = (.ok (), s₁) → outcome (runAll m steps') s = (.ok (), s₁') →
      s₁.compilation.created ≤ limit → s₁'.compilation.created ≤ limit →
      s₁' = s₁ ∨ Parted m D limit s.compilation.created start own own' s₁ s₁'
  | [], steps', s, s₁, s₁', h, _, _, _, _, _, hrun, hrun', _, _ => by
    cases steps' with
    | nil =>
      cases hrun
      cases hrun'
      exact .inl rfl
    | cons step' rest' => simp only [bareSteps, List.nil_eq, reduceCtorEq] at h
  | step :: rest, steps', s, s₁, s₁', h, hs, hown, hown', hquiet, hquiet', hrun, hrun', hlimit,
    hlimit' => by
    cases steps' with
    | nil => simp only [bareSteps, reduceCtorEq] at h
    | cons step' rest' =>
      rw [bareSteps, bareSteps, List.cons.injEq] at h
      obtain ⟨hstep, hrest⟩ := h
      rw [writtenAtAll, List.forall_mem_append] at hown hown'
      rw [AllLeaveObjectsAt] at hquiet hquiet'
      obtain ⟨s₂, hfirst, hlater⟩ := (outcome_runAll_cons step rest s s₁).mp hrun
      obtain ⟨s₂', hfirst', hlater'⟩ := (outcome_runAll_cons step' rest' s s₁').mp hrun'
      have hdiffer := ElaborationStep.differ_of_bareAt_eq hstep
      have hbegun := hhost.makes.goesOn_runAll [step] s
      have hgoes := hhost.makes.goesOn_runAll rest s₂
      have hgoes' := hhost.makes.goesOn_runAll rest' s₂'
      rw [outcome_runAll_singleton hfirst] at hbegun
      rw [hlater] at hgoes
      rw [hlater'] at hgoes'
      -- the runs are still the same behind the first step, or they have parted in it
      obtain rfl | hparted := parted_step step step' hdiffer hs hown.1 hown'.1 hquiet.1
        hquiet'.1 hfirst hfirst' (hgoes.created.trans hlimit) (hgoes'.created.trans hlimit')
      · have hsettled := settled_runAll hhost hs
          (congrArg Prod.snd (outcome_runAll_singleton hfirst))
        have hlast := parted_runAll rest rest' hrest hsettled hown.2 hown'.2 (hquiet.2 _ hfirst)
          (hquiet'.2 _ hfirst') hlater hlater' hlimit hlimit'
        exact hlast.imp_right fun h => h.mono hbegun.created
      · exact .inr (hparted.runAll hhost hrest hlater hlater' hlimit hlimit')

end

end Parting

end Elaboration

end Marginalia
