/-
Annotations that matter at their own declaration only.

Two modules that differ only in the arguments of the marker calls at one declaration are analysed
in the same state.  Whatever becomes of these arguments, every other declaration gets the same
records, every name denotes the same, and the same is reported elsewhere, as long as evaluating
the arguments changes no object that a later expression reaches.

* `Record.Kept` — a record of one analysis that is there in the other one as well;
* `Elaboration.Parted.kept`, `Elaboration.Parted.reports` — what two runs that have parted leave
  behind;
* `ModuleSetting.changesNothing_of_plain`, `Elaboration.allLeaveObjectsAt_of_changesNothing` —
  annotations without calls change no object;
* `Analyzer.annotations_stay_local` — the two analyses;
* `Analyzer.annotations_stay_local_not` — an argument that changes a list.
-/
import Marginalia.Proofs.AnalysedTwice
import Marginalia.Proofs.AppendOnly
import Marginalia.Proofs.PartedRuns

namespace Marginalia

theorem Compilation.Reaches.sound {c c' : Compilation} (h : c.Reaches c') (hc : c.Sound) :
    c'.Sound :=
  h.keeps hc (fun _ n cs hc => hc.made n cs) fun _ op hc => hc.perform op

/-! ### What other declarations get -/

/-- A record that is there in another run as well, or one that says the same. -/
structure Record.Kept (r r' : Record) : Prop where
  owner : r'.owner = r.owner
  ordinal : r'.ordinal = r.ordinal
  content : r' = r ∨ r.Same r'

theorem KeptContent.kept {r r' : Record} (howner : r'.owner = r.owner)
    (hordinal : r'.ordinal = r.ordinal) (h : KeptContent r.content r'.content) : r.Kept r' := by
  refine ⟨howner, hordinal, h.imp (fun hsame => ?_) SameContent.same⟩
  obtain ⟨owner, type, value, location, ordinal⟩ := r
  obtain ⟨owner', type', value', location', ordinal'⟩ := r'
  simp_all [Record.content]

/-- Records of an identity in two states that say the same are counted alike. -/
theorem kept_recordsOf {c c' : Compilation} (hc : c.Consistent) (hc' : c'.Consistent) {i : Identity}
    (h : List.Forall₂ KeptContent ((c.store.recordsOf i).map Record.content)
      ((c'.store.recordsOf i).map Record.content)) :
    List.Forall₂ Record.Kept (c.store.recordsOf i) (c'.store.recordsOf i) := by
  rw [List.forall₂_map_left_iff, List.forall₂_map_right_iff, List.forall₂_iff_get] at h
  obtain ⟨hlength, hcontent⟩ := h
  refine List.forall₂_iff_get.mpr ⟨hlength, fun n hn hn' => ?_⟩
  -- ordinals count the records of one identity
  have howner {d : Compilation} {r : Record} (hr : r ∈ d.store.recordsOf i) : r.owner = i :=
    eq_of_beq (List.mem_filter.mp hr).2
  refine (hcontent n hn hn').kept ?_ ?_
  · rw [howner (List.get_mem _ _), howner (List.get_mem _ _)]
  · exact (hc'.counted i n _ (List.getElem?_eq_getElem hn')).trans
      (hc.counted i n _ (List.getElem?_eq_getElem hn)).symm

namespace Elaboration

variable {m : ModuleSetting} {D : DeclarationSite} {limit n : Nat}
  {start : DeclarationKey → Standing} {own own' : Diagnostic → Prop} {s s' : Findings}

/-- Every identity but that of the declaration keeps its records when two runs part. -/
theorem Parted.kept (h : Parted m D limit n start own own' s s') (hs : s.compilation.Consistent)
    (hs' : s'.compilation.Consistent) {i : Identity}
    (hi : s.compilation.identityAt? (D.key m) ≠ some i) :
    List.Forall₂ Record.Kept (s.compilation.store.recordsOf i)
      (s'.compilation.store.recordsOf i) := by
  obtain ⟨z, -, -, -, halongside⟩ := h.alongside
  have hsound : s.compilation.Sound ∧ s'.compilation.Sound :=
    halongside.elim (fun h => ⟨h.beside.sound, h.beside.sound'⟩)
      fun h => ⟨h.beside.sound', h.beside.sound⟩
  have htable := h.passing.table
  cases hlive : s.compilation.table.isLive i with
  | false =>
    -- an identity that is not live has no records
    have hnone {c : Compilation} (hc : c.Sound) (hdead : c.table.isLive i = false) :
        c.store.recordsOf i = [] :=
      List.filter_eq_nil_iff.mpr fun r hr howner => by
        rw [← eq_of_beq howner, hc.recorded r hr] at hdead
        cases hdead
    rw [hnone hsound.1 hlive, hnone hsound.2 (by rw [htable, hlive])]
    exact .nil
  | true =>
    obtain ⟨key, hkey⟩ := hsound.1.exists_key hlive
    have hkey' : s'.compilation.identityAt? key = some i := by
      rwa [Compilation.identityAt?, htable]
    have hother : key ≠ D.key m := fun hsame => hi (hsame ▸ hkey)
    have habout {c c' : Compilation} {z : Shift} {own own' : Diagnostic → Prop}
        (h : (localPair z (D.key m) start own own').Beside m.name.dotted c c') :
        List.Forall₂ KeptContent (c.about key).records (c'.about key).records := by
      by_cases hmodule : key.1 = m.name.dotted
      · exact (h.own key hmodule).records hother
      · rw [(h.apart key hmodule).1, (h.apart key hmodule).2]
        exact List.forall₂_same.mpr fun r _ => .inl rfl
    have hrecords : List.Forall₂ KeptContent (s.compilation.about key).records
        (s'.compilation.about key).records :=
      halongside.elim (fun h => habout h.beside) fun h =>
        (habout h.beside).flip.imp fun _ _ h => KeptContent.symm h
    refine kept_recordsOf hs hs' ?_
    simpa only [Compilation.about, Compilation.recordsAt, hkey, hkey', Option.elim_some]
      using hrecords

theorem Parted.reports (h : Parted m D limit n start own own' s s') :
    ReportsApart own own' s.diagnostics s'.diagnostics := by
  obtain ⟨z, -, -, -, halongside⟩ := h.alongside
  exact halongside.elim (fun h => h.reports) fun h => ReportsApart.symm h.reports

end Elaboration

/-! ### Annotations without calls -/

/-- No object is changed when an expression is evaluated. -/
def ModuleSetting.ChangesNothing (m : ModuleSetting) (e : Expr) : Prop :=
  ∀ scope, (e.evaluate (m.setting scope)).LeavesObjects

/-- An expression in which nothing is called changes nothing. -/
theorem ModuleSetting.changesNothing_of_plain (m : ModuleSetting) {e : Expr}
    (h : ∀ x ∈ e.walk, x.isCall = false) : m.ChangesNothing e := fun _ =>
  Evaluation.leavesObjects_bind ((Setting.closed_leavesObjects _).hold e h) fun _ _ _ _ _ => rfl

/-- No object is changed when the annotations that are written at a declaration are evaluated. -/
def Written.ChangesNothing (m : ModuleSetting) (w : Written) : Prop :=
  ∀ a ∈ w.own.flatMap (m.spellings.annotationsWritten m.file), m.ChangesNothing a.expression

namespace Elaboration

variable {m : ModuleSetting} {D : DeclarationSite}

theorem changed_value {e : Expr} (hquiet : m.ChangesNothing e) (s : Findings) :
    (outcome (value m e) s).2.compilation.changed = s.compilation.changed := by
  have hchanged := hquiet s.scope s.compilation
  rw [outcome_evaluate] at hchanged
  rw [outcome_value]
  generalize outcome (e.hold (m.setting s.scope)) s.compilation = held at hchanged ⊢
  obtain ⟨(e | f) | k, c⟩ := held <;> exact hchanged

theorem changed_values {items : List (AnnotationItem Expr)}
    (hquiet : ∀ a ∈ items, m.ChangesNothing a.expression) (s : Findings) :
    (outcome (values m items) s).2.compilation.changed = s.compilation.changed :=
  Keeps.values (R := fun c c' => c'.changed = c.changed) (fun _ => rfl)
    (fun _ _ _ h h' => h'.trans h) fun a ha => changed_value (hquiet a ha)

theorem changed_siteValues {w : Written} {groups : Groups} (hgroups : w.groups m = .ok groups)
    (hquiet : w.ChangesNothing m) (kind : Kind) (c : Compilation) (s : Findings) :
    (outcome (siteValues m kind groups c) s).2.compilation.changed = s.compilation.changed := by
  have hitems : (outcome (itemValues m kind groups c) s).2.compilation.changed =
      s.compilation.changed := by
    unfold itemValues
    cases hvalid : groups.validate kind c with
    | error e => rfl
    | ok items =>
      unfold Written.ChangesNothing at hquiet
      rw [← (annotations_of_written hgroups).1, ← annotations_of_validate hvalid] at hquiet
      exact changed_values hquiet s
  unfold siteValues
  rw [outcome_bind]
  generalize outcome (itemValues m kind groups c) s = run at hitems ⊢
  obtain ⟨g | e | vs, s₁⟩ := run <;> exact hitems

theorem changed_declare {w : Written} {groups : Groups} (hgroups : w.groups m = .ok groups)
    (hquiet : w.ChangesNothing m) (kind : Kind) (qualname : String) (site : Location)
    (s : Findings) :
    (outcome (declare m kind qualname site groups) s).2.compilation.changed =
      s.compilation.changed := by
  obtain ⟨c, i, hdeclared⟩ :
      ∃ c i, s.compilation.declare kind m.name.dotted qualname site = (c, i) := ⟨_, _, rfl⟩
  have hbefore : c.changed = s.compilation.changed := by rw [(Compilation.declare_eq hdeclared).1]
  rw [outcome_declare, hdeclared]
  dsimp only
  split
  · rename_i c' hfirst
    have hentered : c'.changed = c.changed := by
      rw [Compilation.elaborate_eq] at hfirst
      split_ifs at hfirst <;> cases hfirst
      rfl
    have hvalues := changed_siteValues hgroups hquiet kind c' { s with compilation := c' }
    rw [outcome_annotateSite]
    generalize outcome (siteValues m kind groups c') { s with compilation := c' } = run
      at hvalues ⊢
    obtain ⟨g | vs, s₁⟩ := run
    · exact hvalues.trans (hentered.trans hbefore)
    · exact (Compilation.recordAll_changed i vs _).trans (hvalues.trans (hentered.trans hbefore))
  · exact hbefore

mutual

theorem leavesObjectsAt_of_changesNothing : ∀ (step : ElaborationStep) (s : Findings),
    (∀ w ∈ step.writtenAt D, w.ChangesNothing m) → step.LeavesObjectsAt m D s
  | .declare kind qualname p written, s, hquiet => by
    rintro rfl
    cases hrun : outcome ((ElaborationStep.declare kind qualname p written).run m) s with | mk r s₁
    cases written with
    | error f =>
      rw [ElaborationStep.run] at hrun
      cases hrun
      rfl
    | ok w =>
      rw [ElaborationStep.run, liftM_ok, pure_bind] at hrun
      cases hgroups : w.groups m with
      | error f =>
        rw [hgroups, outcome_liftM_error] at hrun
        cases hrun
        rfl
      | ok groups =>
        rw [hgroups, liftM_ok, pure_bind] at hrun
        have hchanged := changed_declare hgroups
          (hquiet w (by simp only [ElaborationStep.writtenAt, if_true, List.mem_singleton]))
          kind qualname (p.inFile m.file) s
        rwa [hrun] at hchanged
  | .inside steps, s, hquiet => allLeaveObjectsAt_of_changesNothing steps _ hquiet
  | .refuse .., _, _ | .bind .., _, _ | .assign .., _, _ | .imported .., _, _ => trivial

/-- A run changes no object at a declaration whose annotations change none anywhere. -/
theorem allLeaveObjectsAt_of_changesNothing : ∀ (steps : List ElaborationStep) (s : Findings),
    (∀ w ∈ writtenAtAll D steps, w.ChangesNothing m) → AllLeaveObjectsAt m D steps s
  | [], _, _ => trivial
  | step :: rest, s, hquiet => by
    rw [writtenAtAll, List.forall_mem_append] at hquiet
    exact ⟨leavesObjectsAt_of_changesNothing step s hquiet.1, fun s₁ _ =>
      allLeaveObjectsAt_of_changesNothing rest s₁ hquiet.2⟩

end

theorem allLeaveObjectsAt_append {before later : List ElaborationStep} {s : Findings}
    (hbefore : AllLeaveObjectsAt m D before s)
    (hlater : ∀ s₁, outcome (runAll m before) s = (.ok (), s₁) →
      AllLeaveObjectsAt m D later s₁) : AllLeaveObjectsAt m D (before ++ later) s := by
  induction before generalizing s with
  | nil => exact hlater s rfl
  | cons step rest ih =>
    refine ⟨hbefore.1, fun s₁ hstep => ih (hbefore.2 s₁ hstep) fun s₂ hrest => hlater s₂ ?_⟩
    exact (outcome_runAll_cons step rest s s₂).mpr ⟨s₁, hstep, hrest⟩

end Elaboration

/-! ### Two analyses -/

namespace Analyzer

open Elaboration

/-- What is reported when the annotations at a declaration of a module are refused. -/
def ReportedAt (m : ModuleSetting) (D : DeclarationSite) (body : List Statement)
    (d : Diagnostic) : Prop :=
  ∃ w ∈ writtenAtAll D (moduleSteps m body), w.Refused m D.kind d

/-- When a module is analysed, no object is changed by the annotations at a declaration. -/
def LeavesObjectsAt (f : Analyzer) (D : DeclarationSite) (name : ModuleName) (file : String)
    (body : List Statement) (c : Compilation) : Prop :=
  AllLeaveObjectsAt (f.module name file) D (moduleSteps (f.module name file) body)
    { compilation := c }

/-- No object that is yet to be made is named behind an analysis, if none was before it. -/
theorem namesNoneToCome_elaborate {f : Analyzer} {limit : Nat} (hhost : f.host.Detached limit)
    {c : Compilation} (hsound : c.Sound) (hfree : c.NamesNoneToCome limit) (name : ModuleName)
    (file : String) (read : Except SourceFault (List Statement)) :
    (f.elaborate name file read c).2.NamesNoneToCome limit := by
  cases read with
  | error fault => exact hfree
  | ok body =>
    rw [elaborate_compilation, wholeModule_eq]
    have hsettled : Findings.Settled limit c.about (f.module name file).name.dotted
        { compilation := c } := ⟨hsound, fun _ _ => rfl, fun _ _ _ => rfl, hfree⟩
    exact (settled_runAll (m := f.module name file) hhost hsettled rfl).changed.forget c.created

/-- **A declaration on its own.**  Two modules that differ only in the arguments of the marker
calls at one declaration are analysed in one state, which operations lead to, and both analyses
come to their end.  If evaluating the arguments changes no object and the functions of the host
answer from their arguments alone, every name denotes the same, every identity but that of the
declaration has the same records, and each analysis reports at most one problem, at the
declaration, that the other one does not.  The state may tell of changed objects of the host, and
names no object that is yet to be made. -/
theorem annotations_stay_local {f : Analyzer} {name : ModuleName} {file : String}
    {D : DeclarationSite} {body body' : List Statement} {token : Int} {kinds : List Kind}
    {c c₁ c₁' : Compilation} {a a' : Analysis} {limit : Nat} (hhost : f.host.Detached limit)
    (hreached : (Compilation.empty token kinds).Reaches c) (hfree : c.NamesNoneToCome limit)
    (hbare : bareAll (f.module name file) D {} body = bareAll (f.module name file) D {} body')
    (hquiet : f.LeavesObjectsAt D name file body c)
    (hquiet' : f.LeavesObjectsAt D name file body' c)
    (hrun : f.elaborate name file (.ok body) c = (.ok a, c₁))
    (hrun' : f.elaborate name file (.ok body') c = (.ok a', c₁'))
    (hlimit : c₁.created ≤ limit) (hlimit' : c₁'.created ≤ limit) :
    c₁'.table = c₁.table ∧
    (∀ module n, c₁'.table.resolve? module n = c₁.table.resolve? module n) ∧
    (∀ i, c₁.identityAt? (D.key (f.module name file)) ≠ some i →
      List.Forall₂ Record.Kept (c₁.store.recordsOf i) (c₁'.store.recordsOf i)) ∧
    ReportsApart (ReportedAt (f.module name file) D body) (ReportedAt (f.module name file) D body')
      a.diagnostics a'.diagnostics := by
  obtain ⟨s, hsteps, rfl, rfl⟩ := exists_run hrun
  obtain ⟨s', hsteps', rfl, rfl⟩ := exists_run hrun'
  have hsound := hreached.sound (Compilation.sound_empty token kinds)
  have hsettled : Findings.Settled limit c.about (f.module name file).name.dotted
      { compilation := c } :=
    ⟨hsound, fun _ _ => rfl, fun _ _ _ => rfl, hfree⟩
  have hown (body : List Statement) :
      ∀ w ∈ writtenAtAll D (moduleSteps (f.module name file) body), ∀ d,
        w.Refused (f.module name file) D.kind d → ReportedAt (f.module name file) D body d :=
    fun w hw d hd => ⟨w, hw, hd⟩
  obtain rfl | hparted := parted_runAll (m := f.module name file) hhost _ _
    (bareSteps_moduleSteps hbare) hsettled (hown body) (hown body') hquiet hquiet' hsteps hsteps'
    hlimit hlimit'
  · refine ⟨rfl, fun _ _ => rfl, fun i _ => List.forall₂_same.mpr fun r _ => ?_, .refl _ _ _⟩
    exact ⟨rfl, rfl, .inl rfl⟩
  · have hops : (f.module name file).host.Operates := hhost.makes.operates
    have hconsistent {steps : List ElaborationStep} {s : Findings}
        (h : outcome (runAll (f.module name file) steps) { compilation := c } = (.ok (), s)) :
        s.compilation.Consistent := by
      have hreaches := hops.reaches_runAll steps { compilation := c }
      rw [h] at hreaches
      exact (hreached.trans hreaches).consistent (Compilation.consistent_empty token kinds)
    have htable := hparted.passing.table
    exact ⟨htable, fun module n => congrArg (fun t => t.resolve? module n) htable, fun i hi =>
      hparted.kept (hconsistent hsteps) (hconsistent hsteps') hi, hparted.reports⟩

/-- A class of records with a number. -/
def portClass : RecordClass := { module := "m", name := "Port", fields := [{ name := "number" }] }

/-- An analyzer with the class, which accepts positive numbers only. -/
def portAnalyzer : Analyzer where
  host :=
    { names := [("Port", .type (.record portClass))]
      accepts := fun _ vs => match vs with
        | [.int n] => if n ≤ 0 then .error (.runtime "port must be positive") else .ok ()
        | _ => .ok () }

theorem detached_portAnalyzer (limit : Nat) : portAnalyzer.host.Detached limit := by
  refine Host.detached_of_refusals (fun f _ e he => ?_) fun f c vs => ?_
  · obtain rfl := List.mem_singleton.mp he
    simp
  · cases vs with
    | nil => rfl
    | cons v vs =>
      cases vs with
      | nil => cases v <;> simp
      | cons w vs => cases v <;> simp

/-- What the names in the module `m` stand for. -/
def portModule : ModuleSetting := portAnalyzer.module ⟨"m", false⟩ "m.py"

/-- A function that is annotated with an expression, between a list and a function that is
annotated with a tuple of its items. -/
def besideList (e : Expr) : List Statement :=
  [.assign ⟨1, 0⟩ [.name ⟨1, 0⟩ "X"] (.list ⟨1, 4⟩ [.literal ⟨1, 5⟩ (.int 1)]),
    .function ⟨3, 0⟩ "f" [] ⟨{}, [], [], []⟩ none [.call ⟨2, 1⟩ (.name ⟨2, 1⟩ "meta") [e] []]
      [.plain ⟨3, 9⟩ .pass []],
    .function ⟨5, 0⟩ "g" [] ⟨{}, [], [], []⟩ none
      [.call ⟨4, 1⟩ (.name ⟨4, 1⟩ "meta")
        [.call ⟨4, 6⟩ (.name ⟨4, 6⟩ "tuple") [.name ⟨4, 12⟩ "X"] []] []]
      [.plain ⟨5, 9⟩ .pass []]]

/-- The function with the expression. -/
def annotatedSite : DeclarationSite := ⟨.function, "f", ⟨3, 0⟩⟩

/-- The analysis of the function with the expression. -/
def annotatedRun (e : Expr) : Except Fault Analysis × Compilation :=
  portAnalyzer.elaborate ⟨"m", false⟩ "m.py" (.ok (besideList e)) (.empty 1 Kind.all)

theorem bareAll_besideList (e e' : Expr) :
    bareAll portModule annotatedSite {} (besideList e) =
      bareAll portModule annotatedSite {} (besideList e') := rfl

/-- A number that is not accepted. -/
def refusedPort : Expr :=
  .call ⟨2, 6⟩ (.name ⟨2, 6⟩ "Port") [.literal ⟨2, 11⟩ (.int 0)] []

/-- A number. -/
def plainNumber : Expr := .literal ⟨2, 6⟩ (.int 3)

/-- A list of what appending to the list answers. -/
def appending : Expr :=
  .list ⟨2, 6⟩ [.call ⟨2, 7⟩ (.access ⟨2, 7⟩ (.name ⟨2, 7⟩ "X") "append")
    [.literal ⟨2, 16⟩ (.int 2)] []]

/-- What is written at the function. -/
def writtenWith (e : Expr) : Written := { own := [.call ⟨2, 1⟩ (.name ⟨2, 1⟩ "meta") [e] []] }

/-- An annotation without calls changes no object. -/
theorem leavesObjectsAt_besideList {e : Expr} (hplain : ∀ x ∈ e.walk, x.isCall = false)
    (c : Compilation) :
    portAnalyzer.LeavesObjectsAt annotatedSite ⟨"m", false⟩ "m.py" (besideList e) c := by
  refine allLeaveObjectsAt_of_changesNothing _ _ fun w hw a ha => ?_
  have hwritten : writtenAtAll annotatedSite (moduleSteps portModule (besideList e)) =
      [writtenWith e] := rfl
  obtain rfl := List.mem_singleton.mp (hwritten ▸ hw : w ∈ [writtenWith e])
  simp only [writtenWith, List.flatMap_cons, List.flatMap_nil, List.append_nil,
    Spellings.annotationsWritten] at ha
  split at ha
  · obtain ⟨x, hx, rfl⟩ := List.mem_map.mp ha
    obtain rfl := List.mem_singleton.mp (List.mem_filter.mp hx).1
    exact ModuleSetting.changesNothing_of_plain _ hplain
  · cases ha

/-- What is gone through in front of the function. -/
def stepsBefore : List ElaborationStep :=
  (moduleSteps portModule (besideList refusedPort)).take 2

/-- What is gone through behind the function. -/
def stepsBehind : List ElaborationStep :=
  (moduleSteps portModule (besideList refusedPort)).drop 3

/-- The state in front of the function. -/
def stateBefore : Findings :=
  (outcome (runAll portModule stepsBefore) { compilation := .empty 1 Kind.all }).2

/-- A call of the class changes no object. -/
theorem leavesObjectsAt_refusedPort :
    portAnalyzer.LeavesObjectsAt annotatedSite ⟨"m", false⟩ "m.py" (besideList refusedPort)
      (.empty 1 Kind.all) := by
  have hsteps : moduleSteps portModule (besideList refusedPort) = stepsBefore ++
      .declare .function "f" ⟨3, 0⟩ (.ok (writtenWith refusedPort)) :: stepsBehind := rfl
  have hnone {steps : List ElaborationStep} (h : writtenAtAll annotatedSite steps = [])
      (s : Findings) : AllLeaveObjectsAt portModule annotatedSite steps s :=
    allLeaveObjectsAt_of_changesNothing _ _ (by rw [h]; simp)
  unfold LeavesObjectsAt
  show AllLeaveObjectsAt portModule annotatedSite
    (moduleSteps portModule (besideList refusedPort)) _
  rw [hsteps]
  refine allLeaveObjectsAt_append (hnone rfl _) fun s hrun =>
    ⟨fun _ => ?_, fun s₁ _ => hnone rfl s₁⟩
  -- no object was changed up to the function, nor by the call
  obtain rfl : s = stateBefore := (congrArg Prod.snd hrun).symm
  have hunchanged : stateBefore.compilation.changed.isEmpty = true := by decide +kernel
  rw [List.isEmpty_iff.mp hunchanged]
  refine List.isEmpty_iff.mp ?_
  decide +kernel

/-- An annotation that the class refuses, or a number: the other function is annotated with the
same tuple. -/
theorem annotations_stay_local_failure :
    ∃ a a' c₁ c₁', portAnalyzer.host.Detached 100 ∧
      bareAll portModule annotatedSite {} (besideList refusedPort) =
        bareAll portModule annotatedSite {} (besideList plainNumber) ∧
      portAnalyzer.LeavesObjectsAt annotatedSite ⟨"m", false⟩ "m.py" (besideList refusedPort)
        (.empty 1 Kind.all) ∧
      portAnalyzer.LeavesObjectsAt annotatedSite ⟨"m", false⟩ "m.py" (besideList plainNumber)
        (.empty 1 Kind.all) ∧
      annotatedRun refusedPort = (.ok a, c₁) ∧ annotatedRun plainNumber = (.ok a', c₁') ∧
      (c₁.store.recordsOf ⟨1, 2⟩).length = 0 ∧ (c₁'.store.recordsOf ⟨1, 2⟩).length = 1 ∧
      (c₁.store.recordsOf ⟨1, 3⟩).length = 1 ∧
      List.Forall₂ Record.Kept (c₁.store.recordsOf ⟨1, 3⟩) (c₁'.store.recordsOf ⟨1, 3⟩) ∧
      ReportsApart (ReportedAt portModule annotatedSite (besideList refusedPort))
        (ReportedAt portModule annotatedSite (besideList plainNumber))
        a.diagnostics a'.diagnostics := by
  have hhost := detached_portAnalyzer 100
  have hbare := bareAll_besideList refusedPort plainNumber
  have hquiet := leavesObjectsAt_refusedPort
  have hquiet' := leavesObjectsAt_besideList (e := plainNumber) (by decide) (.empty 1 Kind.all)
  obtain ⟨a, hrun⟩ := exists_answer (annotatedRun refusedPort) (by decide +kernel)
  obtain ⟨a', hrun'⟩ := exists_answer (annotatedRun plainNumber) (by decide +kernel)
  have hfree : (Compilation.empty 1 Kind.all).NamesNoneToCome 100 :=
    Compilation.namesNoneToCome_of_unchanged rfl 100
  obtain ⟨-, -, hrecords, hreports⟩ := @annotations_stay_local portAnalyzer ⟨"m", false⟩ "m.py"
    annotatedSite (besideList refusedPort) (besideList plainNumber) 1 Kind.all (.empty 1 Kind.all)
    (annotatedRun refusedPort).2 (annotatedRun plainNumber).2 a a' 100 hhost (.refl _) hfree hbare
    hquiet hquiet' hrun hrun' (by decide +kernel) (by decide +kernel)
  have hother : (annotatedRun refusedPort).2.identityAt? (annotatedSite.key portModule) ≠
      some ⟨1, 3⟩ := by
    decide +kernel
  exact ⟨a, a', _, _, hhost, hbare, hquiet, hquiet', hrun, hrun', by decide +kernel,
    by decide +kernel, by decide +kernel, hrecords ⟨1, 3⟩ hother, hreports⟩

theorem written_of_kept {rs rs' : List Record} (h : List.Forall₂ Record.Kept rs rs') :
    rs'.map (fun r => r.value.written) = rs.map fun r => r.value.written := by
  induction h with
  | nil => rfl
  | cons h _ ih =>
    obtain hsame | hsame := h.content
    · rw [List.map_cons, List.map_cons, hsame, ih]
    · rw [List.map_cons, List.map_cons, hsame.value.written_eq, ih]

/-- An argument can matter to another declaration: a call changes the list that a later annotation
is made from, and the argument with the call is refused. -/
theorem annotations_stay_local_not :
    ¬ ∀ (f : Analyzer) (name : ModuleName) (file : String) (D : DeclarationSite)
      (body body' : List Statement) (token : Int) (kinds : List Kind) (a a' : Analysis)
      (c₁ c₁' : Compilation) (limit : Nat), f.host.Detached limit →
      bareAll (f.module name file) D {} body = bareAll (f.module name file) D {} body' →
      f.elaborate name file (.ok body) (.empty token kinds) = (.ok a, c₁) →
      f.elaborate name file (.ok body') (.empty token kinds) = (.ok a', c₁') →
      c₁.created ≤ limit → c₁'.created ≤ limit →
        ∀ i, c₁.identityAt? (D.key (f.module name file)) ≠ some i →
          List.Forall₂ Record.Kept (c₁.store.recordsOf i) (c₁'.store.recordsOf i) := by
  intro hclaim
  obtain ⟨a, hrun⟩ := exists_answer (annotatedRun appending) (by decide +kernel)
  obtain ⟨a', hrun'⟩ := exists_answer (annotatedRun plainNumber) (by decide +kernel)
  have hkept := hclaim portAnalyzer ⟨"m", false⟩ "m.py" annotatedSite (besideList appending)
    (besideList plainNumber) 1 Kind.all a a' _ _ 100 (detached_portAnalyzer 100)
    (bareAll_besideList appending plainNumber) hrun hrun' (by decide +kernel) (by decide +kernel)
    ⟨1, 3⟩ (by decide +kernel)
  have hwritten := written_of_kept hkept
  revert hwritten
  decide +kernel

end Analyzer

end Marginalia
