/-
The same module analysed twice.

A second analysis of a module, right behind the first one, declares everything again at the same
sites.  It finds no new site and leaves every name as it is, provided that it makes the calls that
the first one has made: an assignment that makes another name has to do so both times, and for the
same declaration.

* `Table.resolve?_after_again` — calls that are made again leave what every name denotes;
* `Elaboration.sites_runAll_again` — steps whose calls have all been made find no new site;
* `Analyzer.analysed_again` — the second analysis of a module;
* `Analyzer.analysed_again_not` — an assignment of a class that is declared behind it becomes
  another name for it in the second analysis.
-/
import Marginalia.Proofs.LegibleSource
import Marginalia.Proofs.Reanalysis
import Marginalia.Proofs.StepCalls

namespace Marginalia

/-! ### Calls that are made again -/

namespace Table

variable {t t' : Table} {k : NameKey} {i : Identity}

theorem Leads.congr {key : NameKey} {trail : List NameKey}
    (hbindings : ∀ k, t'.binding? k = t.binding? k) (hentries : t'.entries = t.entries)
    (h : t.Leads key trail i) : t'.Leads key trail i := by
  induction h with
  | declared bound => exact .declared ((hbindings _).trans bound)
  | sameAs bound _ ih => exact .sameAs ((hbindings _).trans bound) ih
  | submodule unbound plain bound =>
    exact .submodule ((hbindings _).trans unbound) plain ((hbindings _).trans bound)
  | member unbound dotted _ entry _ ih ih' =>
    refine .member ((hbindings _).trans unbound) dotted ih ?_ ih'
    unfold entry?
    rwa [hentries]

/-- What names denote depends on bindings and entries alone. -/
theorem resolve?_congr (hbindings : ∀ k, t'.binding? k = t.binding? k)
    (hentries : t'.entries = t.entries) (module name : String) :
    t'.resolve? module name = t.resolve? module name := by
  ext i
  rw [resolve?_eq_some_iff, resolve?_eq_some_iff]
  exact ⟨fun ⟨trail, h, hnodup⟩ =>
      ⟨trail, h.congr (fun k => (hbindings k).symm) hentries.symm, hnodup⟩,
    fun ⟨trail, h, hnodup⟩ => ⟨trail, h.congr hbindings hentries, hnodup⟩⟩

/-- What a call binds its name to is settled once it was made. -/
theorem Coherent.bound_eq (h : t'.Coherent) {c : Call} (hext : (t.call c).Extends t') :
    t'.bound c = t.bound c := by
  cases c with
  | addAlias => rfl
  | declare kind module qualname site =>
    obtain ⟨d, hd, hid, hkey⟩ := t.declare_entry kind module qualname site
    obtain ⟨d', hd', hlater⟩ := hext.mem hd
    rw [Table.bound, Table.bound]
    congr 1
    cases hfound : t'.entryAt? (module, qualname, kind) with
    | none =>
      exact absurd (List.mem_map.mpr ⟨d', hd', hlater.key.trans hkey⟩) (entryAt?_eq_none hfound)
    | some e =>
      obtain ⟨he, hkey'⟩ := key_of_entryAt? hfound
      have hsame : e.identity = d'.identity :=
        (h.identity_eq_iff he hd').mpr (hkey'.trans (hlater.key.trans hkey).symm)
      rw [(t'.declare_of_entryAt? kind module qualname site hfound).1, hsame, hlater.identity, hid]

/-- A name that calls bind is bound to the same thing when they are made again. -/
theorem Coherent.binding?_again (h : t'.Coherent) {calls : List Call}
    (hext : (t.after calls).Extends t') (hk : ∃ c ∈ calls, c.name = k) :
    (t'.after calls).binding? k = (t.after calls).binding? k := by
  induction calls using List.reverseRecOn with
  | nil => simp at hk
  | append_singleton calls c ih =>
    rw [after_append] at hext ⊢
    rw [after_append]
    have hbefore : (t.after calls).Extends t' := ((t.after calls).extends_call c).trans hext
    rw [after_cons, after_nil, after_cons, after_nil, binding?_call, binding?_call]
    split
    · rw [(h.after calls).bound_eq (hext.trans (t'.extends_after calls))]
    · rename_i hne
      refine ih hbefore ?_
      obtain ⟨c', hc', rfl⟩ := hk
      obtain hc' | hc' := List.mem_append.mp hc'
      · exact ⟨c', hc', rfl⟩
      · exact absurd (congrArg Call.name (List.mem_singleton.mp hc')) hne

/-- A table has an entry for what a call declares, at its site. -/
def Knows (t : Table) : Call → Prop
  | .declare kind module qualname site =>
    ∃ d ∈ t.entries, d.key = (module, qualname, kind) ∧ site ∈ d.sites
  | .addAlias .. => True

theorem Knows.extends {c : Call} (h : t.Knows c) (hext : t.Extends t') : t'.Knows c := by
  cases c with
  | addAlias => trivial
  | declare kind module qualname site =>
    obtain ⟨d, hd, hkey, hsite⟩ := h
    obtain ⟨d', hd', hlater⟩ := hext.mem hd
    exact ⟨d', hd', hlater.key.trans hkey, hlater.sites.subset hsite⟩

theorem knows_call (t : Table) (c : Call) : (t.call c).Knows c := by
  cases c with
  | addAlias => trivial
  | declare kind module qualname site =>
    unfold Knows call
    cases hfound : t.entryAt? (module, qualname, kind) with
    | none =>
      rw [(t.declare_of_entryAt?_none kind module qualname site hfound).2]
      exact ⟨_, List.mem_append_right _ List.mem_cons_self, rfl, List.mem_cons_self⟩
    | some e =>
      obtain ⟨he, hkey⟩ := key_of_entryAt? hfound
      rw [(t.declare_of_entryAt? kind module qualname site hfound).2]
      refine ⟨_, List.mem_map_of_mem he, by rw [Declaration.declaredAt_key, hkey], ?_⟩
      rw [Declaration.declaredAt, if_pos hkey, Declaration.addSite_sites]
      split
      · assumption
      · exact List.mem_append_right _ List.mem_cons_self

theorem knows_after {calls : List Call} {c : Call} (hc : c ∈ calls) : (t.after calls).Knows c := by
  obtain ⟨before, later, rfl⟩ := List.append_of_mem hc
  rw [after_append, after_cons]
  exact ((t.after before).knows_call c).extends (extends_after _ later)

/-- Declaring what is known changes no entry. -/
theorem Coherent.entries_call (h : t.Coherent) {c : Call} (hknows : t.Knows c) :
    (t.call c).entries = t.entries := by
  cases c with
  | addAlias => rfl
  | declare kind module qualname site =>
    obtain ⟨d, hd, hkey, hsite⟩ := hknows
    cases hfound : t.entryAt? (module, qualname, kind) with
    | none => exact absurd (List.mem_map.mpr ⟨d, hd, hkey⟩) (entryAt?_eq_none hfound)
    | some e =>
      refine (t.declare_of_entryAt? kind module qualname site hfound).2.trans ?_
      refine (List.map_congr_left fun e he => ?_).trans (List.map_id _)
      rw [Declaration.declaredAt, id]
      split
      · rename_i hekey
        -- the entry of the key is the one that has the site
        obtain rfl : e = d := List.inj_on_of_nodup_map h.distinct he hd (hekey.trans hkey.symm)
        rw [Declaration.addSite, if_pos hsite]
      · rfl

theorem Coherent.entries_after (h : t.Coherent) {calls : List Call}
    (hknows : ∀ c ∈ calls, t.Knows c) : (t.after calls).entries = t.entries := by
  induction calls generalizing t with
  | nil => rfl
  | cons c calls ih =>
    obtain ⟨hc, hcalls⟩ := List.forall_mem_cons.mp hknows
    rw [after_cons, ih (h.call c) fun c' hc' => (hcalls c' hc').extends (t.extends_call c),
      h.entries_call hc]

/-- **Calls made again.**  When calls that were made are made again, in the same order, every name
denotes what it denoted before. -/
theorem Coherent.resolve?_after_again (h : t.Coherent) (calls : List Call) (module name : String) :
    ((t.after calls).after calls).resolve? module name = (t.after calls).resolve? module name := by
  have hafter := h.after calls
  refine resolve?_congr (fun k => ?_) (hafter.entries_after fun c => knows_after) module name
  by_cases hk : ∃ c ∈ calls, c.name = k
  · exact hafter.binding?_again (.refl _) hk
  · exact binding?_after fun c hc hname => hk ⟨c, hc, hname⟩

end Table

/-! ### Sites of calls -/

/-- What some calls declare was gone through at its site. -/
def Compilation.MarkedBy (c : Compilation) (calls : List Table.Call) : Prop :=
  ∀ kind module qualname site, Table.Call.declare kind module qualname site ∈ calls →
    c.Marked (module, qualname, kind) site

namespace Elaboration

variable {m : ModuleSetting} {s s' : Findings}

theorem markedBy_nil (c : Compilation) : c.MarkedBy [] := fun _ _ _ _ h => nomatch h

theorem markedBy_singleton {c : Compilation} {kind : Kind} {module qualname : String}
    {site : Location} :
    c.MarkedBy [.declare kind module qualname site] ↔ c.Marked (module, qualname, kind) site := by
  simp only [Compilation.MarkedBy, List.mem_singleton, Table.Call.declare.injEq]
  exact ⟨fun h => h kind module qualname site ⟨rfl, rfl, rfl, rfl⟩, by
    rintro h _ _ _ _ ⟨rfl, rfl, rfl, rfl⟩
    exact h⟩

theorem markedBy_append {c : Compilation} {calls calls' : List Table.Call} :
    c.MarkedBy (calls ++ calls') ↔ c.MarkedBy calls ∧ c.MarkedBy calls' := by
  simp only [Compilation.MarkedBy, List.mem_append, or_imp, forall_and]

theorem markedBy_reaches {c c' : Compilation} {calls : List Table.Call} (h : c.MarkedBy calls)
    (hreaches : c.Reaches c') : c'.MarkedBy calls :=
  fun kind module qualname site hcall => (h kind module qualname site hcall).reaches hreaches

/-! ### The first time -/

/-- An assignment that declares a name marks its site. -/
theorem markedBy_assign (hops : m.host.Operates) (hcoherent : s.compilation.table.Coherent)
    (b : Body) (p : Place) (name : String) (e : Expr) :
    (outcome ((ElaborationStep.assign b p name e).run m) s).2.compilation.MarkedBy
      [assignCall m b p name e s.compilation.table] := by
  rw [run_assign, assignCall]
  cases halias : madeAlias? m b s.compilation.table e with
  | some d =>
    intro _ _ _ _ hcall
    cases List.mem_singleton.mp hcall
  | none =>
    have hmarked := marks_declare hops (variableKind b name) (Dotted.under b.qualifier name)
      (p.inFile m.file) {} hcoherent
    rw [outcome_bind_ok (outcome_tryAlias_of_none name halias)]
    simp only [Bool.not_false, if_true]
    refine markedBy_singleton.mpr ?_
    -- the site is marked by now, whatever becomes of the value
    rw [outcome_bind]
    split
    · rename_i u s₁ hrun
      rw [hrun] at hmarked
      exact hmarked.reaches (hops.keeps.evaluating.bindTo name (some e))
    · rename_i f s₁ hrun
      rwa [hrun] at hmarked

mutual

theorem markedBy_step (hops : m.host.Operates) (hhost : m.host.LeavesTable) :
    ∀ (step : ElaborationStep) {s s' : Findings}, s.compilation.table.Coherent →
      outcome (step.run m) s = (.ok (), s') →
      s'.compilation.MarkedBy (step.calls m s.compilation.table)
  | .declare kind qualname p written, s, s', hcoherent, hrun => by
    obtain ⟨w, groups, -, -, hrun⟩ := exists_groups hrun
    have hmarked := marks_declare hops kind qualname (p.inFile m.file) groups hcoherent
    rw [hrun] at hmarked
    exact markedBy_singleton.mpr hmarked
  | .assign b p name e, s, s', hcoherent, hrun => by
    have hmarked := markedBy_assign hops hcoherent b p name e
    rwa [hrun] at hmarked
  | .imported b name module target, s, s', _, _ => fun _ _ _ _ h => nomatch List.mem_singleton.mp h
  | .refuse es, s, s', _, _ | .bind name v, s, s', _, _ => markedBy_nil _
  | .inside steps, s, s', hcoherent, hrun => by
    rw [outcome_inside] at hrun
    split at hrun
    · rename_i s₁ hinner
      have hmarked := markedBy_runAll hops hhost steps (s := { s with scope := s.scope.child })
        hcoherent hinner
      cases hrun
      exact hmarked
    · cases hrun

/-- Steps that come to their end have marked what they have declared. -/
theorem markedBy_runAll (hops : m.host.Operates) (hhost : m.host.LeavesTable) :
    ∀ (steps : List ElaborationStep) {s s' : Findings}, s.compilation.table.Coherent →
      outcome (runAll m steps) s = (.ok (), s') →
      s'.compilation.MarkedBy (callsOfAll m s.compilation.table steps)
  | [], s, s', _, _ => markedBy_nil _
  | step :: rest, s, s', hcoherent, hrun => by
    obtain ⟨s₁, hstep, hrest⟩ := (outcome_runAll_cons step rest s s').mp hrun
    have htable := table_step hhost step hstep
    have hend := hops.reaches_runAll rest s₁
    rw [hrest] at hend
    have hlater := markedBy_runAll hops hhost rest
      (by rw [htable]; exact hcoherent.after _) hrest
    rw [htable] at hlater
    rw [callsOfAll]
    exact markedBy_append.mpr
      ⟨markedBy_reaches (markedBy_step hops hhost step hcoherent hstep) hend, hlater⟩

end

/-! ### The second time -/

/-- A declaration whose site was gone through finds no new site. -/
theorem sites_declare_again (hcoherent : s.compilation.table.Coherent) {kind : Kind}
    {qualname : String} {site : Location} (groups : Groups)
    (hmarked : s.compilation.Marked (m.name.dotted, qualname, kind) site) :
    (outcome (declare m kind qualname site groups) s).2.sites = s.sites := by
  rw [outcome_declare_marked hcoherent hmarked]

theorem unmoved_sites : Findings.Unmoved fun s s' => s'.sites = s.sites where
  trans h h' := h'.trans h
  compilation _ _ := rfl

/-- Binding a name finds no site. -/
theorem sites_bindTo (name : String) (v : Option Expr) (s : Findings) :
    (outcome (bindTo m name v) s).2.sites = s.sites :=
  unmoved_sites.bindTo (fun _ _ => rfl) name v s

theorem sites_assign_again (hcoherent : s.compilation.table.Coherent) {b : Body} {p : Place}
    {name : String} {e : Expr}
    (hmarked : s.compilation.MarkedBy [assignCall m b p name e s.compilation.table]) :
    (outcome ((ElaborationStep.assign b p name e).run m) s).2.sites = s.sites := by
  rw [assignCall] at hmarked
  rw [run_assign]
  cases halias : madeAlias? m b s.compilation.table e with
  | some d =>
    rw [outcome_bind_ok (outcome_tryAlias_of_some name halias)]
    rfl
  | none =>
    rw [halias] at hmarked
    have hsites := sites_declare_again hcoherent {} (markedBy_singleton.mp hmarked)
    rw [outcome_bind_ok (outcome_tryAlias_of_none name halias)]
    simp only [Bool.not_false, if_true]
    rw [outcome_bind]
    split
    · rename_i u s₁ hrun
      rw [hrun] at hsites
      exact (sites_bindTo name (some e) s₁).trans hsites
    · rename_i f s₁ hrun
      rwa [hrun] at hsites

theorem sites_refuseIn (es : List Expr) (s : Findings) :
    (outcome (refuseIn m es) s).2.sites = s.sites := by
  unfold refuseIn
  cases m.spellings.groupsIn m.file es with
  | error f => rfl
  | ok groups =>
    rw [liftM_ok, pure_bind, outcome_bind_ok (outcome_get s)]
    split <;> rfl

mutual

theorem sites_step_again (hops : m.host.Operates) (hhost : m.host.LeavesTable) :
    ∀ (step : ElaborationStep) {s s' : Findings}, s.compilation.table.Coherent →
      s.compilation.MarkedBy (step.calls m s.compilation.table) →
      outcome (step.run m) s = (.ok (), s') → s'.sites = s.sites
  | .declare kind qualname p written, s, s', hcoherent, hmarked, hrun => by
    obtain ⟨w, groups, -, -, hrun⟩ := exists_groups hrun
    have hsites := sites_declare_again hcoherent groups (markedBy_singleton.mp hmarked)
    rwa [hrun] at hsites
  | .assign b p name e, s, s', hcoherent, hmarked, hrun => by
    have hsites := sites_assign_again hcoherent hmarked
    rwa [hrun] at hsites
  | .imported b name module target, s, s', _, _, hrun => by
    rw [ElaborationStep.run] at hrun
    cases hrun
    rfl
  | .refuse es, s, s', _, _, hrun => by
    have hsites := sites_refuseIn (m := m) es s
    rw [ElaborationStep.run] at hrun
    rwa [hrun] at hsites
  | .bind name v, s, s', _, _, hrun => by
    have hsites := sites_bindTo (m := m) name v s
    rw [ElaborationStep.run] at hrun
    rwa [hrun] at hsites
  | .inside steps, s, s', hcoherent, hmarked, hrun => by
    rw [outcome_inside] at hrun
    split at hrun
    · rename_i s₁ hinner
      have hsites := sites_runAll_again hops hhost steps
        (s := { s with scope := s.scope.child }) hcoherent hmarked hinner
      cases hrun
      exact hsites
    · cases hrun

/-- Steps whose declarations were all gone through find no new site. -/
theorem sites_runAll_again (hops : m.host.Operates) (hhost : m.host.LeavesTable) :
    ∀ (steps : List ElaborationStep) {s s' : Findings}, s.compilation.table.Coherent →
      s.compilation.MarkedBy (callsOfAll m s.compilation.table steps) →
      outcome (runAll m steps) s = (.ok (), s') → s'.sites = s.sites
  | [], s, s', _, _, hrun => by
    cases hrun
    rfl
  | step :: rest, s, s', hcoherent, hmarked, hrun => by
    obtain ⟨s₁, hstep, hrest⟩ := (outcome_runAll_cons step rest s s').mp hrun
    rw [callsOfAll] at hmarked
    obtain ⟨hfirst, hlater⟩ := markedBy_append.mp hmarked
    have htable := table_step hhost step hstep
    have hreached := hops.keeps.step step (hops.keepsAt _) s
    rw [Keeps, hstep] at hreached
    rw [sites_runAll_again hops hhost rest (by rw [htable]; exact hcoherent.after _)
      (by rw [htable]; exact markedBy_reaches hlater hreached) hrest,
      sites_step_again hops hhost step hcoherent hfirst hstep]

end

end Elaboration

/-! ### Two analyses -/

namespace Analyzer

open Elaboration

/-- **Twice.**  The analysis of a module that has come to its end, from any state, is done again
right behind it.  If no evaluation that the second analysis makes ends in a fault of its own, and it
makes the calls of the first one, it comes to its end, lists no declaration, and leaves what every
name denotes.  What was read is that of any source text. -/
theorem analysed_again {f : Analyzer} {name : ModuleName} {file : String}
    {read : Except SourceFault (List Statement)} {c c' : Compilation} {a : Analysis}
    (hops : f.host.Operates) (hhost : f.host.LeavesTable) (hcoherent : c.table.Coherent)
    (hcontained : ∀ body, read = .ok body →
      AllContained (f.module name file) (moduleSteps (f.module name file) body)
        { compilation := c' })
    (hfirst : f.elaborate name file read c = (.ok a, c'))
    (hsame : ∀ body, read = .ok body →
      callsOfAll (f.module name file) c'.table (moduleSteps (f.module name file) body) =
        callsOfAll (f.module name file) c.table (moduleSteps (f.module name file) body)) :
    ∃ a' c'', f.elaborate name file read c' = (.ok a', c'') ∧ a'.sites = [] ∧
      (∀ module n, c''.table.resolve? module n = c'.table.resolve? module n) ∧
      ∀ source, f.readSource source = read →
        f.analyzeText name file source c = (.ok a, c') ∧
          f.analyzeText name file source c' = (.ok a', c'') := by
  suffices hagain : ∃ a' c'', f.elaborate name file read c' = (.ok a', c'') ∧ a'.sites = [] ∧
      ∀ module n, c''.table.resolve? module n = c'.table.resolve? module n by
    obtain ⟨a', c'', hsecond, hsites, hnames⟩ := hagain
    refine ⟨a', c'', hsecond, hsites, hnames, ?_⟩
    rintro source rfl
    rw [analyzeText_eq, analyzeText_eq]
    exact ⟨hfirst, hsecond⟩
  cases read with
  | error fault =>
    cases hfirst
    exact ⟨_, _, rfl, rfl, fun _ _ => rfl⟩
  | ok body =>
    obtain ⟨s, hrun, rfl, rfl⟩ := exists_run hfirst
    have hcontained := hcontained body rfl
    have hsame := hsame body rfl
    have htable := table_runAll (m := f.module name file) hhost _ hrun
    have hmarked := markedBy_runAll (m := f.module name file) hops hhost _ hcoherent hrun
    -- nothing but an evaluation could end the second run, as the source could be read
    obtain ⟨_, s', hrun'⟩ := finishes_runAll _ (legible_of_runAll _ hrun) hcontained
    have htable' := table_runAll (m := f.module name file) hhost _ hrun'
    have hforget : (s.compilation.forget c.created).table = s.compilation.table := rfl
    refine ⟨_, _, elaborate_of_run hrun', ?_, fun module n => ?_⟩
    · refine sites_runAll_again (m := f.module name file) hops hhost _ ?_ ?_ hrun'
      · rw [hforget, htable]
        exact hcoherent.after _
      · rw [hsame]
        exact markedBy_reaches hmarked (Compilation.reaches_changed _ _)
    · show s'.compilation.table.resolve? module n = _
      rw [htable', hsame, hforget, htable]
      exact hcoherent.resolve?_after_again _ module n

/-- A variable that is another name for a class, which is declared in front of it. -/
def classAndName : List Statement :=
  [.classDef ⟨1, 0⟩ "Y" [] [] [] [] [.plain ⟨1, 9⟩ .pass []],
    .assign ⟨2, 0⟩ [.name ⟨2, 0⟩ "X"] (.name ⟨2, 4⟩ "Y")]

/-- A variable with the name of a class that is declared behind it as its value. -/
def nameAndClass : List Statement :=
  [.assign ⟨1, 0⟩ [.name ⟨1, 0⟩ "X"] (.name ⟨1, 4⟩ "Y"),
    .classDef ⟨2, 0⟩ "Y" [] [] [] [] [.plain ⟨2, 9⟩ .pass []]]

/-- The analysis of some statements as the module `m`. -/
def analysed (body : List Statement) (c : Compilation) : Except Fault Analysis × Compilation :=
  ({} : Analyzer).elaborate ⟨"m", false⟩ "m.py" (.ok body) c

/-- An analysis that answers, with the state it leaves. -/
theorem exists_answer (run : Except Fault Analysis × Compilation) (h : run.1.isOk = true) :
    ∃ a, run = (.ok a, run.2) := by
  obtain ⟨_ | a, c⟩ := run
  · cases h
  · exact ⟨a, rfl⟩

theorem contains_evaluated_name {m : ModuleSetting} (p : Place) (n : String) :
    ∀ e ∈ [Expr.name p n], m.Contains e := by
  intro e he
  obtain rfl := List.mem_singleton.mp he
  exact m.contains_of_plain (by rintro x hx; obtain rfl := List.mem_singleton.mp hx; rfl)

/-- The second analysis of a class and its other name. -/
theorem analysed_again_class :
    ({} : Analyzer).host.Operates ∧ ({} : Analyzer).host.LeavesTable ∧
      (Compilation.empty 1 Kind.all).table.Coherent ∧
      AllContained (({} : Analyzer).module ⟨"m", false⟩ "m.py")
        (moduleSteps (({} : Analyzer).module ⟨"m", false⟩ "m.py") classAndName)
        { compilation := (analysed classAndName (.empty 1 Kind.all)).2 } ∧
      ∃ a a' c' c'', analysed classAndName (.empty 1 Kind.all) = (.ok a, c') ∧
        callsOfAll (({} : Analyzer).module ⟨"m", false⟩ "m.py") c'.table
            (moduleSteps (({} : Analyzer).module ⟨"m", false⟩ "m.py") classAndName) =
          callsOfAll (({} : Analyzer).module ⟨"m", false⟩ "m.py")
            (Compilation.empty 1 Kind.all).table
            (moduleSteps (({} : Analyzer).module ⟨"m", false⟩ "m.py") classAndName) ∧
        analysed classAndName c' = (.ok a', c'') ∧ a'.sites = [] ∧
        c''.table.resolve? "m" "X" = c'.table.resolve? "m" "X" := by
  have hops : ({} : Analyzer).host.Operates := Host.operates_default
  have hhost : ({} : Analyzer).host.LeavesTable := Host.leavesTable_default
  have hcontained : AllContained (({} : Analyzer).module ⟨"m", false⟩ "m.py")
      (moduleSteps (({} : Analyzer).module ⟨"m", false⟩ "m.py") classAndName)
      { compilation := (analysed classAndName (.empty 1 Kind.all)).2 } := by
    refine allContained_of_contains _ ?_ _
    exact contains_evaluated_name ⟨2, 4⟩ "Y"
  obtain ⟨a, hfirst⟩ := exists_answer (analysed classAndName (.empty 1 Kind.all))
    (by decide +kernel)
  have hsame : callsOfAll (({} : Analyzer).module ⟨"m", false⟩ "m.py")
      (analysed classAndName (.empty 1 Kind.all)).2.table
        (moduleSteps (({} : Analyzer).module ⟨"m", false⟩ "m.py") classAndName) =
      callsOfAll (({} : Analyzer).module ⟨"m", false⟩ "m.py") (Compilation.empty 1 Kind.all).table
        (moduleSteps (({} : Analyzer).module ⟨"m", false⟩ "m.py") classAndName) := by
    decide +kernel
  obtain ⟨a', c'', hsecond, hsites, hnames, -⟩ := @analysed_again {} ⟨"m", false⟩ "m.py"
    (.ok classAndName) (.empty 1 Kind.all) _ a hops hhost (Table.coherent_empty 1)
    (by rintro body ⟨⟩; exact hcontained) hfirst (by rintro body ⟨⟩; exact hsame)
  exact ⟨hops, hhost, Table.coherent_empty 1, hcontained, a, a', _, c'', hfirst, hsame, hsecond,
    hsites, hnames "m" "X"⟩

/-- A second analysis can give a name to another declaration: a variable becomes another name for
the class that its value spells, once that is known. -/
theorem analysed_again_not :
    ¬ ∀ (f : Analyzer) (name : ModuleName) (file : String) (body : List Statement)
      (token : Int) (kinds : List Kind) (a : Analysis) (c : Compilation),
      f.host.Operates → f.host.LeavesTable →
      (∀ e ∈ evaluatedOfAll (f.module name file) (moduleSteps (f.module name file) body),
        (f.module name file).Contains e) →
      f.elaborate name file (.ok body) (.empty token kinds) = (.ok a, c) →
        ∃ a' c', f.elaborate name file (.ok body) c = (.ok a', c') ∧ a'.sites = [] ∧
          ∀ module n, c'.table.resolve? module n = c.table.resolve? module n := by
  intro hclaim
  obtain ⟨a, hfirst⟩ := exists_answer (analysed nameAndClass (.empty 1 Kind.all))
    (by decide +kernel)
  obtain ⟨a', c', hsecond, -, hnames⟩ := hclaim {} ⟨"m", false⟩ "m.py" nameAndClass 1 Kind.all a _
    Host.operates_default Host.leavesTable_default (contains_evaluated_name ⟨1, 4⟩ "Y") hfirst
  have hbefore : (analysed nameAndClass (.empty 1 Kind.all)).2.table.resolve? "m" "X" =
      some ⟨1, 1⟩ := by
    decide +kernel
  have hafter :
      (analysed nameAndClass (analysed nameAndClass (.empty 1 Kind.all)).2).2.table.resolve?
        "m" "X" = some ⟨1, 2⟩ := by
    decide +kernel
  have hc' : (analysed nameAndClass (analysed nameAndClass (.empty 1 Kind.all)).2).2 = c' :=
    congrArg Prod.snd hsecond
  have hname := hnames "m" "X"
  rw [hbefore, ← hc', hafter] at hname
  cases hname

end Analyzer

end Marginalia
