/-
Analysing a source text again.

A module that was gone through to its end has marked every site at which annotations are
written.  The marks stay, and a name that is declared again keeps its identity, so that going
through the same statements in any later state records nothing, whatever has been declared or
bound since and whatever the names in the statements have come to stand for.

* `Compilation.Marked` — a site of the declaration of a kind and name was gone through; every
  later state keeps this (`Compilation.Marked.reaches`), and the site is passed over
  (`Compilation.Marked.elaborate_eq`);
* `Elaboration.marks_runAll` — steps that come to their end mark all their sites;
* `Compilation.Quiet` — whoever goes on from marked sites leaves the log alone;
* `Analyzer.elaborate_again` — the second analysis of a text appends no record.
-/
import Marginalia.Proofs.ElaborationEffect

namespace Marginalia

/-! ### Sites that were gone through -/

namespace Compilation

variable {c c' c₁ : Compilation} {key : DeclarationKey} {kind : Kind} {module qualname : String}
  {site : Location} {i : Identity}

/-- The declaration of a module, name and kind was gone through at a site. -/
def Marked (c : Compilation) (key : DeclarationKey) (site : Location) : Prop :=
  ∃ d ∈ c.table.entries, d.key = key ∧ (d.identity, site) ∈ c.store.elaborated

theorem Marked.reaches (h : c.Marked key site) (hreaches : c.Reaches c') : c'.Marked key site := by
  obtain ⟨d, hd, hkey, hsite⟩ := h
  obtain ⟨d', hd', hext⟩ := hreaches.extends.mem hd
  exact ⟨d', hd', hext.key.trans hkey, hext.identity ▸ hreaches.elaborated hsite⟩

/-- A marked site is passed over when its name is declared again. -/
theorem Marked.elaborate_eq (h : c.Marked (module, qualname, kind) site)
    (hcoherent : c.table.Coherent)
    (hdeclared : c.declare kind module qualname site = (c₁, i)) :
    c₁.elaborate i site = .ok (c₁, false) := by
  obtain ⟨hreaches, d, hd, rfl, hkey⟩ := exists_declared hdeclared
  have hcoherent₁ := hreaches.coherent hcoherent
  obtain ⟨e, he, hkey', hsite⟩ := h.reaches hreaches
  -- the table has one entry of this kind and name
  have hsame : e.identity = d.identity :=
    (hcoherent₁.identity_eq_iff he hd).mpr (hkey'.trans hkey.symm)
  rw [hsame] at hsite
  rw [Compilation.elaborate_eq, if_pos (hcoherent₁.numbered.isLive hd), if_pos hsite]

/-- Every one of some sites was gone through. -/
def MarkedAll (c : Compilation) (sites : List (DeclarationKey × Location)) : Prop :=
  ∀ e ∈ sites, c.Marked e.1 e.2

theorem MarkedAll.reaches {sites : List (DeclarationKey × Location)} (h : c.MarkedAll sites)
    (hreaches : c.Reaches c') : c'.MarkedAll sites :=
  fun e he => (h e he).reaches hreaches

end Compilation

/-! ### The first time -/

namespace Elaboration

variable {m : ModuleSetting}

/-- At a site that was gone through before, a declaration is made and what is written there does
not matter. -/
theorem outcome_declare_marked {s : Findings} (hcoherent : s.compilation.table.Coherent)
    {kind : Kind} {qualname : String} {site : Location}
    (hmarked : s.compilation.Marked (m.name.dotted, qualname, kind) site) (groups : Groups) :
    outcome (declare m kind qualname site groups) s = (.ok (), { s with
      compilation := (s.compilation.declare kind m.name.dotted qualname site).1 }) := by
  obtain ⟨c, i, hdeclared⟩ :
      ∃ c i, s.compilation.declare kind m.name.dotted qualname site = (c, i) := ⟨_, _, rfl⟩
  rw [outcome_declare, hdeclared]
  dsimp only
  rw [hmarked.elaborate_eq hcoherent hdeclared]

variable (hhost : m.host.Operates)

include hhost

/-- A site is marked once it was gone through, whether its annotations were recorded or not. -/
theorem marks_declare (kind : Kind) (qualname : String) (site : Location) (groups : Groups)
    {s : Findings} (hcoherent : s.compilation.table.Coherent) :
    (outcome (declare m kind qualname site groups) s).2.compilation.Marked
      (m.name.dotted, qualname, kind) site := by
  rw [outcome_declare]
  obtain ⟨c, i, hdeclared⟩ :
      ∃ c i, s.compilation.declare kind m.name.dotted qualname site = (c, i) := ⟨_, _, rfl⟩
  obtain ⟨-, d, hd, hid, hkey⟩ := Compilation.exists_declared hdeclared
  rw [hdeclared]
  dsimp only
  obtain ⟨hsite, hagain⟩ | hfirst := Compilation.elaborate_declared hcoherent hdeclared
  · rw [hagain]
    exact ⟨d, hd, hkey, hid ▸ hsite⟩
  · rw [hfirst]
    have hmarked : (entered c i site).Marked (m.name.dotted, qualname, kind) site :=
      ⟨d, hd, hkey, hid ▸ List.mem_cons_self⟩
    exact hmarked.reaches (hhost.keeps.evaluating.firstVisit
      fun vs c _ => Compilation.reaches_recordAll i vs c)

mutual

theorem marks_step : ∀ (step : ElaborationStep) {s s' : Findings},
    s.compilation.table.Coherent → outcome (step.run m) s = (.ok (), s') →
      s'.compilation.MarkedAll (step.sites m)
  | .declare kind qualname p written, s, s', hcoherent, hrun => by
    obtain ⟨w, groups, -, -, hrun⟩ := exists_groups hrun
    have hmarked := marks_declare hhost kind qualname (p.inFile m.file) groups hcoherent
    rw [hrun] at hmarked
    simpa [ElaborationStep.sites, Compilation.MarkedAll] using hmarked
  | .inside steps, s, s', hcoherent, hrun => by
    rw [outcome_inside] at hrun
    rw [ElaborationStep.sites]
    split at hrun
    · rename_i s₁ hinner
      have hmarked := marks_runAll steps (s := { s with scope := s.scope.child }) hcoherent hinner
      cases hrun
      exact hmarked
    · cases hrun
  | .refuse es, s, s', _, _ | .bind _ _, s, s', _, _ | .assign _ _ _ _, s, s', _, _
  | .imported _ _ _ _, s, s', _, _ => by
    simp [ElaborationStep.sites, Compilation.MarkedAll]

/-- Steps that come to their end have marked every site among them. -/
theorem marks_runAll : ∀ (steps : List ElaborationStep) {s s' : Findings},
    s.compilation.table.Coherent → outcome (runAll m steps) s = (.ok (), s') →
      s'.compilation.MarkedAll (sitesOfAll m steps)
  | [], s, s', _, _ => by simp [sitesOfAll, Compilation.MarkedAll]
  | step :: rest, s, s', hcoherent, hrun => by
    obtain ⟨s₁, hstep, hrest⟩ := (outcome_runAll_cons step rest s s').mp hrun
    -- marks stay while the rest is carried out, and the table stays coherent for it
    have hreached := hhost.keeps.step step (hhost.keepsAt _) s
    have hend := hhost.reaches_runAll rest s₁
    rw [Keeps, hstep] at hreached
    rw [hrest] at hend
    rw [sitesOfAll]
    intro e he
    obtain he | he := List.mem_append.mp he
    · exact (marks_step step hcoherent hstep).reaches hend e he
    · exact marks_runAll rest (hreached.coherent hcoherent) hrest e he

end

end Elaboration

/-! ### Every other time -/

/-- Whatever a host answers appends no records. -/
def Host.RecordsNothing (h : Host) : Prop :=
  ∀ (f : Value) (a : Arguments) (c : Compilation),
    (h.answer f a c).2.store.log = c.store.log

namespace Compilation

variable {sites : List (DeclarationKey × Location)} {c c' c'' : Compilation}

/-- A later state, with the same log if some sites had been gone through before. -/
structure Quiet (sites : List (DeclarationKey × Location)) (c c' : Compilation) : Prop where
  reaches : c.Reaches c'
  log : c.table.Coherent → c.MarkedAll sites → c'.store.log = c.store.log

theorem Quiet.of_log_eq (hreaches : c.Reaches c') (hlog : c'.store.log = c.store.log) :
    c.Quiet sites c' :=
  ⟨hreaches, fun _ _ => hlog⟩

theorem Quiet.trans (h : c.Quiet sites c') (h' : c'.Quiet sites c'') : c.Quiet sites c'' :=
  ⟨h.reaches.trans h'.reaches, fun hcoherent hmarked =>
    (h'.log (h.reaches.coherent hcoherent) (hmarked.reaches h.reaches)).trans
      (h.log hcoherent hmarked)⟩

end Compilation

section

variable {m : ModuleSetting} {sites : List (DeclarationKey × Location)}
  (hhost : m.host.Operates) (hquiet : m.host.RecordsNothing)

include hhost hquiet

/-- Everything but the recording leaves the log alone. -/
theorem ModuleSetting.keeps_quiet : m.Keeps (Compilation.Quiet sites) where
  evaluated scope :=
    { refl c := .of_log_eq (.refl c) rfl
      trans h h' := h.trans h'
      created c := .of_log_eq (c.reaches_created _) rfl
      changed c cs := .of_log_eq (c.reaches_changed cs) rfl
      called f a c := .of_log_eq
        ((Host.Operates.contained (s := m.setting scope) hhost).called f a c)
        (hquiet f a { c with store := c.store.enter }) }
  declared kind qualname site c := .of_log_eq (hhost.keeps.declared kind qualname site c) rfl
  entered i site c c' first := by
    refine .of_log_eq (Compilation.reaches_elaborate first) ?_
    rw [Compilation.elaborate_eq] at first
    split at first
    · split at first <;> cases first
      rfl
    · cases first
  aliased name tm tn c := .of_log_eq (hhost.keeps.aliased name tm tn c) rfl

omit hquiet in
/-- A site that was gone through before is passed over. -/
theorem ModuleSetting.keepsAt_quiet : m.KeepsAt (Compilation.Quiet sites) sites := by
  intro kind qualname site hsite groups s
  refine ⟨(hhost.keepsAt sites) kind qualname site hsite groups s, fun hcoherent hmarked => ?_⟩
  rw [Elaboration.outcome_declare_marked hcoherent (hmarked _ hsite)]
  rfl

/-- Steps whose sites were all gone through before append no record. -/
theorem Elaboration.log_runAll {steps : List ElaborationStep} {s : Findings}
    (hcoherent : s.compilation.table.Coherent)
    (hmarked : s.compilation.MarkedAll (sitesOfAll m steps)) :
    (outcome (runAll m steps) s).2.compilation.store.log = s.compilation.store.log :=
  ((ModuleSetting.keeps_quiet hhost hquiet).runAll steps
    (ModuleSetting.keepsAt_quiet hhost) s).log hcoherent hmarked

end

/-! ### The same text twice -/

/-- Something that happens to a compilation: an operation, or the analysis of a text. -/
inductive Event where
  | performed (op : Operation)
  | analysed (f : Analyzer) (name : ModuleName) (file source : String)

/-- Analyses change a compilation by its operations, as far as the functions of their host do. -/
def Event.Operates : Event → Prop
  | performed _ => True
  | analysed f _ _ _ => f.host.Operates

namespace Compilation

/-- The compilation after something has happened to it. -/
def happen (c : Compilation) : Event → Compilation
  | .performed op => (c.perform op).1
  | .analysed f name file source => (f.analyzeText name file source c).2

/-- The compilation after several things have happened to it. -/
def happenAll (c : Compilation) (events : List Event) : Compilation := events.foldl happen c

theorem reaches_happenAll {events : List Event} (h : ∀ e ∈ events, e.Operates)
    (c : Compilation) : c.Reaches (c.happenAll events) := by
  induction events generalizing c with
  | nil => exact .refl c
  | cons e events ih =>
    have hfirst : c.Reaches (c.happen e) := by
      have he := h e List.mem_cons_self
      cases e with
      | performed op => exact c.reaches_perform op
      | analysed f name file source => exact Analyzer.reaches_analyzeText he source c
    exact hfirst.trans (ih (fun e he => h e (List.mem_cons_of_mem _ he)) (c.happen e))

end Compilation

namespace Analyzer

/-- **Again.**  Once the analysis of a module has come to its end, from any state of the
compilation, and after whatever else was done to the compilation, by operations and by the
analysis of texts, analysing the same module again appends no record to any identity, whether
this comes to its end or not.  What was read is that of any source text. -/
theorem elaborate_again {f : Analyzer} {name : ModuleName} {file : String}
    {read : Except SourceFault (List Statement)} {c c' : Compilation} {a : Analysis}
    {between : List Event} (hhost : f.host.Operates) (hquiet : f.host.RecordsNothing)
    (hcoherent : c.table.Coherent) (hfirst : f.elaborate name file read c = (.ok a, c'))
    (hbetween : ∀ e ∈ between, e.Operates) :
    (∀ i, (f.elaborate name file read (c'.happenAll between)).2.store.recordsOf i =
      (c'.happenAll between).store.recordsOf i) ∧
    ∀ source, f.readSource source = read →
      f.analyzeText name file source c = (.ok a, c') ∧
        ∀ i, (f.analyzeText name file source (c'.happenAll between)).2.store.recordsOf i =
          (c'.happenAll between).store.recordsOf i := by
  have hbetween := Compilation.reaches_happenAll hbetween c'
  have hlog : (f.elaborate name file read (c'.happenAll between)).2.store.log =
      (c'.happenAll between).store.log := by
    cases read with
    | error fault => rfl
    | ok body =>
      have hreaches : c.Reaches (f.elaborate name file (.ok body) c).2 :=
        reaches_elaborate hhost (.ok body) c
      rw [hfirst] at hreaches
      -- the first run came to its end, so that all its sites are marked
      obtain ⟨s, hrun, -, rfl⟩ := exists_run hfirst
      have hmarked := Elaboration.marks_runAll (m := f.module name file) hhost _ hcoherent hrun
      rw [elaborate_compilation, Elaboration.wholeModule_eq]
      exact Elaboration.log_runAll (m := f.module name file)
        (s := { compilation := (s.compilation.forget c.created).happenAll between }) hhost hquiet
        (hbetween.coherent (hreaches.coherent hcoherent))
        (hmarked.reaches ((Compilation.reaches_changed _ _).trans hbetween))
  refine ⟨Store.recordsOf_congr hlog, ?_⟩
  rintro source rfl
  rw [analyzeText_eq, analyzeText_eq]
  exact ⟨hfirst, Store.recordsOf_congr hlog⟩

/-- A function with one annotation, the number one. -/
def annotatedFunction : Statement :=
  .function ⟨2, 0⟩ "f" [] ⟨{}, [], [], []⟩ none
    [.call ⟨1, 1⟩ (.name ⟨1, 1⟩ "meta") [.literal ⟨1, 6⟩ (.int 1)] []] []

/-- The compilation after the module of that function was analysed. -/
def onceAnalysed : Compilation :=
  (({} : Analyzer).elaborate ⟨"m", false⟩ "m.py" (.ok [annotatedFunction])
    (.empty 1 Kind.all)).2

/-- The function gets another annotation, and its name is given away. -/
def annotatedAndRenamed : List Event :=
  [.performed (.annotate ⟨1, 1⟩ (.int 2) ⟨"tool", 0, 0⟩ none),
    .performed (.addAlias "m" "f" "n" "g"),
    .performed (.declare .variableDef "m" "f" ⟨"m.py", 9, 0⟩)]

theorem elaborate_again_function :
    ({} : Analyzer).host.Operates ∧ ({} : Analyzer).host.RecordsNothing ∧
      (Compilation.empty 1 Kind.all).table.Coherent ∧
      (∀ e ∈ annotatedAndRenamed, e.Operates) ∧
      ((onceAnalysed.happenAll annotatedAndRenamed).store.recordsOf ⟨1, 1⟩).length = 2 ∧
      ((({} : Analyzer).elaborate ⟨"m", false⟩ "m.py" (.ok [annotatedFunction])
        (onceAnalysed.happenAll annotatedAndRenamed)).2.store.recordsOf ⟨1, 1⟩).length = 2 := by
  have hhost : ({} : Analyzer).host.Operates := Host.operates_default
  have hquiet : ({} : Analyzer).host.RecordsNothing :=
    Host.answer_of_calls (R := fun c c' => c'.store.log = c.store.log) (fun _ _ _ => rfl)
      fun _ _ _ => rfl
  have hbetween : ∀ e ∈ annotatedAndRenamed, e.Operates := by
    simp [annotatedAndRenamed, Event.Operates]
  have htwo : ((onceAnalysed.happenAll annotatedAndRenamed).store.recordsOf ⟨1, 1⟩).length = 2 := by
    decide +kernel
  have hended : (({} : Analyzer).elaborate ⟨"m", false⟩ "m.py" (.ok [annotatedFunction])
      (.empty 1 Kind.all)).1.isOk = true := by
    decide +kernel
  obtain ⟨a, hfirst⟩ : ∃ a, ({} : Analyzer).elaborate ⟨"m", false⟩ "m.py"
      (.ok [annotatedFunction]) (.empty 1 Kind.all) = (.ok a, onceAnalysed) := by
    unfold onceAnalysed
    generalize ({} : Analyzer).elaborate ⟨"m", false⟩ "m.py" (.ok [annotatedFunction])
      (.empty 1 Kind.all) = first at hended ⊢
    obtain ⟨_ | a, c'⟩ := first
    · cases hended
    · exact ⟨a, rfl⟩
  obtain ⟨hagain, -⟩ := elaborate_again hhost hquiet (Table.coherent_empty 1) hfirst hbetween
  exact ⟨hhost, hquiet, Table.coherent_empty 1, hbetween, htwo, (hagain ⟨1, 1⟩) ▸ htwo⟩

end Analyzer

end Marginalia
