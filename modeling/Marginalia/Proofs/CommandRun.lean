/-
What a command on a folder comes to.

A command reads the ignore files of its folder, analyses the sources below it and answers from
the compilation that the analysis has left.  `Command.Analyses` says that this compilation is
reached, with the diagnostics on the way; it does not depend on what is asked:

* `Command.Analyses.run_eq` — from there on the command is its answer, behind the diagnostics;
* `Command.Analyses.coherent` — the table of the compilation is one that calls can build;
* `Command.dump_json_eq`, `Command.query_eq` — the answers, spelled out.
-/
import Marginalia.Command
import Marginalia.Proofs.NameSearch
import Marginalia.Proofs.Recording
import Marginalia.Proofs.ReportListing
import Marginalia.Proofs.RetokenedRuns

namespace Marginalia

/-! ### Analyses of projects -/

namespace Analyzer

variable {f : Analyzer}

theorem reaches_analyzeFile (h : f.host.Operates) (rootName : String) (file : Path × FileContent)
    (c : Compilation) : c.Reaches (f.analyzeFile rootName file c).2 := by
  rw [analyzeFile]
  cases textOfContent file.2 with
  | error e => exact .refl c
  | ok source => exact reaches_elaborate h _ c

theorem reaches_analyzeFiles (h : f.host.Operates) (rootName : String)
    (files : List (Path × FileContent)) (c : Compilation) :
    c.Reaches (f.analyzeFiles rootName files c).2 := by
  induction files generalizing c with
  | nil => exact .refl c
  | cons file rest ih =>
    have hfile := reaches_analyzeFile h rootName file c
    rw [analyzeFiles_cons]
    generalize f.analyzeFile rootName file c = here at hfile ⊢
    obtain ⟨_ | a, c'⟩ := here
    · exact hfile
    · exact hfile.trans (ih c')

end Analyzer

/-- What is left to the language changes compilations by operations only. -/
def Installation.Operates (i : Installation) : Prop := i.analyzer.host.Operates

theorem Installation.operates_default : ({} : Installation).Operates := Host.operates_default

/-! ### From a command to its answer -/

namespace Command

/-- The analysis that a command on a folder works on: what it says about sources, and the
compilation that it leaves. -/
def Analyses (i : Installation) (path : String) (heeds : Bool) (project : Node)
    (ds : List Diagnostic) (c : Compilation) : Prop :=
  ∃ (rules : Option Matcher) (a : Analysis),
    (if heeds then (project.load i.ruleReader).map some else .ok none) = .ok rules ∧
      a.diagnostics = ds ∧
      i.analyzer.analyze (Node.lastName path) project rules (.empty 1 Kind.all) = (.ok a, c)

/-- An outcome behind the lines for diagnostics. -/
def Outcome.behind (ds : List Diagnostic) (o : Outcome) : Outcome :=
  { o with complaints := diagnosticLines ds ++ o.complaints }

@[simp] theorem Outcome.behind_status (ds : List Diagnostic) (o : Outcome) :
    (o.behind ds).status = o.status := rfl

@[simp] theorem Outcome.behind_file (ds : List Diagnostic) (o : Outcome) :
    (o.behind ds).file = o.file := rfl

variable {i : Installation} {path : String} {heeds : Bool} {project : Node}
  {ds : List Diagnostic} {c : Compilation}

theorem Analyses.run_eq (h : Analyses i path heeds project ds c) (d : Demand) :
    run ⟨path, d, heeds⟩ i (.ok project) = (answer i.screen c d).map (Outcome.behind ds) := by
  obtain ⟨rules, a, hrules, rfl, hanalyzed⟩ := h
  simp only [run, ignoreRules, hrules, hanalyzed]
  rfl

/-- There is one analysis of a project. -/
theorem Analyses.unique (h : Analyses i path heeds project ds c) {ds' : List Diagnostic}
    {c' : Compilation} (h' : Analyses i path heeds project ds' c') : ds' = ds ∧ c' = c := by
  obtain ⟨rules, a, hrules, rfl, hanalyzed⟩ := h
  obtain ⟨rules', a', hrules', rfl, hanalyzed'⟩ := h'
  obtain rfl : rules' = rules := by
    rw [hrules] at hrules'
    exact (Except.ok.inj hrules').symm
  rw [hanalyzed] at hanalyzed'
  cases hanalyzed'
  exact ⟨rfl, rfl⟩

/-- A command that has an outcome has come to nothing, whatever it asks for, or to an analysis
and to an answer from it. -/
theorem run_cases {d : Demand} {project : Except PathFault Node} {o : Outcome}
    (h : run ⟨path, d, heeds⟩ i project = .ok o) :
    (o.status = 2 ∧ o.printed = "" ∧ o.file = none ∧
      ∀ d', run ⟨path, d', heeds⟩ i project = .ok o) ∨
      ∃ p ds c o', project = .ok p ∧ Analyses i path heeds p ds c ∧
        answer i.screen c d = .ok o' ∧ o = o'.behind ds := by
  cases project with
  | error f =>
    cases h
    exact .inl ⟨rfl, rfl, rfl, fun _ => rfl⟩
  | ok p =>
    unfold run ignoreRules at h
    dsimp only at h
    split at h
    · cases h
    · -- ignore files that cannot be read end the command before anything is asked
      rename_i hrules
      cases h
      refine .inl ⟨rfl, rfl, rfl, fun d' => ?_⟩
      simp only [run, ignoreRules, hrules]
    · rename_i rules hrules
      split at h
      · cases h
      · rename_i a c hanalyzed
        cases hanswer : answer i.screen c d with
        | error f =>
          rw [hanswer] at h
          cases h
        | ok o' =>
          rw [hanswer] at h
          cases h
          exact .inr ⟨p, a.diagnostics, c, o', rfl, ⟨rules, a, hrules, rfl, hanalyzed⟩, hanswer,
            rfl⟩

theorem Analyses.coherent (hcalls : i.Operates)
    (h : Analyses i path heeds project ds c) : c.table.Coherent := by
  obtain ⟨rules, a, -, -, hanalyzed⟩ := h
  have hreaches := Analyzer.reaches_analyzeFiles hcalls (Node.lastName path)
    (project.sources Analyzer.sourceSuffix (Node.skipIgnored rules)) (.empty 1 Kind.all)
  rw [Analyzer.analyze] at hanalyzed
  rw [hanalyzed] at hreaches
  exact hreaches.coherent (Table.coherent_empty 1)

end Command

/-! ### Analyses that are evaluated -/

namespace Command

/-- What an analysis leaves to be reported: the annotated declarations, each with its texts and
whether its values can be written, and what names are bound to. -/
structure Digest where
  entries : List (Declaration × Report.EntryTexts × Bool)
  bindings : List (NameKey × Binding)
deriving DecidableEq

/-- What the analysis of a project leaves when no ignore files count. -/
def digest (i : Installation) (path : String) (project : Node) : Option Digest :=
  match i.analyzer.analyze (Node.lastName path) project none (.empty 1 Kind.all) with
  | (.ok _, c) => some {
      entries := (Report.annotated c).map fun e => (e.declaration, e.texts, decide e.Legible)
      bindings := c.table.bindings }
  | (.error _, _) => none

theorem exists_analyses {i : Installation} {path : String} {project : Node} {s : Digest}
    (h : digest i path project = some s) :
    ∃ ds c, Analyses i path false project ds c ∧
      ((∀ x ∈ s.entries, x.2.2 = true) → ∀ e ∈ Report.annotated c, e.Legible) ∧
      (Report.annotated c).map (fun e => (e.declaration, e.texts)) =
        s.entries.map (fun x => (x.1, x.2.1)) ∧
      c.table.bindings = s.bindings := by
  unfold digest at h
  split at h
  · rename_i a c hanalyzed
    cases h
    refine ⟨a.diagnostics, c, ⟨none, a, rfl, rfl, hanalyzed⟩, fun hwritable e he => ?_, ?_, rfl⟩
    · exact of_decide_eq_true (hwritable _ (List.mem_map_of_mem he))
    · rw [List.map_map]
      rfl
  · cases h

/-- The entry for what a digest lists. -/
theorem exists_entry {c : Compilation} {xs : List (Declaration × Report.EntryTexts)}
    (h : (Report.annotated c).map (fun e => (e.declaration, e.texts)) = xs)
    {d : Declaration} {t : Report.EntryTexts} (hx : (d, t) ∈ xs) :
    ∃ e ∈ Report.annotated c, e.declaration = d ∧ e.texts = t := by
  rw [← h] at hx
  obtain ⟨e, he, hsame⟩ := List.mem_map.mp hx
  exact ⟨e, he, Prod.mk.inj hsame⟩

theorem eq_of_only_entry {c : Compilation} {d : Declaration} {t : Report.EntryTexts}
    (h : (Report.annotated c).map (fun e => (e.declaration, e.texts)) = [(d, t)]) :
    ∀ e ∈ Report.annotated c, e.declaration = d ∧ e.texts = t := by
  intro e he
  have hmem := List.mem_map_of_mem (f := fun e => (e.declaration, e.texts)) he
  rw [h] at hmem
  exact Prod.mk.inj (List.mem_singleton.mp hmem)

/-- A project with one file. -/
def projectWith (source : String) : Node := .folder [("m.py", .file (.ok <| Utf8.encode source))]

set_option maxRecDepth 100000 in
theorem digest_plain :
    digest {} "project" (projectWith "@meta(1)\ndef f(): pass\n") = some {
      entries := [
        (⟨⟨1, 1⟩, .function, "m", "f", ⟨"m.py", 2, 0⟩, []⟩,
          ⟨"m:f", "function", [⟨"int", "1", "m.py:1:6"⟩]⟩, true)]
      bindings := [(("m", "f"), .declared ⟨1, 1⟩), (("m", ""), .declared ⟨1, 0⟩)] } := by
  decide +kernel

end Command

/-! ### Answers -/

namespace Compilation

/-- The declaration that a path denotes, with its records. -/
def entryOfPath (c : Compilation) (path : String) : Except AnnotationError Report.Entry := do
  let i ← c.table.resolvePath path
  return ⟨← c.table.get i, c.store.recordsOf i⟩

variable {c : Compilation} {path : String} {e : Report.Entry}

theorem entryOfPath_eq_ok_iff (h : c.table.Coherent) :
    c.entryOfPath path = .ok e ↔
      c.table.resolvePath path = .ok e.declaration.identity ∧ e.declaration ∈ c.table.entries ∧
        e.records = c.store.recordsOf e.declaration.identity := by
  obtain ⟨d, rs⟩ := e
  simp only [entryOfPath, Table.resolvePath, Table.resolve]
  cases hfound : c.table.resolve? (Table.splitPath path).1 (Table.splitPath path).2 with
  | none => exact iff_of_false nofun fun hd => by cases hd.1
  | some i =>
    obtain ⟨d', hget, hentry, rfl, -⟩ := h.entry_of_resolve? hfound
    have hd' := Table.entry_mem hentry
    -- entries are told apart by their identities
    have hsame : d ∈ c.table.entries → (d'.identity = d.identity ↔ d' = d) := by
      intro hd
      constructor
      · intro hid
        exact List.inj_on_of_nodup_map h.distinct hd' hd ((h.identity_eq_iff hd' hd).mp hid)
      · rintro rfl
        rfl
    constructor
    · intro heq
      simp only [hget, bind, Except.bind, pure, Except.pure, Except.ok.injEq,
        Report.Entry.mk.injEq] at heq
      obtain ⟨rfl, rfl⟩ := heq
      exact ⟨rfl, hd', rfl⟩
    · rintro ⟨hid, hd, rfl⟩
      obtain rfl := (hsame hd).mp (by simpa using hid)
      simp only [hget, bind, Except.bind, pure, Except.pure]

end Compilation

namespace Command

variable (s : Screen) (c : Compilation)

/-- Every annotated declaration goes to the file, or is printed. -/
theorem dump_json_eq (file : Option String) :
    dump s c (.json file) =
      if ∀ e ∈ Report.annotated c, e.Legible then
        .ok (match file with
          | some path =>
            { status := 0, file := some (path, (Report.listing (Report.annotated c)).render) }
          | none =>
            { status := 0, printed := printedJson s (Report.listing (Report.annotated c)) })
      else .error (.fault .tooManyDigits) := by
  rw [dump, Report.toJson_eq]
  by_cases h : ∀ e ∈ Report.annotated c, e.Legible
  · rw [if_pos h, if_pos h]
    cases file <;> rfl
  · rw [if_neg h, if_neg h]
    rfl

section Dumps

variable {i : Installation} {path : String} {heeds : Bool} {project : Node}
  {ds : List Diagnostic} {c : Compilation}

/-- A dump of a project whose values can be written prints its listing. -/
theorem Analyses.run_dump (h : Analyses i path heeds project ds c)
    (hlegible : ∀ e ∈ Report.annotated c, e.Legible) :
    run ⟨path, .dump (.json none), heeds⟩ i (.ok project) = .ok (.behind ds
      { status := 0, printed := printedJson i.screen (Report.listing (Report.annotated c)) }) := by
  rw [h.run_eq, answer, dump_json_eq, if_pos hlegible]
  rfl

/-- With a file it writes the listing there. -/
theorem Analyses.run_dump_file (h : Analyses i path heeds project ds c) (file : String)
    (hlegible : ∀ e ∈ Report.annotated c, e.Legible) :
    run ⟨path, .dump (.json (some file)), heeds⟩ i (.ok project) = .ok (.behind ds
      { status := 0, file := some (file, (Report.listing (Report.annotated c)).render) }) := by
  rw [h.run_eq, answer, dump_json_eq, if_pos hlegible]
  rfl

end Dumps

/-- A query without a type prints the one entry that the path denotes. -/
theorem query_eq (path : String) :
    query s c path none =
      match c.entryOfPath path with
      | .error e => .ok { status := 2, complaints := e.message ++ "\n" }
      | .ok e =>
        if e.Legible then
          .ok { status := 0, printed := printedJson s (Report.listing [e]) }
        else .error (.fault .tooManyDigits) := by
  unfold query Compilation.entryOfPath Compilation.annotations
  cases c.table.resolvePath path with
  | error e => rfl
  | ok i =>
    cases hget : c.table.get i with
    | error e => simp only [hget, bind, Except.bind]
    | ok d =>
      simp only [hget, bind, Except.bind, pure, Except.pure]
      rw [Report.toJson_eq]
      by_cases h : (⟨d, c.store.recordsOf i⟩ : Report.Entry).Legible
      · rw [if_pos h, if_pos (List.forall_mem_singleton.mpr h)]
        rfl
      · rw [if_neg h, if_neg fun hall => h (List.forall_mem_singleton.mp hall)]
        rfl

end Command

end Marginalia
