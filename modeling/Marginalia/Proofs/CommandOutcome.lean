/-
How a command on a folder ends.

A command whose ignore files cannot be read, whose declaration does not resolve or whose file
cannot be written ends with status 2, and an ambiguous query with status 1.  That leaves three ways
to no outcome at all: an ignore file with a line that is no pattern; a result that cannot be
printed, for a value that is too long to be written or a text in a table that does not render; and
a path for a file with a null character in it.

* `Command.Printable`, `Command.Ambiguous`, `Command.Unresolved`, `Command.Unwritable`,
  `Command.Unspeakable` — what can come of a demand on a compilation;
* `Command.answer_spec` — an answer exists exactly when what is asked for can be printed, and its
  status tells what has come of the demand;
* `Command.runIn_ends` — so does a command on a folder, from its ignore files to its own file.
-/
import Marginalia.Proofs.CommandRun
import Marginalia.Proofs.ProjectTree
import Marginalia.Proofs.RenderedTable
import Marginalia.Proofs.SingleAnnotation

namespace Marginalia

namespace Command

/-! ### What can come of a demand -/

/-- The first record of an entry whose type has a name. -/
def recordNamed? (e : Report.Entry) (type : String) : Option Record :=
  e.records.find? fun r => r.type.dealias.displayName == type

/-- What a demand asks for can be printed. -/
def Printable (c : Compilation) : Demand → Prop
  | .dump .table => ∀ e ∈ Report.annotated c, e.Tabular
  | .dump (.json _) => ∀ e ∈ Report.annotated c, e.Legible
  | .query path none => ∀ e, c.entryOfPath path = .ok e → e.Legible
  | .query path (some type) => ∀ e, c.entryOfPath path = .ok e →
    ∀ r, recordNamed? e type = some r →
      ∀ v, c.singleOfType e.declaration.identity r.type = .ok (some v) → v.isWritable = true

/-- The values under the type that a query names are not all equivalent to the first one. -/
def Ambiguous (c : Compilation) : Demand → Prop
  | .query path (some type) => ∃ e r rs l, c.entryOfPath path = .ok e ∧
    recordNamed? e type = some r ∧
      c.singleOfType e.declaration.identity r.type = .error ⟨.ambiguous r.type rs, l⟩
  | _ => False

/-- The path that a query names leads to no declaration. -/
def Unresolved (c : Compilation) : Demand → Prop
  | .query path _ => ∃ err, c.table.resolvePath path = .error err
  | .dump _ => False

/-- The file that a dump names, and the text for it. -/
def fileOf (c : Compilation) : Demand → Option (String × String)
  | .dump (.json (some file)) => some (file, (Report.listing (Report.annotated c)).render)
  | _ => none

/-- What the system says when the file that a dump names is written. -/
def Unwritten (why : WriteFault) (disk : Disk) (c : Compilation) (d : Demand) : Prop :=
  ∃ file text, fileOf c d = some (file, text) ∧
    (disk.write file (Utf8.encode text)).1 = .error why

/-- The file that a dump names cannot be written. -/
abbrev Unwritable : Disk → Compilation → Demand → Prop := Unwritten .refused

/-- The path of the file that a dump names cannot be handed to the system. -/
abbrev Unspeakable : Disk → Compilation → Demand → Prop := Unwritten .nullCharacter

/-! ### Answers -/

variable {s : Screen} {c : Compilation}

/-- A path leads to no declaration, or to an entry of a declaration that is live. -/
theorem entryOfPath_cases (h : c.table.Coherent) (path : String) :
    (∃ err, c.table.resolvePath path = .error err ∧ c.entryOfPath path = .error err) ∨
      ∃ e, c.entryOfPath path = .ok e ∧
        c.table.resolvePath path = .ok e.declaration.identity ∧
        c.table.get e.declaration.identity = .ok e.declaration ∧
        c.table.isLive e.declaration.identity = true ∧
        e.records = c.store.recordsOf e.declaration.identity := by
  unfold Compilation.entryOfPath Table.resolvePath Table.resolve
  cases hfound : c.table.resolve? (Table.splitPath path).1 (Table.splitPath path).2 with
  | none => exact .inl ⟨_, rfl, rfl⟩
  | some i =>
    obtain ⟨d, hget, -, rfl, -⟩ := h.entry_of_resolve? hfound
    have hlive : c.table.isLive d.identity = true := by
      by_contra hnot
      rw [Table.get_of_not_isLive (Bool.eq_false_iff.mpr hnot)] at hget
      cases hget
    refine .inr ⟨⟨d, c.store.recordsOf d.identity⟩, ?_, rfl, hget, hlive, rfl⟩
    simp only [hget, bind, Except.bind, pure, Except.pure]

theorem unresolved_iff (h : c.table.Coherent) (path : String) (type : Option String) :
    Unresolved c (.query path type) ↔ ∃ err, c.entryOfPath path = .error err := by
  obtain ⟨err, hresolve, hentry⟩ | ⟨e, hentry, hresolve, -⟩ := entryOfPath_cases h path
  · exact iff_of_true ⟨err, hresolve⟩ ⟨err, hentry⟩
  · simp [Unresolved, hentry, hresolve]

/-- A query with a type asks for the records of the one entry that the path denotes. -/
theorem query_type_eq (h : c.table.Coherent) (path type : String) :
    query s c path (some type) =
      match c.entryOfPath path with
      | .error err => .ok { status := 2, complaints := err.message ++ "\n" }
      | .ok e => queryType s c path type e.declaration.identity e.records := by
  obtain ⟨err, hresolve, hentry⟩ | ⟨e, hentry, hresolve, hget, hlive, hrecords⟩ :=
    entryOfPath_cases h path
  · simp only [query, hresolve, hentry, bind, Except.bind]
  · simp only [query, hresolve, hentry, hget, hrecords, Compilation.annotations_eq, hlive,
      if_true, bind, Except.bind, pure, Except.pure]

/-- Asking for the one value under a type fails for ambiguity only. -/
theorem singleOfType_cases {i : Identity} (hlive : c.table.isLive i = true) (type : TypeTerm) :
    (∃ v?, c.singleOfType i type = .ok v?) ∨
      ∃ rs l, c.singleOfType i type = .error ⟨.ambiguous type rs, l⟩ := by
  rw [Compilation.singleOfType_eq hlive]
  cases c.recordsUnder i type with
  | nil => exact .inl ⟨_, rfl⟩
  | cons r rs =>
    dsimp only
    split
    · exact .inl ⟨_, rfl⟩
    · exact .inr ⟨_, _, rfl⟩

/-- A query with a type answers unless the one value is too long to be written; its status is 1
if the query is ambiguous, and 0 otherwise. -/
theorem queryType_spec (path type : String) {e : Report.Entry}
    (hlive : c.table.isLive e.declaration.identity = true) :
    ((∃ o, queryType s c path type e.declaration.identity e.records = .ok o) ↔
        ∀ r, recordNamed? e type = some r → ∀ v,
          c.singleOfType e.declaration.identity r.type = .ok (some v) → v.isWritable = true) ∧
      ∀ o, queryType s c path type e.declaration.identity e.records = .ok o → o.file = none ∧
        o.status ≤ 1 ∧ (o.status = 1 ↔ ∃ r rs l, recordNamed? e type = some r ∧
          c.singleOfType e.declaration.identity r.type = .error ⟨.ambiguous r.type rs, l⟩) := by
  unfold queryType
  dsimp only
  rw [show (e.records.find? fun r => r.type.dealias.displayName == type) = recordNamed? e type
    from rfl]
  cases recordNamed? e type with
  | none =>
    refine ⟨iff_of_true ⟨_, rfl⟩ (by simp), fun o ho => ?_⟩
    cases ho
    exact ⟨rfl, Nat.zero_le 1, iff_of_false Nat.zero_ne_one (by simp)⟩
  | some r =>
    simp only [Option.some.injEq, forall_eq', exists_and_left, exists_eq_left']
    obtain ⟨_ | v, hsingle⟩ | ⟨rs, l, hsingle⟩ := singleOfType_cases hlive r.type
    · simp only [hsingle]
      refine ⟨iff_of_true ⟨_, rfl⟩ (by simp), fun o ho => ?_⟩
      cases ho
      exact ⟨rfl, Nat.zero_le 1, iff_of_false Nat.zero_ne_one (by simp)⟩
    · simp only [hsingle, Report.valueText]
      by_cases hwritable : v.isWritable = true
      · rw [if_pos hwritable]
        refine ⟨iff_of_true ⟨_, rfl⟩ ?_, fun o ho => ?_⟩
        · intro v' hv
          cases hv
          exact hwritable
        · cases ho
          exact ⟨rfl, Nat.zero_le 1, iff_of_false Nat.zero_ne_one (by simp)⟩
      · rw [if_neg hwritable]
        exact ⟨iff_of_false not_exists_error_eq_ok fun h => hwritable (h v rfl),
          fun o ho => by cases ho⟩
    · simp only [hsingle]
      refine ⟨iff_of_true ⟨_, rfl⟩ (by simp), fun o ho => ?_⟩
      cases ho
      exact ⟨rfl, le_refl 1, iff_of_true rfl ⟨rs, l, rfl⟩⟩

/-- The status and the file of an outcome tell what has come of a demand. -/
structure Outcome.Tells (o : Outcome) (c : Compilation) (d : Demand) : Prop where
  file : o.file = fileOf c d
  bounded : o.status ≤ 2
  ambiguous : o.status = 1 ↔ Ambiguous c d
  unresolved : o.status = 2 ↔ Unresolved c d

theorem dump_spec (hscreen : s.RendersAsDocumented) (c : Compilation) (form : ReportForm) :
    ((∃ o, dump s c form = .ok o) ↔ Printable c (.dump form)) ∧
      ∀ o, dump s c form = .ok o → o.Tells c (.dump form) := by
  have hzero : ∀ o : Outcome, o.file = fileOf c (.dump form) → o.status = 0 →
      o.Tells c (.dump form) := by
    intro o hfile hstatus
    refine ⟨hfile, by omega, iff_of_false (by omega) ?_, iff_of_false (by omega) ?_⟩
    · exact id
    · exact id
  cases form with
  | table =>
    rw [Printable, ← Report.toTables_succeeds_iff hscreen]
    cases htables : Report.toTables s (Report.annotated c) with
    | error f =>
      rw [dump, htables]
      exact ⟨iff_of_false not_exists_error_eq_ok not_exists_error_eq_ok, fun o ho => by cases ho⟩
    | ok text =>
      rw [dump, htables]
      refine ⟨iff_of_true ⟨_, rfl⟩ ⟨text, rfl⟩, fun o ho => ?_⟩
      cases ho
      exact hzero _ rfl rfl
  | json file =>
    rw [Printable, dump_json_eq]
    by_cases hlegible : ∀ e ∈ Report.annotated c, e.Legible
    · rw [if_pos hlegible]
      refine ⟨iff_of_true ⟨_, rfl⟩ hlegible, fun o ho => ?_⟩
      cases file <;> cases ho <;> exact hzero _ rfl rfl
    · rw [if_neg hlegible]
      exact ⟨iff_of_false not_exists_error_eq_ok hlegible, fun o ho => by cases ho⟩

theorem query_spec (h : c.table.Coherent) (path : String) (type : Option String) :
    ((∃ o, query s c path type = .ok o) ↔ Printable c (.query path type)) ∧
      ∀ o, query s c path type = .ok o → o.Tells c (.query path type) := by
  have hunresolved := unresolved_iff h path type
  obtain ⟨err, -, hentry⟩ | ⟨e, hentry, -, -, hlive, -⟩ := entryOfPath_cases h path
  · -- without an entry there is nothing to print and nothing to be ambiguous
    have hnothing : ∀ e, c.entryOfPath path ≠ .ok e := by simp [hentry]
    have hquery : query s c path type = .ok { status := 2, complaints := err.message ++ "\n" } := by
      cases type with
      | none => rw [query_eq, hentry]
      | some t => rw [query_type_eq h, hentry]
    have hprintable : Printable c (.query path type) := by
      cases type <;> exact fun e he => absurd he (hnothing e)
    have hclear : ¬ Ambiguous c (.query path type) := by
      cases type with
      | none => exact id
      | some t =>
        rintro ⟨e, r, rs, l, he, -⟩
        exact hnothing e he
    rw [hquery]
    refine ⟨iff_of_true ⟨_, rfl⟩ hprintable, fun o ho => ?_⟩
    cases ho
    exact ⟨rfl, le_refl 2, iff_of_false (show ¬ (2 : Nat) = 1 by decide) hclear,
      iff_of_true rfl (hunresolved.mpr ⟨err, hentry⟩)⟩
  · have hresolved : ¬ Unresolved c (.query path type) := by
      rw [hunresolved, hentry]
      simp
    cases type with
    | none =>
      have hprintable : Printable c (.query path none) ↔ e.Legible := by
        simp [Printable, hentry]
      rw [hprintable, query_eq, hentry]
      dsimp only
      by_cases hlegible : e.Legible
      · rw [if_pos hlegible]
        refine ⟨iff_of_true ⟨_, rfl⟩ hlegible, fun o ho => ?_⟩
        cases ho
        exact ⟨rfl, Nat.zero_le 2, iff_of_false Nat.zero_ne_one id,
          iff_of_false (show ¬ (0 : Nat) = 2 by decide) hresolved⟩
      · rw [if_neg hlegible]
        exact ⟨iff_of_false not_exists_error_eq_ok hlegible, fun o ho => by cases ho⟩
    | some t =>
      obtain ⟨hsucceeds, hstatus⟩ := queryType_spec path t hlive
      rw [query_type_eq h, hentry]
      constructor
      · rw [hsucceeds]
        simp [Printable, hentry]
      · intro o ho
        obtain ⟨hfile, hbound, hambiguous⟩ := hstatus o ho
        refine ⟨hfile, by omega, ?_, iff_of_false (by omega) hresolved⟩
        rw [hambiguous]
        simp [Ambiguous, hentry]

/-- **An answer exists exactly when what is asked for can be printed.**  Its status tells what has
come of the demand, and it has a text for the file that the demand names. -/
theorem answer_spec (hscreen : s.RendersAsDocumented) (h : c.table.Coherent) (d : Demand) :
    ((∃ o, answer s c d = .ok o) ↔ Printable c d) ∧ ∀ o, answer s c d = .ok o → o.Tells c d := by
  cases d with
  | dump form => exact dump_spec hscreen c form
  | query path type => exact query_spec h path type

/-! ### Commands -/

variable {i : Installation} {cmd : Command} {disk : Disk} {project : Node} {ds : List Diagnostic}

/-- Only a dump has a file. -/
theorem clear_of_fileOf {d : Demand} {file text : String} (h : fileOf c d = some (file, text)) :
    ¬ Ambiguous c d ∧ ¬ Unresolved c d := by
  cases d with
  | dump form => exact ⟨id, id⟩
  | query path type => cases h

/-- What the system says is asked of the one file that a demand names. -/
theorem unwritten_iff {why : WriteFault} {d : Demand} {file text : String}
    (h : fileOf c d = some (file, text)) :
    Unwritten why disk c d ↔ (disk.write file (Utf8.encode text)).1 = .error why := by
  simp [Unwritten, h]

/-- What a command on a folder does once the sources are analysed. -/
theorem runIn_spec (hscreen : i.screen.RendersAsDocumented) (hcalls : i.Operates)
    (h : Analyses i cmd.path cmd.heedsIgnored project ds c)
    (hfolder : disk.folderAt cmd.path = .ok project) :
    ((∃ o, (cmd.runIn i disk).1 = .ok o) ↔
        Printable c cmd.demand ∧ ¬ Unspeakable disk c cmd.demand) ∧
      ∀ o, (cmd.runIn i disk).1 = .ok o → o.status ≤ 2 ∧
        (o.status = 1 ↔ Ambiguous c cmd.demand) ∧
        (o.status = 2 ↔ Unresolved c cmd.demand ∨ Unwritable disk c cmd.demand) := by
  obtain ⟨hsucceeds, htells⟩ := answer_spec hscreen (h.coherent hcalls) cmd.demand
  have hrun : cmd.run i (.ok project) = (answer i.screen c cmd.demand).map (Outcome.behind ds) :=
    h.run_eq cmd.demand
  rw [← hsucceeds, runIn, hfolder, hrun]
  cases hanswer : answer i.screen c cmd.demand with
  | error f =>
    refine ⟨iff_of_false nofun fun hok => ?_, nofun⟩
    exact not_exists_error_eq_ok hok.1
  | ok o₁ =>
    obtain ⟨hfile, hbound, hambiguous, hunresolved⟩ := htells o₁ hanswer
    simp only [Except.map, Outcome.behind_file, hfile]
    cases hof : fileOf c cmd.demand with
    | none =>
      have hnever : ∀ why, ¬ Unwritten why disk c cmd.demand := by
        rintro why ⟨file, text, hfile, -⟩
        rw [hof] at hfile
        cases hfile
      refine ⟨iff_of_true ⟨_, rfl⟩ ⟨⟨_, rfl⟩, hnever _⟩, fun o ho => ?_⟩
      cases ho
      exact ⟨hbound, hambiguous, hunresolved.trans (or_iff_left (hnever _)).symm⟩
    | some written =>
      obtain ⟨file, text⟩ := written
      obtain ⟨hdump, hresolved⟩ := clear_of_fileOf hof
      rw [Unspeakable, Unwritable, unwritten_iff hof, unwritten_iff hof]
      dsimp only
      -- the file is written, or the system refuses it, or it is not even asked
      obtain ⟨_ | _, disk'⟩ := disk.write file (Utf8.encode text)
      · rename_i why
        cases why with
        | refused =>
          refine ⟨iff_of_true ⟨_, rfl⟩ ⟨⟨_, rfl⟩, by simp⟩, fun o ho => ?_⟩
          cases ho
          exact ⟨le_refl 2, iff_of_false (show ¬ (2 : Nat) = 1 by decide) hdump,
            iff_of_true rfl (.inr rfl)⟩
        | nullCharacter => exact ⟨iff_of_false nofun fun hok => hok.2 rfl, nofun⟩
      · refine ⟨iff_of_true ⟨_, rfl⟩ ⟨⟨_, rfl⟩, by simp⟩, fun o ho => ?_⟩
        cases ho
        exact ⟨hbound, hambiguous, by simpa using hunresolved⟩

/-- What a command does when ignore files cannot be read: a line that is no pattern leaves it
without an outcome. -/
theorem runIn_unloaded (hfolder : disk.folderAt cmd.path = .ok project) {f : LoadFault}
    (hrules : cmd.ignoreRules i.ruleReader project = .error f) :
    (∃ p, f = .pattern p ∧ (cmd.runIn i disk).1 = .error (.pattern p)) ∨
      (∀ p, f ≠ .pattern p) ∧ ∃ m, (cmd.runIn i disk).1 = .ok (unreadIgnoreFiles m) := by
  cases f with
  | pattern p =>
    refine .inl ⟨p, rfl, ?_⟩
    simp only [runIn, hfolder, run, hrules]
  | unread e =>
    refine .inr ⟨by simp, e.message, ?_⟩
    simp only [runIn, hfolder, run, hrules]
    rfl

/-- **How a command on a folder ends.**  The screen prints the tables whose texts render, and no
others, and what is left to the language changes a compilation by operations only.  Where the
analysis comes to its end, the command has an outcome exactly when no ignore file has a line that is
no pattern, what is asked for can be printed, and there is no null character in the way of the file
of a dump.  Its status is 1 exactly when a query with a type is ambiguous, 2 exactly when the ignore
files cannot be read, the declaration of a query does not resolve or the file of a dump cannot be
written, and 0 otherwise. -/
theorem runIn_ends (hscreen : i.screen.RendersAsDocumented) (hcalls : i.Operates)
    (hfolder : disk.folderAt cmd.path = .ok project)
    (hreturns : ∀ rules, cmd.ignoreRules i.ruleReader project = .ok rules → ∃ a c,
      i.analyzer.analyze (Node.lastName cmd.path) project rules (.empty 1 Kind.all) =
        (.ok a, c)) :
    ((∃ o, (cmd.runIn i disk).1 = .ok o) ↔
        (∀ f, cmd.ignoreRules i.ruleReader project ≠ .error (.pattern f)) ∧
          ∀ ds c, Analyses i cmd.path cmd.heedsIgnored project ds c →
            Printable c cmd.demand ∧ ¬ Unspeakable disk c cmd.demand) ∧
      ∀ o, (cmd.runIn i disk).1 = .ok o → o.status ≤ 2 ∧
        (o.status = 1 ↔ ∃ ds c, Analyses i cmd.path cmd.heedsIgnored project ds c ∧
          Ambiguous c cmd.demand) ∧
        (o.status = 2 ↔ (∃ f, cmd.ignoreRules i.ruleReader project = .error f) ∨
          ∃ ds c, Analyses i cmd.path cmd.heedsIgnored project ds c ∧
            (Unresolved c cmd.demand ∨ Unwritable disk c cmd.demand)) := by
  cases hrules : cmd.ignoreRules i.ruleReader project with
  | error f =>
    -- nothing is analysed, so nothing can come of the demand
    have hnone : ∀ ds c, ¬ Analyses i cmd.path cmd.heedsIgnored project ds c := by
      rintro ds c ⟨rules, a, hloaded, -⟩
      rw [ignoreRules, hloaded] at hrules
      cases hrules
    obtain ⟨p, rfl, hrun⟩ | ⟨hpattern, m, hrun⟩ := runIn_unloaded hfolder hrules
    · rw [hrun]
      refine ⟨iff_of_false ?_ fun h => h.1 p rfl, ?_⟩
      · rintro ⟨o, ho⟩
        cases ho
      · intro o ho
        cases ho
    · rw [hrun]
      refine ⟨iff_of_true ⟨_, rfl⟩ ⟨?_, fun ds c h => absurd h (hnone ds c)⟩, ?_⟩
      · intro p hp
        exact hpattern p (Except.error.inj hp)
      · intro o ho
        cases ho
        refine ⟨le_refl 2, iff_of_false (show ¬ (2 : Nat) = 1 by decide) ?_, iff_of_true rfl ?_⟩
        · rintro ⟨ds, c, h, -⟩
          exact hnone ds c h
        · exact .inl ⟨f, rfl⟩
  | ok rules =>
    obtain ⟨a, c, hanalyzed⟩ := hreturns rules hrules
    have hanalyses : Analyses i cmd.path cmd.heedsIgnored project a.diagnostics c :=
      ⟨rules, a, hrules, rfl, hanalyzed⟩
    -- there is one analysis, so what holds of some analysis holds of it
    have hone : ∀ P : Compilation → Prop,
        (∃ ds c, Analyses i cmd.path cmd.heedsIgnored project ds c ∧ P c) ↔ P c := by
      intro P
      constructor
      · rintro ⟨ds', c', h', hP⟩
        rwa [(hanalyses.unique h').2] at hP
      · intro hP
        exact ⟨_, c, hanalyses, hP⟩
    obtain ⟨hsucceeds, hstatus⟩ := runIn_spec hscreen hcalls hanalyses hfolder
    constructor
    · rw [hsucceeds]
      constructor
      · refine fun h => ⟨by simp, fun ds' c' h' => ?_⟩
        rwa [(hanalyses.unique h').2]
      · rintro ⟨-, h⟩
        exact h _ c hanalyses
    · intro o ho
      simpa [hone] using hstatus o ho

/-- A disk with a project in its one folder. -/
def diskWith (project : Node) : Disk where
  root := .folder [("project", project)]

theorem folderAt_diskWith (es : List (String × Node)) :
    (diskWith (.folder es)).folderAt "project" = .ok (.folder es) := by
  have hparts : Node.partsOf "project" = ["project"] := by decide +kernel
  have hstart : (diskWith (.folder es)).start "project" = [] := by
    rw [Disk.start]
    split <;> rfl
  have hname : ("project" == Disk.upward) = false := by decide
  rw [Disk.folderAt, hstart, hparts]
  simp [diskWith, Disk.follow, Node.find?, hname]

/-- A function that is annotated with a number is shown in a table. -/
theorem runIn_ends_table :
    ∃ o, ((⟨"project", .dump .table, false⟩ : Command).runIn {}
        (diskWith (projectWith "@meta(1)\ndef f(): pass\n"))).1 = .ok o ∧ o.status = 0 := by
  obtain ⟨ds, c, h, hlegible, hentries, -⟩ := exists_analyses digest_plain
  have hreturns : ∀ rules, ignoreRules ⟨"project", .dump .table, false⟩ .documented
      (projectWith "@meta(1)\ndef f(): pass\n") = .ok rules → ∃ a c,
        ({} : Installation).analyzer.analyze (Node.lastName "project")
          (projectWith "@meta(1)\ndef f(): pass\n") rules (.empty 1 Kind.all) = (.ok a, c) := by
    rintro rules hrules
    obtain ⟨rules', a, hrules', -, hanalyzed⟩ := h
    cases hrules
    cases hrules'
    exact ⟨a, c, hanalyzed⟩
  have hprintable : ∀ e ∈ Report.annotated c, e.Tabular := by
    intro e he
    obtain ⟨hdeclaration, htexts⟩ := eq_of_only_entry hentries e he
    refine Report.Entry.tabular_of_no_bracket (hlegible (by decide) e he) ?_ ?_ ?_
    · rw [hdeclaration]
      decide
    · rw [hdeclaration]
      decide
    · rw [htexts]
      decide
  -- a table goes to no file
  have hnofile : ∀ why disk c', ¬ Unwritten why disk c' (.dump .table) := by
    rintro why disk c' ⟨file, text, hfile, -⟩
    cases hfile
  obtain ⟨hends, hstatus⟩ := runIn_ends Screen.documented_rendersAsDocumented
    Installation.operates_default (folderAt_diskWith _) hreturns
  obtain ⟨o, hrun⟩ := hends.mpr ⟨by simp [ignoreRules], fun ds' c' h' => by
    rw [(h.unique h').2]
    exact ⟨hprintable, hnofile _ _ _⟩⟩
  obtain ⟨hbound, hambiguous, hstatusTwo⟩ := hstatus o hrun
  have hone : o.status ≠ 1 := by
    intro hone
    obtain ⟨ds', c', h', hnever⟩ := hambiguous.mp hone
    exact hnever
  have htwo : o.status ≠ 2 := by
    intro htwo
    obtain ⟨f, hf⟩ | ⟨ds', c', h', hnever | hunwritten⟩ := hstatusTwo.mp htwo
    · cases hf
    · exact hnever
    · exact hnofile _ _ _ hunwritten
  exact ⟨o, hrun, by omega⟩

set_option maxRecDepth 100000 in
theorem digest_tag :
    digest {} "project" (projectWith "@meta('[/]')\ndef f(): pass\n") = some {
      entries := [
        (⟨⟨1, 1⟩, .function, "m", "f", ⟨"m.py", 2, 0⟩, []⟩,
          ⟨"m:f", "function", [⟨"str", "'[/]'", "m.py:1:6"⟩]⟩, true)]
      bindings := [(("m", "f"), .declared ⟨1, 1⟩), (("m", ""), .declared ⟨1, 0⟩)] } := by
  decide +kernel

/-- A tag that closes nothing does not render. -/
theorem not_renders_closing : ¬ Markup.Renders "'[/]'" := by
  have hnone : (Markup.render "'[/]'").toOption.isNone = true := by decide +kernel
  rintro ⟨t, ht⟩
  rw [ht] at hnone
  cases hnone

/-- A project with an ignore file whose line ends with a backslash, which is no pattern. -/
def patternProject : Node :=
  .folder [(".gitignore", .file (.ok <| Utf8.encode "a\\\n")), ("m.py", .file (.ok []))]

theorem load_patternProject : ∃ f, patternProject.load .documented = .error (.pattern f) := by
  have hread : textOfBytes (Utf8.encode "a\\\n") = .ok "a\\\n" := by
    have hsome : (textOfBytes (Utf8.encode "a\\\n")).toOption = some "a\\\n" := by decide +kernel
    cases htext : textOfBytes (Utf8.encode "a\\\n") with
    | error e =>
      rw [htext] at hsome
      cases hsome
    | ok t =>
      rw [htext] at hsome
      exact congrArg Except.ok (Option.some.inj hsome)
  have hlines : Lines.split "a\\\n" = ["a\\"] := by decide +kernel
  have hnone : ((Matcher.ofRules [] []).extend .documented ["a\\"] "").toOption.isNone = true := by
    decide +kernel
  cases hrules : (Matcher.ofRules [] []).extend .documented ["a\\"] "" with
  | ok m =>
    rw [hrules] at hnone
    cases hnone
  | error f =>
    refine ⟨f, ?_⟩
    have hfile : patternProject.entries.lookup Node.ignoreFile =
        some (.file (.ok <| Utf8.encode "a\\\n")) := rfl
    have hstart : Matcher.ofLines .documented [] = .ok (.ofRules [] []) := rfl
    have hroot : Node.withRulesOf .documented [] patternProject.entries (.ofRules [] []) =
        .error (.pattern f) := by
      simp only [Node.withRulesOf, hfile, textOfContent, hread, Except.mapError, hlines]
      rw [show Path.text [] = "" from rfl, hrules]
    rw [Node.load, hstart]
    dsimp only
    rw [Node.loadFrom, hroot]

/-- Neither a line that is no pattern nor a value that does not render leaves an outcome, although
the ignore files are there and the analysis comes to its end. -/
theorem runIn_without_outcome :
    (∃ f, ((⟨"project", .dump .table, true⟩ : Command).runIn {} (diskWith patternProject)).1 =
      .error (.pattern f)) ∧
      ∃ ds c f, Analyses {} "project" false (projectWith "@meta('[/]')\ndef f(): pass\n") ds c ∧
        ((⟨"project", .dump .table, false⟩ : Command).runIn {}
          (diskWith (projectWith "@meta('[/]')\ndef f(): pass\n"))).1 = .error f := by
  constructor
  · obtain ⟨f, hf⟩ := load_patternProject
    have hrules : ignoreRules ⟨"project", .dump .table, true⟩ .documented patternProject =
        .error (.pattern f) := by
      rw [ignoreRules, if_pos rfl, hf]
      rfl
    refine ⟨f, ?_⟩
    obtain ⟨p, hp, hrun⟩ | ⟨hpattern, -⟩ := runIn_unloaded (i := {}) (folderAt_diskWith _) hrules
    · cases hp
      exact hrun
    · exact absurd rfl (hpattern f)
  · obtain ⟨ds, c, h, -, hentries, -⟩ := exists_analyses digest_tag
    obtain ⟨e, he, -, htexts⟩ := exists_entry hentries List.mem_cons_self
    have hunprintable : ¬ Printable c (.dump .table) := by
      intro hall
      refine not_renders_closing ((hall e he).renders_value ⟨"str", "'[/]'", "m.py:1:6"⟩ ?_)
      rw [htexts]
      exact List.mem_cons_self
    have hfolder : (diskWith (projectWith "@meta('[/]')\ndef f(): pass\n")).folderAt "project" =
        .ok (projectWith "@meta('[/]')\ndef f(): pass\n") := folderAt_diskWith _
    have hspec : ((∃ o, ((⟨"project", .dump .table, false⟩ : Command).runIn {}
        (diskWith (projectWith "@meta('[/]')\ndef f(): pass\n"))).1 = .ok o) ↔ _) ∧ _ :=
      runIn_spec Screen.documented_rendersAsDocumented Installation.operates_default h hfolder
    cases hrun : ((⟨"project", .dump .table, false⟩ : Command).runIn {}
        (diskWith (projectWith "@meta('[/]')\ndef f(): pass\n"))).1 with
    | ok o => exact absurd (hspec.1.mp ⟨o, hrun⟩).1 hunprintable
    | error f => exact ⟨ds, c, f, h, rfl⟩

end Command

end Marginalia
