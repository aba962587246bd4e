/-
Asking for what a dump lists.

A dump prints the path of each annotated declaration: its module and, behind a colon, its
qualified name.  A query takes such a path apart at the first colon and looks the name up, as the
table has it at the end of the run.  So a listed entry is found again if and only if nothing else
has been bound to its name in the meantime (`Compilation.entryOfPath_path_iff`):

* `Command.query_listed` — for an entry whose name is still bound to it, the query prints this
  entry alone; otherwise it prints the entry of another declaration, or finds none.
-/
import Mathlib.Data.List.TakeWhile
import Marginalia.Proofs.CommandRun

namespace Marginalia

theorem Table.splitPath_path {d : Declaration} (hcolon : ':' ∉ d.module.toList) :
    Table.splitPath d.path = (d.module, d.qualname) := by
  have hmodule : ∀ c ∈ d.module.toList, (c != ':') = true := by
    intro c hc
    exact bne_iff_ne.mpr fun h => hcolon (h ▸ hc)
  unfold Table.splitPath Declaration.path
  by_cases hq : d.qualname.isEmpty = true
  · rw [if_pos hq, List.takeWhile_eq_self_iff.mpr hmodule, List.dropWhile_eq_nil_iff.mpr hmodule,
      String.isEmpty_iff.mp hq]
    simp
  · rw [if_neg hq, String.toList_append, String.toList_append, List.append_assoc,
      List.takeWhile_append_of_pos hmodule, List.dropWhile_append_of_pos hmodule]
    simp

/-- A plain name that is bound nowhere, and is no submodule, denotes nothing. -/
theorem Table.resolve?_eq_none {t : Table} {module name : String}
    (hunbound : t.binding? (module, name) = none) (hplain : '.' ∉ name.toList)
    (hsubmodule : t.binding? (Table.submoduleKey (module, name)) = none) :
    t.resolve? module name = none := by
  rw [Option.eq_none_iff_forall_ne_some]
  intro i hi
  have hbound := (Table.resolve?_submodule hunbound hplain).mp hi
  rw [hsubmodule] at hbound
  cases hbound

namespace Report

variable {c : Compilation} {e : Entry}

theorem mem_annotated_iff : e ∈ annotated c ↔ e.declaration ∈ c.table.entries ∧
    e.records = c.store.recordsOf e.declaration.identity ∧ e.records ≠ [] := by
  obtain ⟨d, rs⟩ := e
  simp only [annotated, List.mem_filter, List.mem_map, Entry.mk.injEq]
  constructor
  · rintro ⟨⟨d', hd', rfl, rfl⟩, hrecords⟩
    exact ⟨hd', rfl, by simpa using hrecords⟩
  · rintro ⟨hd, rfl, hrecords⟩
    exact ⟨⟨d, hd, rfl, rfl⟩, by simpa using hrecords⟩

end Report

namespace Compilation

variable {c : Compilation} {e : Report.Entry}

/-- The path of an annotated declaration leads back to it as long as its name is bound to it. -/
theorem entryOfPath_path_iff (h : c.table.Coherent) (he : e ∈ Report.annotated c)
    (hcolon : ':' ∉ e.declaration.module.toList) :
    c.entryOfPath e.declaration.path = .ok e ↔
      c.table.binding? (e.declaration.module, e.declaration.qualname) =
        some (.declared e.declaration.identity) := by
  obtain ⟨hd, hrecords, -⟩ := Report.mem_annotated_iff.mp he
  rw [entryOfPath_eq_ok_iff h, Table.resolvePath, Table.splitPath_path hcolon, Table.resolve]
  dsimp only
  constructor
  · rintro ⟨hfound, -, -⟩
    split at hfound
    · rename_i i hresolve
      cases hfound
      -- whatever leads to a declaration ends at its own name
      obtain ⟨d', -, hentry, hid, hbound⟩ := h.entry_of_resolve? hresolve
      have hsame : d'.key = e.declaration.key :=
        (h.identity_eq_iff (Table.entry_mem hentry) hd).mp hid
      simp only [Declaration.key, Prod.mk.injEq] at hsame
      rwa [hsame.1, hsame.2.1] at hbound
    · cases hfound
  · intro hbound
    rw [Table.resolve?_of_declared hbound]
    exact ⟨rfl, hd, hrecords⟩

/-- The values of a declaration are among those that a dump lists. -/
theorem legible_of_entryOfPath (h : c.table.Coherent) {path : String}
    (hlegible : ∀ e ∈ Report.annotated c, e.Legible) (he : c.entryOfPath path = .ok e) :
    e.Legible := by
  obtain ⟨-, hd, hrecords⟩ := (entryOfPath_eq_ok_iff h).mp he
  by_cases hnone : e.records = []
  · intro r hr
    rw [hnone] at hr
    cases hr
  · exact hlegible e (Report.mem_annotated_iff.mpr ⟨hd, hrecords, hnone⟩)

end Compilation

namespace Command

variable {i : Installation} {path : String} {heeds : Bool} {project : Node}
  {ds : List Diagnostic} {c : Compilation} {o : Outcome} {e : Report.Entry}

/-- A dump that prints has only values that can be written. -/
theorem legible_of_dump (h : Analyses i path heeds project ds c) {file : Option String}
    (hdump : run ⟨path, .dump (.json file), heeds⟩ i (.ok project) = .ok o) :
    ∀ e ∈ Report.annotated c, e.Legible := by
  by_contra hnot
  rw [h.run_eq, answer, dump_json_eq, if_neg hnot] at hdump
  cases hdump

/-- The query for the path of an entry whose name is bound to it prints this entry and no other. -/
theorem run_query_of_bound (hcalls : i.Operates) (h : Analyses i path heeds project ds c)
    (he : e ∈ Report.annotated c) (hlegible : e.Legible)
    (hcolon : ':' ∉ e.declaration.module.toList)
    (hbound : c.table.binding? (e.declaration.module, e.declaration.qualname) =
      some (.declared e.declaration.identity)) :
    run ⟨path, .query e.declaration.path none, heeds⟩ i (.ok project) =
      .ok (.behind ds { status := 0, printed := printedJson i.screen (Report.listing [e]) }) := by
  rw [h.run_eq, answer, query_eq,
    (Compilation.entryOfPath_path_iff (h.coherent hcalls) he hcolon).mpr hbound]
  dsimp only
  rw [if_pos hlegible]
  rfl

/-- **Dump and query agree on what still has its name.**  Both are run in one installation, in which
what is left to the language comes to the same each time, the order of the members of sets
included, and changes compilations by operations only.  For each entry that a dump lists, from a
module whose name has no colon: if the name of the declaration is bound to it at the end of the
run, the query for its path prints this entry and no other; if not, it prints the entry of
another declaration, or ends with status 2. -/
theorem query_listed (hcalls : i.Operates) (h : Analyses i path heeds project ds c)
    (hdump : run ⟨path, .dump (.json none), heeds⟩ i (.ok project) = .ok o)
    (he : e ∈ Report.annotated c) (hcolon : ':' ∉ e.declaration.module.toList) :
    o = .behind ds
        { status := 0, printed := printedJson i.screen (Report.listing (Report.annotated c)) } ∧
      (c.table.binding? (e.declaration.module, e.declaration.qualname) =
          some (.declared e.declaration.identity) →
        run ⟨path, .query e.declaration.path none, heeds⟩ i (.ok project) =
          .ok (.behind ds { status := 0, printed := printedJson i.screen (Report.listing [e]) })) ∧
      (c.table.binding? (e.declaration.module, e.declaration.qualname) ≠
          some (.declared e.declaration.identity) →
        ∃ o', run ⟨path, .query e.declaration.path none, heeds⟩ i (.ok project) = .ok o' ∧
          (o'.status = 2 ∨ ∃ e' : Report.Entry, e'.declaration ∈ c.table.entries ∧
            e'.declaration ≠ e.declaration ∧ o' = .behind ds
              { status := 0, printed := printedJson i.screen (Report.listing [e']) })) := by
  have hlegible := legible_of_dump h hdump
  have hfound := Compilation.entryOfPath_path_iff (h.coherent hcalls) he hcolon
  refine ⟨?_, fun hbound => ?_, fun hbound => ?_⟩
  · rw [h.run_dump hlegible] at hdump
    exact (Except.ok.inj hdump).symm
  · exact run_query_of_bound hcalls h he (hlegible e he) hcolon hbound
  · rw [h.run_eq, answer, query_eq]
    cases hother : c.entryOfPath e.declaration.path with
    | error err => exact ⟨_, rfl, .inl rfl⟩
    | ok e' =>
      dsimp only
      have hcoherent := h.coherent hcalls
      rw [if_pos (Compilation.legible_of_entryOfPath hcoherent hlegible hother)]
      obtain ⟨-, hd', hrecords'⟩ := (Compilation.entryOfPath_eq_ok_iff hcoherent).mp hother
      refine ⟨_, rfl, .inr ⟨e', hd', fun hsame => ?_, rfl⟩⟩
      -- the same declaration would have the same records, so it would be the entry
      obtain ⟨-, hrecords, -⟩ := Report.mem_annotated_iff.mp he
      obtain ⟨d, rs⟩ := e
      obtain ⟨d', rs'⟩ := e'
      dsimp only at hsame hrecords hrecords'
      subst hsame hrecords hrecords'
      exact hbound (hfound.mp hother)

/-- A class whose name is then imported from a module that is not there, and a function. -/
def importingProject : Node :=
  .folder [("m.py", .file (.ok <| Utf8.encode
    "@meta(1)\nclass A: pass\nfrom n import A\n@meta(2)\ndef f(): pass\n"))]

set_option maxRecDepth 100000 in
theorem digest_importing :
    digest {} "project" importingProject = some {
      entries := [
        (⟨⟨1, 1⟩, .typeDef, "m", "A", ⟨"m.py", 2, 0⟩, []⟩,
          ⟨"m:A", "type", [⟨"int", "1", "m.py:1:6"⟩]⟩, true),
        (⟨⟨1, 2⟩, .function, "m", "f", ⟨"m.py", 5, 0⟩, []⟩,
          ⟨"m:f", "function", [⟨"int", "2", "m.py:4:6"⟩]⟩, true)]
      bindings := [(("m", "f"), .declared ⟨1, 2⟩), (("m", "A"), .sameAs ("n", "A")),
        (("m", ""), .declared ⟨1, 0⟩)] } := by
  decide +kernel

/-- The function still has its name. -/
theorem query_listed_function :
    ∃ ds c o e, Analyses {} "project" false importingProject ds c ∧
      run ⟨"project", .dump (.json none), false⟩ {} (.ok importingProject) = .ok o ∧
      e ∈ Report.annotated c ∧ e.texts = ⟨"m:f", "function", [⟨"int", "2", "m.py:4:6"⟩]⟩ ∧
      ':' ∉ e.declaration.module.toList ∧
      run ⟨"project", .query "m:f" none, false⟩ {} (.ok importingProject) =
        .ok (.behind ds
          { status := 0, printed := printedJson .documented (Report.listing [e]) }) := by
  obtain ⟨ds, c, h, hlegible, hentries, hbindings⟩ := exists_analyses digest_importing
  obtain ⟨e, he, hd, htexts⟩ := exists_entry hentries (List.mem_cons_of_mem _ List.mem_cons_self)
  have hdump := h.run_dump (hlegible (by decide))
  have hcolon : ':' ∉ e.declaration.module.toList := by
    rw [hd]
    decide
  have hbound : c.table.binding? (e.declaration.module, e.declaration.qualname) =
      some (.declared e.declaration.identity) := by
    rw [hd, Table.binding?, hbindings]
    rfl
  have hfound := (query_listed Installation.operates_default h hdump he hcolon).2.1 hbound
  rw [hd] at hfound
  exact ⟨ds, c, _, e, h, hdump, he, htexts, hcolon, hfound⟩

/-- A function in a file whose name has a colon. -/
def colonProject : Node :=
  .folder [("a:b.py", .file (.ok <| Utf8.encode "@meta(1)\ndef f(): pass\n"))]

set_option maxRecDepth 100000 in
theorem digest_colon :
    digest {} "project" colonProject = some {
      entries := [
        (⟨⟨1, 1⟩, .function, "a:b", "f", ⟨"a:b.py", 2, 0⟩, []⟩,
          ⟨"a:b:f", "function", [⟨"int", "1", "a:b.py:1:6"⟩]⟩, true)]
      bindings := [(("a:b", "f"), .declared ⟨1, 1⟩), (("a:b", ""), .declared ⟨1, 0⟩)] } := by
  decide +kernel

/-- A function that is annotated with the characters of a text. -/
def lettersProject : Node :=
  .folder [("m.py", .file (.ok <| Utf8.encode "@meta(frozenset('ab'))\ndef f(): pass\n"))]

/-- What an analysis leaves of it, by the text of the annotation. -/
def lettersDigest (value : String) : Digest where
  entries := [(⟨⟨1, 1⟩, .function, "m", "f", ⟨"m.py", 2, 0⟩, []⟩,
    ⟨"m:f", "function", [⟨"frozenset", value, "m.py:1:6"⟩]⟩, true)]
  bindings := [(("m", "f"), .declared ⟨1, 1⟩), (("m", ""), .declared ⟨1, 0⟩)]

/-- An installation that goes through the members of sets the other way round. -/
def backwards : Installation where
  language := { arrangement := ⟨fun _ => List.reverse, fun _ => List.reverse_perm⟩ }

set_option maxRecDepth 100000 in
theorem digest_letters :
    digest {} "project" lettersProject =
      some (lettersDigest "frozenset(\x7b'a', 'b'\x7d)") := by
  decide +kernel

set_option maxRecDepth 100000 in
theorem digest_letters_backwards :
    digest backwards "project" lettersProject =
      some (lettersDigest "frozenset(\x7b'b', 'a'\x7d)") := by
  decide +kernel

/-- A query for a name of one part that is bound nowhere ends with status 2. -/
theorem query_nothing {module name p : String} (h : Analyses i path heeds project ds c)
    (hpath : Table.splitPath p = (module, name)) (hname : c.table.resolve? module name = none) :
    ∃ o, run ⟨path, .query p none, heeds⟩ i (.ok project) = .ok o ∧ o.status = 2 := by
  rw [h.run_eq, answer, query_eq, Compilation.entryOfPath, Table.resolvePath, Table.resolve, hpath,
    hname]
  exact ⟨_, rfl, rfl⟩

/-- A path does not lead back to every declaration that is listed: its name can have gone to
something else, here to nothing, and a colon in the name of the module is taken for its end.  And
in a run that goes through the members of sets in another order, other values are found. -/
theorem query_not_listed :
    (∃ ds c e o, Analyses {} "project" false importingProject ds c ∧
      run ⟨"project", .dump (.json none), false⟩ {} (.ok importingProject) = .ok (.behind ds
        { status := 0, printed := printedJson .documented (Report.listing (Report.annotated c)) }) ∧
      e ∈ Report.annotated c ∧ e.declaration.path = "m:A" ∧
      run ⟨"project", .query "m:A" none, false⟩ {} (.ok importingProject) = .ok o ∧ o.status = 2) ∧
    (∃ ds c e o, Analyses {} "project" false colonProject ds c ∧
      run ⟨"project", .dump (.json none), false⟩ {} (.ok colonProject) = .ok (.behind ds
        { status := 0, printed := printedJson .documented (Report.listing (Report.annotated c)) }) ∧
      e ∈ Report.annotated c ∧ e.declaration.path = "a:b:f" ∧
      run ⟨"project", .query "a:b:f" none, false⟩ {} (.ok colonProject) = .ok o ∧
      o.status = 2) ∧
    ∃ ds c e ds' e', Analyses {} "project" false lettersProject ds c ∧
      run ⟨"project", .dump (.json none), false⟩ {} (.ok lettersProject) = .ok (.behind ds
        { status := 0, printed := printedJson .documented (Report.listing (Report.annotated c)) }) ∧
      e ∈ Report.annotated c ∧ e.declaration.path = "m:f" ∧
      run ⟨"project", .query "m:f" none, false⟩ backwards (.ok lettersProject) = .ok (.behind ds'
        { status := 0, printed := printedJson .documented (Report.listing [e']) }) ∧
      e'.texts ≠ e.texts := by
  refine ⟨?_, ?_, ?_⟩
  · obtain ⟨ds, c, h, hlegible, hentries, hbindings⟩ := exists_analyses digest_importing
    obtain ⟨e, he, hd, -⟩ := exists_entry hentries List.mem_cons_self
    have halias : c.table.binding? ("m", "A") = some (.sameAs ("n", "A")) := by
      rw [Table.binding?, hbindings]
      rfl
    have hnothing : c.table.resolve? "m" "A" = none := by
      rw [Table.resolve?_of_sameAs halias]
      refine Table.resolve?_eq_none ?_ (by decide) ?_
      · rw [Table.binding?, hbindings]
        rfl
      · rw [Table.binding?, hbindings]
        rfl
    obtain ⟨o, hquery, hstatus⟩ := query_nothing (p := "m:A") h rfl hnothing
    exact ⟨ds, c, e, o, h, h.run_dump (hlegible (by decide)), he, by rw [hd]; rfl, hquery, hstatus⟩
  · obtain ⟨ds, c, h, hlegible, hentries, hbindings⟩ := exists_analyses digest_colon
    obtain ⟨e, he, hd, -⟩ := exists_entry hentries List.mem_cons_self
    have hnothing : c.table.resolve? "a" "b:f" = none := by
      refine Table.resolve?_eq_none ?_ (by decide) ?_
      · rw [Table.binding?, hbindings]
        rfl
      · rw [Table.binding?, hbindings]
        rfl
    obtain ⟨o, hquery, hstatus⟩ := query_nothing (p := "a:b:f") h rfl hnothing
    exact ⟨ds, c, e, o, h, h.run_dump (hlegible (by decide)), he, by rw [hd]; rfl, hquery, hstatus⟩
  · obtain ⟨ds, c, h, hlegible, hentries, -⟩ := exists_analyses digest_letters
    obtain ⟨ds', c', h', hlegible', hentries', hbindings'⟩ :=
      exists_analyses digest_letters_backwards
    obtain ⟨e, he, hd, htexts⟩ := exists_entry hentries List.mem_cons_self
    obtain ⟨e', he', hd', htexts'⟩ := exists_entry hentries' List.mem_cons_self
    have hcalls : backwards.Operates :=
      Host.answer_of_calls (fun _ _ c => .refl c) fun _ _ c => .refl c
    have hbound : c'.table.binding? (e'.declaration.module, e'.declaration.qualname) =
        some (.declared e'.declaration.identity) := by
      rw [hd', Table.binding?, hbindings']
      rfl
    have hquery := run_query_of_bound hcalls h' he' (hlegible' (by decide) e' he')
      (by rw [hd']; decide) hbound
    rw [hd'] at hquery
    refine ⟨ds, c, e, ds', e', h, h.run_dump (hlegible (by decide)), he, by rw [hd]; rfl, hquery, ?_⟩
    rw [htexts, htexts']
    decide

end Command

end Marginalia
