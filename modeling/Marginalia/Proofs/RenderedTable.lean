/-
Which reports can be written as tables.

The heading and the cells of a table are texts with tags, and a text with tags cannot be rendered
when a tag closes a style that is not open, names a color that is none or gives an action parameters
that are no literals.  `Markup.Renders` says that a text can be; one without brackets always can
(`Markup.renders_of_no_bracket`), but the module, the name, the value and the location of an
annotation can be any text.

* `Table.lines_succeeds_iff` — the lines of a table are there if its titles and cells render;
* `Screen.RendersAsDocumented` — a screen that prints what renders;
* `Report.toTables_succeeds_iff` — a report is written as tables exactly when all its values can
  be written and all its texts render.
-/
import Marginalia.Proofs.ReportListing

namespace Marginalia

section Results

variable {ε ε' α β : Type}

theorem not_exists_error_eq_ok {e : ε} : ¬ ∃ a, (Except.error e : Except ε α) = .ok a := by
  rintro ⟨a, h⟩
  cases h

theorem mapError_eq_ok_iff {x : Except ε α} {f : ε → ε'} {a : α} :
    x.mapError f = .ok a ↔ x = .ok a := by
  cases x with
  | error e => exact iff_of_false nofun nofun
  | ok b => simp [Except.mapError]

/-- Results that are all there make a list, with something true of each if it is so of all. -/
theorem exists_mapM_eq_ok_and_iff {f : α → Except ε β} {P : β → Prop} {xs : List α} :
    (∃ ys, xs.mapM f = .ok ys ∧ ∀ y ∈ ys, P y) ↔ ∀ x ∈ xs, ∃ y, f x = .ok y ∧ P y := by
  induction xs with
  | nil => exact iff_of_true ⟨[], rfl, nofun⟩ nofun
  | cons x xs ih =>
    rw [List.forall_mem_cons, ← ih, List.mapM_cons]
    constructor
    · rintro ⟨ys, hys, hall⟩
      obtain ⟨z, hz, hrest⟩ := exists_of_bind_eq_ok hys
      obtain ⟨zs, hzs, hcons⟩ := exists_of_bind_eq_ok hrest
      cases hcons
      obtain ⟨hPz, hPzs⟩ := List.forall_mem_cons.mp hall
      exact ⟨⟨z, hz, hPz⟩, zs, hzs, hPzs⟩
    · rintro ⟨⟨z, hz, hPz⟩, zs, hzs, hPzs⟩
      exact ⟨z :: zs, by rw [hz, hzs]; rfl, List.forall_mem_cons.mpr ⟨hPz, hPzs⟩⟩

theorem length_of_mapM_eq_ok {f : α → Except ε β} {xs : List α} {ys : List β}
    (h : xs.mapM f = .ok ys) : ys.length = xs.length := by
  induction xs generalizing ys with
  | nil =>
    cases h
    rfl
  | cons x xs ih =>
    rw [List.mapM_cons] at h
    obtain ⟨z, -, hrest⟩ := exists_of_bind_eq_ok h
    obtain ⟨zs, hzs, hcons⟩ := exists_of_bind_eq_ok hrest
    cases hcons
    rw [List.length_cons, List.length_cons, ih hzs]

end Results

namespace Markup

/-- A text with tags can be rendered. -/
def Renders (s : String) : Prop := ∃ t, render s = .ok t

theorem renders_iff {s : String} : Renders s ↔ ∃ m, read s = .ok m ∧ ∃ t, m.styled = .ok t :=
  exists_bind_eq_ok_iff

/-- Texts that are read one after the other and then styled render. -/
theorem exists_read_styled_iff {ss : List String} :
    (∃ ms, ss.mapM read = .ok ms ∧ ∀ m ∈ ms, ∃ t, m.styled = .ok t) ↔ ∀ s ∈ ss, Renders s := by
  rw [exists_mapM_eq_ok_and_iff]
  exact forall₂_congr fun s _ => renders_iff.symm

/-! ### Texts without tags -/

theorem plainPiece_plain (cs : List Char) : ∀ p ∈ plainPiece cs, ∃ ds, p = .plain ds := by
  intro p hp
  unfold plainPiece at hp
  split at hp
  · cases hp
  · exact ⟨cs, List.mem_singleton.mp hp⟩

/-- Without a bracket there is no tag. -/
theorem piecesFrom_plain {cs : List Char} (h : '[' ∉ cs) (position slashes : Nat)
    (before : List Char) :
    ∀ p ∈ piecesFrom position before slashes 0 cs, ∃ ds, p = .plain ds := by
  induction cs generalizing position slashes before with
  | nil =>
    rw [piecesFrom]
    exact plainPiece_plain _
  | cons c cs ih =>
    rw [List.mem_cons, not_or] at h
    have hc : (c == '[') = false := by simpa using Ne.symm h.1
    simp only [piecesFrom, hc]
    split
    · exact ih h.2 _ _ _
    · exact ih h.2 _ _ _

/-- Plain pieces are read without any tags. -/
theorem foldlM_add_plain {ps : List Piece} (h : ∀ p ∈ ps, ∃ ds, p = .plain ds) (cs : List Char) :
    ∃ ds, ps.foldlM Reading.add { chars := cs } = .ok { chars := ds } := by
  induction ps generalizing cs with
  | nil => exact ⟨cs, rfl⟩
  | cons p ps ih =>
    obtain ⟨⟨ds, rfl⟩, hps⟩ := List.forall_mem_cons.mp h
    obtain ⟨es, hes⟩ := ih hps (cs ++ _)
    exact ⟨es, hes⟩

theorem renders_of_no_bracket {s : String} (h : '[' ∉ s.toList) : Renders s := by
  obtain ⟨ds, hds⟩ := foldlM_add_plain (piecesFrom_plain h 0 0 []) []
  have hread : read s = .ok (Reading.finish { chars := ds }) := by
    rw [read, pieces, hds]
    rfl
  refine renders_iff.mpr ⟨_, hread, ⟨ds, []⟩, ?_⟩
  simp [Reading.finish, Marked.styled, pure, Except.pure, bind, Except.bind]

end Markup

open Markup (Renders)

/-! ### Tables and headings -/

namespace Table

theorem length_widths (total : Nat) (shares : List Nat) :
    (widths total shares).length = shares.length := by
  induction shares generalizing total with
  | nil => rfl
  | cons share shares ih => rw [widths, List.length_cons, ih, List.length_cons]

/-- The columns of a table are rendered if all their titles and cells are. -/
theorem renderColumns_succeeds_iff (width : Nat) (columns : List Column) :
    (∃ cs, renderColumns width columns = .ok cs) ↔
      ∀ c ∈ columns, Renders c.title ∧ ∀ s ∈ c.cells, Renders s := by
  have hcolumn : ∀ c : Column,
      (∃ p : Markup.Marked × List Markup.Marked,
        (do return (← Markup.read c.title, ← c.cells.mapM Markup.read)) = Except.ok p ∧
          (∃ t, p.1.styled = .ok t) ∧ ∀ m ∈ p.2, ∃ t, m.styled = .ok t) ↔
        Renders c.title ∧ ∀ s ∈ c.cells, Renders s := by
    intro c
    rw [Markup.renders_iff, ← Markup.exists_read_styled_iff]
    constructor
    · rintro ⟨p, hp, ht, hms⟩
      obtain ⟨m, hm, hrest⟩ := exists_of_bind_eq_ok hp
      obtain ⟨ms, hcells, hpair⟩ := exists_of_bind_eq_ok hrest
      cases hpair
      exact ⟨⟨m, hm, ht⟩, ms, hcells, hms⟩
    · rintro ⟨⟨m, hm, ht⟩, ms, hcells, hms⟩
      exact ⟨(m, ms), by rw [hm, hcells]; rfl, ht, hms⟩
  simp only [← hcolumn, ← exists_mapM_eq_ok_and_iff, renderColumns, exists_bind_eq_ok_iff]
  refine exists_congr fun ps => and_congr_right fun hps => ?_
  rw [exists_mapM_eq_ok_iff]
  set ns := widths (width - (columns.length + 1)) (columns.map Column.share)
  -- there is a width for each column, and no width stops a column
  have hlength : ps.length ≤ ns.length := by
    rw [length_of_mapM_eq_ok hps, length_widths, List.length_map]
  have hfst : (ps.zip ns).map Prod.fst = ps := List.map_fst_zip hlength
  conv_rhs => rw [← hfst, List.forall_mem_map]
  refine forall₂_congr fun q _ => ?_
  obtain ⟨⟨m, ms⟩, n⟩ := q
  simp only [exists_bind_eq_ok_iff, ← exists_mapM_eq_ok_iff]
  constructor
  · rintro ⟨t, ht, ts, hts, -⟩
    exact ⟨⟨t, ht⟩, ts, hts⟩
  · rintro ⟨⟨t, ht⟩, ts, hts⟩
    exact ⟨t, ht, ts, hts, _, rfl⟩

theorem lines_succeeds_iff (width : Nat) (columns : List Column) :
    (∃ ls, lines width columns = .ok ls) ↔
      ∀ c ∈ columns, Renders c.title ∧ ∀ s ∈ c.cells, Renders s := by
  rw [← renderColumns_succeeds_iff width, lines, exists_bind_eq_ok_iff]
  constructor
  · rintro ⟨cs, hcs, -⟩
    exact ⟨cs, hcs⟩
  · rintro ⟨cs, hcs⟩
    exact ⟨cs, hcs, _, rfl⟩

end Table

/-- The heading over a table is there if its title renders. -/
theorem Heading.ofText_succeeds_iff (width : Nat) (title : String) :
    (∃ cs, Heading.ofText width title = .ok cs) ↔ Renders title := by
  rw [Heading.ofText]
  by_cases hempty : title.isEmpty = true
  · rw [if_pos hempty]
    refine iff_of_true ⟨_, rfl⟩ (Markup.renders_of_no_bracket ?_)
    rw [String.isEmpty_iff.mp hempty]
    decide
  · rw [if_neg hempty]
    unfold Renders
    cases Markup.render title with
    | error f => exact iff_of_false nofun nofun
    | ok t => exact iff_of_true ⟨_, rfl⟩ ⟨t, rfl⟩

/-- A screen prints the headings and tables whose texts render, and no others. -/
structure Screen.RendersAsDocumented (s : Screen) : Prop where
  heading : ∀ title, (∃ cs, s.heading title = .ok cs) ↔ Renders title
  table : ∀ columns : List Column, (∃ ls, s.table columns = .ok ls) ↔
    ∀ c ∈ columns, Renders c.title ∧ ∀ t ∈ c.cells, Renders t

theorem Screen.documented_rendersAsDocumented : Screen.documented.RendersAsDocumented :=
  ⟨Heading.ofText_succeeds_iff lineWidth, Table.lines_succeeds_iff lineWidth⟩

/-! ### Reports -/

namespace Report

variable {s : Screen}

/-- The texts of a row that depend on what is annotated render. -/
def Row.Renders (r : Row) : Prop :=
  ∀ s ∈ [r.declaration, r.type, r.value, r.location], Markup.Renders s

theorem renders_label (k : Kind) : Markup.Renders k.label := by
  cases k <;> exact Markup.renders_of_no_bracket (by decide)

/-- The columns of a report have titles without tags. -/
theorem columns_render_iff {rows : List Row} (hkind : ∀ r ∈ rows, Markup.Renders r.kind) :
    (∀ c ∈ columns rows, Markup.Renders c.title ∧ ∀ s ∈ c.cells, Markup.Renders s) ↔
      ∀ r ∈ rows, r.Renders := by
  have htitle : ∀ s ∈ ["declaration", "kind", "type", "value", "location"], Markup.Renders s := by
    intro s hs
    fin_cases hs <;> exact Markup.renders_of_no_bracket (by decide)
  simp only [List.forall_mem_cons] at htitle
  obtain ⟨hdeclaration, hkindTitle, htype, hvalue, hlocation, -⟩ := htitle
  simp only [columns, List.forall_mem_cons, List.forall_mem_map, Row.Renders, hdeclaration,
    hkindTitle, htype, hvalue, hlocation, true_and]
  constructor
  · rintro ⟨hds, -, hts, hvs, hls, -⟩ r hr
    exact ⟨hds r hr, hts r hr, hvs r hr, hls r hr, nofun⟩
  · intro h
    exact ⟨fun r hr => (h r hr).1, hkind, fun r hr => (h r hr).2.1, fun r hr => (h r hr).2.2.1,
      fun r hr => (h r hr).2.2.2.1, nofun⟩

/-- What a table tells of an entry can be written and renders. -/
structure Entry.Tabular (e : Entry) : Prop where
  legible : e.Legible
  module : Markup.Renders e.declaration.module
  rows : ∀ r ∈ e.records, (rowListing e.declaration r).Renders

/-- Texts without brackets make a table. -/
theorem Entry.tabular_of_no_bracket {e : Entry} (hlegible : e.Legible)
    (hmodule : '[' ∉ e.declaration.module.toList) (hname : '[' ∉ e.declaration.qualname.toList)
    (htexts : ∀ t ∈ e.texts.annotations, ∀ s ∈ [t.type, t.value, t.location], '[' ∉ s.toList) :
    e.Tabular := by
  refine ⟨hlegible, Markup.renders_of_no_bracket hmodule, fun r hr => ?_⟩
  have hdeclaration : Markup.Renders
      (if e.declaration.qualname.isEmpty then "<module>" else e.declaration.qualname) := by
    split
    · exact Markup.renders_of_no_bracket (by decide)
    · exact Markup.renders_of_no_bracket hname
  rw [Row.Renders, List.forall_mem_cons]
  exact ⟨hdeclaration, fun s hs =>
    Markup.renders_of_no_bracket (htexts (recordTexts r) (List.mem_map_of_mem hr) s hs)⟩

/-- The values in a table render. -/
theorem Entry.Tabular.renders_value {e : Entry} (h : e.Tabular) :
    ∀ t ∈ e.texts.annotations, Markup.Renders t.value := by
  intro t ht
  obtain ⟨r, hr, rfl⟩ := List.mem_map.mp ht
  exact h.rows r hr _ (by simp [rowListing, recordTexts])

theorem mem_modules_iff {es : List Entry} {module : String} :
    module ∈ modules es ↔ ∃ e ∈ es, e.declaration.module = module := by
  simp [modules, List.mem_eraseDups, List.mem_mergeSort]

theorem moduleLines_succeeds_iff (hscreen : s.RendersAsDocumented) (es : List Entry)
    (module : String) :
    (∃ ls, moduleLines s es module = .ok ls) ↔ Markup.Renders module ∧
      ∀ e ∈ inModule es module,
        e.Legible ∧ ∀ r ∈ e.records, (rowListing e.declaration r).Renders := by
  -- labels of kinds have no brackets, whatever is annotated
  have hkind : ∀ row ∈ rowsListing (inModule es module), Markup.Renders row.kind := by
    simp only [rowsListing, List.mem_flatMap, List.mem_map]
    rintro row ⟨e, -, r, -, rfl⟩
    exact renders_label e.declaration.kind
  have htable :
      (∃ ls, s.table (columns (rowsListing (inModule es module))) = .ok ls) ↔
        ∀ e ∈ inModule es module, ∀ r ∈ e.records, (rowListing e.declaration r).Renders := by
    rw [hscreen.table, columns_render_iff hkind, rowsListing, List.forall_mem_flatMap]
    exact forall₂_congr fun e _ => List.forall_mem_map
  rw [← hscreen.heading]
  simp only [moduleLines, exists_bind_eq_ok_iff, mapError_eq_ok_iff, rowsOf_eq]
  constructor
  · rintro ⟨heading, hheading, rows, hrows, ls, hls, -⟩
    by_cases hlegible : ∀ e ∈ inModule es module, e.Legible
    · rw [if_pos hlegible] at hrows
      cases hrows
      have hrenders := htable.mp ⟨ls, hls⟩
      exact ⟨⟨heading, hheading⟩, fun e he => ⟨hlegible e he, hrenders e he⟩⟩
    · rw [if_neg hlegible] at hrows
      cases hrows
  · rintro ⟨⟨heading, hheading⟩, hall⟩
    obtain ⟨ls, hls⟩ := htable.mpr fun e he => (hall e he).2
    exact ⟨heading, hheading, _, if_pos fun e he => (hall e he).1, ls, hls, _, rfl⟩

/-- **A report is written as tables exactly when each of its entries is tabular.** -/
theorem toTables_succeeds_iff (hscreen : s.RendersAsDocumented) (es : List Entry) :
    (∃ text, toTables s es = .ok text) ↔ ∀ e ∈ es, e.Tabular := by
  have hmodule : ∀ e ∈ es, e ∈ inModule es e.declaration.module := by
    intro e he
    exact List.mem_filter.mpr ⟨he, beq_self_eq_true _⟩
  rw [toTables, exists_bind_eq_ok_iff]
  -- every entry is in some module, and each module is shown with all entries in it
  have hlines : (∃ ls, (modules es).mapM (moduleLines s es) = .ok ls) ↔
      ∀ e ∈ es, e.Tabular := by
    rw [exists_mapM_eq_ok_iff]
    constructor
    · intro h e he
      obtain ⟨hrenders, hall⟩ := (moduleLines_succeeds_iff hscreen es e.declaration.module).mp
        (h _ (mem_modules_iff.mpr ⟨e, he, rfl⟩))
      obtain ⟨hlegible, hrows⟩ := hall e (hmodule e he)
      exact ⟨hlegible, hrenders, hrows⟩
    · intro h module hmem
      obtain ⟨e, he, rfl⟩ := mem_modules_iff.mp hmem
      refine (moduleLines_succeeds_iff hscreen es _).mpr ⟨(h e he).module, fun e' he' => ?_⟩
      have htabular := h e' (List.mem_of_mem_filter he')
      exact ⟨htabular.legible, htabular.rows⟩
  rw [← hlines]
  constructor
  · rintro ⟨ls, hls, -⟩
    exact ⟨ls, hls⟩
  · rintro ⟨ls, hls⟩
    exact ⟨ls, hls, _, rfl⟩

end Report

end Marginalia
