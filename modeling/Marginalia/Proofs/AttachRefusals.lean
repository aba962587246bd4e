/-
What attaching an annotation is refused for, and what it changes.

A value is attached from outside by annotating, which asks four questions in turn, or recorded by
whoever has asked the first two already.  The first question that is answered wrongly decides the
refusal; a refusal changes no compilation of the session, and a success adds one record.

* `Session.isLive_iff_issued` — the identities that are live in a compilation are those that its
  declarations have answered;
* `Compilation.Attaches` — one record more, behind those of its owner, and nothing else;
* `Session.attached_or_refused` — the refusals of annotating and recording by their conditions, and
  what becomes of the session.
-/
import Marginalia.Proofs.AppendOnly
import Marginalia.Proofs.SiteElaboration
import Marginalia.Proofs.StructuralValue

namespace Marginalia

/-! ### Identities that were issued -/

namespace Compilation

variable {c : Compilation} {i : Identity}

/-- Only a declaration adds to the entries of a table. -/
theorem declares_or_perform_entries (op : Operation) :
    (∃ kind module qualname site, op = .declare kind module qualname site) ∨
      (c.perform op).1.table.entries = c.table.entries := by
  obtain hsame | ⟨kind, module, qualname, site, rfl, -⟩ | ⟨module, name, tm, tn, halias⟩ :=
    perform_table (c := c) op
  · exact .inr (by rw [hsame])
  · exact .inl ⟨kind, module, qualname, site, rfl⟩
  · exact .inr (by rw [halias]; rfl)

/-- The identities that are live after an operation: those before, and what it has declared. -/
theorem isLive_perform_iff (hnumbered : c.table.Numbered) (op : Operation) :
    (c.perform op).1.table.isLive i = true ↔ c.table.isLive i = true ∨
      ∃ kind module qualname site, op = .declare kind module qualname site ∧
        (c.declare kind module qualname site).2 = i := by
  constructor
  · intro hlive
    obtain ⟨htoken, hlow, hhigh⟩ := Table.isLive_iff.mp hlive
    rw [(perform_grows op).1] at htoken
    by_cases hold : i.index < c.table.entries.length
    · exact .inl (Table.isLive_iff.mpr ⟨htoken, hlow, hold⟩)
    · obtain ⟨kind, module, qualname, site, rfl⟩ | hentries :=
        declares_or_perform_entries (c := c) op
      · obtain ⟨-, -, -, hentries⟩ | ⟨hid, hentries⟩ :=
          c.table.declare_cases kind module qualname site
        · refine absurd (hhigh.trans_eq ?_) hold
          rw [perform, declare, hentries, List.length_map]
        · -- the place behind the old entries is that of the new one
          refine .inr ⟨kind, module, qualname, site, rfl, hid.trans ?_⟩
          rw [perform, declare, hentries, List.length_append, List.length_singleton] at hhigh
          have hlast : i.index = c.table.entries.length := by omega
          rw [← htoken, ← hlast]
      · rw [hentries] at hhigh
        exact absurd hhigh hold
  · rintro (hlive | ⟨kind, module, qualname, site, rfl, rfl⟩)
    · exact (perform_grows op).isLive hlive
    · exact Table.declare_isLive hnumbered kind module qualname site

end Compilation

namespace Session

/-- In the course of some actions, a declaration in the compilation at a place answered an
identity. -/
def Issued (actions : List Action) (place : Nat) (i : Identity) : Prop :=
  ∃ before later kind module qualname site c,
    actions = before ++ .on place (.declare kind module qualname site) :: later ∧
      (run before).compilations[place]? = some c ∧ (c.declare kind module qualname site).2 = i

/-- What was issued in the course of actions was issued before the last one or by it. -/
theorem issued_concat (actions : List Action) (a : Action) (place : Nat) (i : Identity) :
    Issued (actions ++ [a]) place i ↔ Issued actions place i ∨
      ∃ kind module qualname site c, a = .on place (.declare kind module qualname site) ∧
        (run actions).compilations[place]? = some c ∧
          (c.declare kind module qualname site).2 = i := by
  constructor
  · rintro ⟨before, later, kind, module, qualname, site, c, hactions, hc, hi⟩
    obtain rfl | ⟨later, b, rfl⟩ := List.eq_nil_or_concat later
    · obtain ⟨rfl, ha⟩ := List.append_inj' hactions rfl
      cases ha
      exact .inr ⟨kind, module, qualname, site, c, rfl, hc, hi⟩
    · rw [List.concat_eq_append, ← List.cons_append, ← List.append_assoc] at hactions
      obtain ⟨rfl, -⟩ := List.append_inj' hactions rfl
      exact .inl ⟨before, later, kind, module, qualname, site, c, rfl, hc, hi⟩
  · rintro (⟨before, later, kind, module, qualname, site, c, rfl, hc, hi⟩ |
      ⟨kind, module, qualname, site, c, rfl, hc, hi⟩)
    · exact ⟨before, later ++ [a], kind, module, qualname, site, c,
        by rw [List.append_assoc, List.cons_append], hc, hi⟩
    · exact ⟨actions, [], kind, module, qualname, site, c, rfl, hc, hi⟩

theorem run_concat (actions : List Action) (a : Action) :
    run (actions ++ [a]) = (run actions).act a := by
  rw [run_append]
  rfl

/-- No declaration has answered anything in a compilation that is not there. -/
theorem not_issued_of_length_le {actions : List Action} {place : Nat}
    (h : (run actions).compilations.length ≤ place) (i : Identity) : ¬ Issued actions place i := by
  rintro ⟨before, later, kind, module, qualname, site, c, rfl, hc, -⟩
  obtain ⟨c', hc', -⟩ := extends_after (run before)
    (.on place (.declare kind module qualname site) :: later) place c hc
  rw [← run_append] at hc'
  exact absurd ((List.getElem?_eq_some_iff.mp hc').choose) (Nat.not_lt.mpr h)

/-- An identity is live in a compilation exactly if a declaration there has answered it. -/
theorem isLive_iff_issued (actions : List Action) {place : Nat} {c : Compilation}
    (hc : (run actions).compilations[place]? = some c) (i : Identity) :
    c.table.isLive i = true ↔ Issued actions place i := by
  induction actions using List.reverseRecOn generalizing c with
  | nil => simp [run, after] at hc
  | append_singleton actions a ih =>
    rw [issued_concat]
    rw [run_concat] at hc
    cases a with
    | start annotatable =>
      rw [act, List.getElem?_append] at hc
      split at hc
      · rw [ih hc]
        simp
      · rename_i hplace
        rw [List.getElem?_singleton] at hc
        split at hc
        · cases hc
          have hnone := not_issued_of_length_le (Nat.not_lt.mp hplace) i
          have hdead : (Compilation.empty ((run actions).compilations.length + 1)
              annotatable).table.isLive i ≠ true := by
            rw [Ne, Table.isLive_iff]
            simp only [Compilation.empty, List.length_nil]
            omega
          simp [hnone, hdead]
        · cases hc
    | on other op =>
      rw [act, List.getElem?_modify] at hc
      obtain ⟨c₀, hc₀, rfl⟩ := Option.map_eq_some_iff.mp hc
      have hconsistent := (consistent_run actions place c₀ hc₀).1
      split
      · rename_i hplace
        obtain rfl := hplace
        rw [Compilation.isLive_perform_iff hconsistent.numbered, ih hc₀]
        simp [hc₀]
      · rename_i hplace
        rw [ih hc₀]
        simp [hplace]

end Session

/-! ### What attaching answers -/

namespace Compilation

variable {c : Compilation}

/-- An operation is refused with an error of some class. -/
def Refuses (c : Compilation) (op : Operation) (kind : String) : Prop :=
  ∃ e, (c.perform op).2 = .error e ∧ e.kind = kind

/-- An operation is not refused. -/
def CarriesOut (c : Compilation) (op : Operation) : Prop := ∃ a, (c.perform op).2 = .ok a

theorem refuses_of_error {op : Operation} {e : AnnotationError} (h : (c.perform op).2 = .error e)
    (kind : String) : c.Refuses op kind ↔ e.cause.kind = kind := by
  rw [Refuses, h]
  constructor
  · rintro ⟨e', h, hkind⟩
    cases h
    exact hkind
  · exact fun hkind => ⟨e, rfl, hkind⟩

theorem not_carriesOut_of_error {op : Operation} {e : AnnotationError}
    (h : (c.perform op).2 = .error e) : ¬ c.CarriesOut op := by
  rintro ⟨a, ha⟩
  rw [h] at ha
  cases ha

theorem not_refuses_of_ok {op : Operation} {a : Answer} (h : (c.perform op).2 = .ok a)
    (kind : String) : ¬ c.Refuses op kind := by
  rintro ⟨e, he, -⟩
  rw [h] at he
  cases he

variable (i : Identity) (type : TypeTerm) (value : Value) (location : Location)
  (given : Option TypeTerm)

/-- What recording answers, by the conditions on the identity and the class. -/
theorem record_answer :
    (c.perform (.record i type value location)).2 =
      if c.table.isLive i then
        if value.typeOf.equals type.runtimeClass then
          .ok (.record (c.store.next i type value location))
        else .error ⟨.typeMismatch value.typeOf type, some location⟩
      else .error ⟨.notLive i, none⟩ := by
  simp only [perform, record_eq]
  split_ifs <;> rfl

/-- What annotating answers: the guard and the value are looked at before the rest. -/
theorem annotate_answer :
    (c.perform (.annotate i value location given)).2 =
      if c.store.isEvaluating then .error ⟨.reentrant, some location⟩
      else
        match value.obstacle? with
        | some o => .error ⟨.notStructural o, some location⟩
        | none => (c.perform (.record i (given.getD value.typeOf) value location)).2 := by
  simp only [perform, annotate_eq]
  split_ifs
  · rfl
  · cases value.obstacle? <;> rfl

/-- Recording asks for the identity first, then for the class. -/
theorem record_refusals :
    (c.Refuses (.record i type value location) "UnknownDeclarationError" ↔
      c.table.isLive i = false) ∧
    (c.Refuses (.record i type value location) "AnnotationTypeMismatchError" ↔
      c.table.isLive i = true ∧ value.typeOf.equals type.runtimeClass = false) ∧
    (c.CarriesOut (.record i type value location) ↔
      c.table.isLive i = true ∧ value.typeOf.equals type.runtimeClass = true) ∧
    ∀ kind, c.Refuses (.record i type value location) kind →
      kind = "UnknownDeclarationError" ∨ kind = "AnnotationTypeMismatchError" := by
  have hanswer := c.record_answer i type value location
  cases hlive : c.table.isLive i with
  | false =>
    rw [hlive, if_neg Bool.false_ne_true] at hanswer
    simp [refuses_of_error hanswer, not_carriesOut_of_error hanswer, Cause.kind]
  | true =>
    rw [hlive, if_pos rfl] at hanswer
    cases hclass : value.typeOf.equals type.runtimeClass with
    | false =>
      rw [hclass, if_neg Bool.false_ne_true] at hanswer
      simp [refuses_of_error hanswer, not_carriesOut_of_error hanswer, Cause.kind]
    | true =>
      rw [hclass, if_pos rfl] at hanswer
      simp [not_refuses_of_ok hanswer, CarriesOut, hanswer]

/-- Annotating asks for the guard and for the value before it records; the class a value has of
itself is never refused. -/
theorem annotate_refusals :
    (c.Refuses (.annotate i value location given) "ReentrantAnnotationError" ↔
      0 < c.store.depth) ∧
    (c.Refuses (.annotate i value location given) "NonStructuralAnnotationError" ↔
      c.store.depth = 0 ∧ value.isStructural = false) ∧
    (c.Refuses (.annotate i value location given) "UnknownDeclarationError" ↔
      c.store.depth = 0 ∧ value.isStructural = true ∧ c.table.isLive i = false) ∧
    (c.Refuses (.annotate i value location given) "AnnotationTypeMismatchError" ↔
      c.store.depth = 0 ∧ value.isStructural = true ∧ c.table.isLive i = true ∧
        ∃ t, given = some t ∧ value.typeOf.equals t.runtimeClass = false) ∧
    (c.CarriesOut (.annotate i value location given) ↔
      c.store.depth = 0 ∧ value.isStructural = true ∧ c.table.isLive i = true ∧
        ∀ t, given = some t → value.typeOf.equals t.runtimeClass = true) := by
  have hanswer := c.annotate_answer i value location given
  rcases Nat.eq_zero_or_pos c.store.depth with hdepth | hdepth
  · have hfree : c.store.isEvaluating = false := by simp [Store.isEvaluating, hdepth]
    rw [hfree, if_neg Bool.false_ne_true] at hanswer
    cases hobstacle : value.obstacle? with
    | some o =>
      rw [hobstacle] at hanswer
      simp [refuses_of_error hanswer, not_carriesOut_of_error hanswer, Cause.kind, hdepth,
        Value.isStructural, hobstacle]
    | none =>
      -- all that is left is recording, under the class of the value unless a type is given
      rw [hobstacle] at hanswer
      obtain ⟨hunknown, hmismatch, hcarried, hkinds⟩ :=
        c.record_refusals i (given.getD value.typeOf) value location
      have hrefuses : c.Refuses (.annotate i value location given) =
          c.Refuses (.record i (given.getD value.typeOf) value location) := by
        unfold Refuses
        rw [hanswer]
      have hcarries : c.CarriesOut (.annotate i value location given) ↔
          c.CarriesOut (.record i (given.getD value.typeOf) value location) := by
        rw [CarriesOut, CarriesOut, hanswer]
      have hclass : value.typeOf.equals (given.getD value.typeOf).runtimeClass = true ↔
          ∀ t, given = some t → value.typeOf.equals t.runtimeClass = true := by
        cases given with
        | none => simp [Value.typeOf_equals_runtimeClass]
        | some t => simp
      have hother : value.typeOf.equals (given.getD value.typeOf).runtimeClass = false ↔
          ∃ t, given = some t ∧ value.typeOf.equals t.runtimeClass = false := by
        rw [← Bool.not_eq_true, hclass]
        simp
      have hstructural : value.isStructural = true := Value.isStructural_iff.mpr hobstacle
      rw [hrefuses, hcarries, hunknown, hmismatch, hcarried, hclass, hother]
      refine ⟨⟨fun h => ?_, fun h => ?_⟩, ⟨fun h => ?_, fun h => ?_⟩, ?_, ?_, ?_⟩
      · simpa using hkinds _ h
      · exact absurd hdepth h.ne'
      · simpa using hkinds _ h
      · rw [hstructural] at h
        cases h.2
      all_goals simp [hdepth, hstructural]
  · have hguarded : c.store.isEvaluating = true := by simp [Store.isEvaluating, hdepth]
    rw [hguarded, if_pos rfl] at hanswer
    simp [refuses_of_error hanswer, not_carriesOut_of_error hanswer, Cause.kind, hdepth,
      hdepth.ne']

/-- A later state with one record more, which is the last one of its owner; everything else is as
it was. -/
structure Attaches (c : Compilation) (r : Record) (c' : Compilation) : Prop where
  ordinal : r.ordinal = (c.store.recordsOf r.owner).length
  own : c'.store.recordsOf r.owner = c.store.recordsOf r.owner ++ [r]
  others : ∀ j, j ≠ r.owner → c'.store.recordsOf j = c.store.recordsOf j
  rest : { c' with store := { c'.store with log := c.store.log } } = c

theorem attaches_recorded :
    c.Attaches (c.store.next i type value location) (c.recorded i type value location) where
  ordinal := rfl
  own := (c.store.recordsOf_append i i type value location).trans (by rw [if_pos rfl]; rfl)
  others j hj := (c.store.recordsOf_append i j type value location).trans (by
    rw [if_neg (Ne.symm hj : i ≠ j), List.append_nil])
  rest := rfl

/-- Recording is refused and changes nothing, or attaches the record that it answers. -/
theorem record_attaches :
    ((∃ e, (c.perform (.record i type value location)).2 = .error e) ∧
      (c.perform (.record i type value location)).1 = c) ∨
    ∃ r, (c.perform (.record i type value location)).2 = .ok (.record r) ∧
      r = c.store.next i type value location ∧
      c.Attaches r (c.perform (.record i type value location)).1 := by
  simp only [perform, record_eq]
  split_ifs
  · exact .inr ⟨_, rfl, rfl, c.attaches_recorded i type value location⟩
  · exact .inl ⟨⟨_, rfl⟩, rfl⟩
  · exact .inl ⟨⟨_, rfl⟩, rfl⟩

/-- So does annotating, with a record under the given type or the value's own class. -/
theorem annotate_attaches :
    ((∃ e, (c.perform (.annotate i value location given)).2 = .error e) ∧
      (c.perform (.annotate i value location given)).1 = c) ∨
    ∃ r, (c.perform (.annotate i value location given)).2 = .ok (.record r) ∧
      r = c.store.next i (given.getD value.typeOf) value location ∧
      c.Attaches r (c.perform (.annotate i value location given)).1 := by
  have hrecord := c.record_attaches i (given.getD value.typeOf) value location
  simp only [perform, annotate_eq] at hrecord ⊢
  split_ifs
  · exact .inl ⟨⟨_, rfl⟩, rfl⟩
  · cases value.obstacle? with
    | some o => exact .inl ⟨⟨_, rfl⟩, rfl⟩
    | none => exact hrecord

end Compilation

namespace Session

/-- What attaching a value under a type does to a session and answers: it is refused and changes
nothing, or adds a record to the records of the identity in one compilation and changes nothing
else. -/
def AttachesOrRefuses (s : Session) (place : Nat) (c : Compilation) (op : Operation)
    (i : Identity) (type : TypeTerm) (value : Value) (location : Location) : Prop :=
  ((∃ e, (c.perform op).2 = .error e) ∧ s.act (.on place op) = s) ∨
  ∃ r c', (c.perform op).2 = .ok (.record r) ∧
    r = c.store.next i type value location ∧ c.Attaches r c' ∧
    s.act (.on place op) = ⟨s.compilations.set place c'⟩

theorem attachesOrRefuses_of {s : Session} {place : Nat} {c : Compilation} {op : Operation}
    {i : Identity} {type : TypeTerm} {value : Value} {location : Location}
    (hc : s.compilations[place]? = some c)
    (h : ((∃ e, (c.perform op).2 = .error e) ∧ (c.perform op).1 = c) ∨
      ∃ r, (c.perform op).2 = .ok (.record r) ∧ r = c.store.next i type value location ∧
        c.Attaches r (c.perform op).1) :
    s.AttachesOrRefuses place c op i type value location := by
  have hact : s.act (.on place op) = ⟨s.compilations.set place (c.perform op).1⟩ := by
    rw [act, List.modify_eq_set_getElem?, hc]
    rfl
  obtain ⟨hrefused, hsame⟩ | ⟨r, hanswer, hr, hattaches⟩ := h
  · refine .inl ⟨hrefused, ?_⟩
    obtain ⟨hplace, rfl⟩ := List.getElem?_eq_some_iff.mp hc
    rw [hact, hsame, List.set_getElem_self]
  · exact .inr ⟨r, _, hanswer, hr, hattaches, hact⟩

/-- **Attached or refused.**  In any session, annotating is refused while an evaluation goes on,
else for a value that is not structural, else for an identity that is not live, else for a given
type that names another class; recording is refused for the last two only.  Structural values are
the constants, and live identities those that were issued in the compilation.  What is refused
changes nothing in any compilation, and what is not adds one record, at the end of those of the
identity, and nothing else. -/
theorem attached_or_refused {s : Session} {place : Nat} {c : Compilation}
    (hc : s.compilations[place]? = some c) (i : Identity) (value : Value) (location : Location)
    (given : Option TypeTerm) (type : TypeTerm) :
    ((c.Refuses (.annotate i value location given) "ReentrantAnnotationError" ↔
        0 < c.store.depth) ∧
      (c.Refuses (.annotate i value location given) "NonStructuralAnnotationError" ↔
        c.store.depth = 0 ∧ value.isStructural = false) ∧
      (c.Refuses (.annotate i value location given) "UnknownDeclarationError" ↔
        c.store.depth = 0 ∧ value.isStructural = true ∧ c.table.isLive i = false) ∧
      (c.Refuses (.annotate i value location given) "AnnotationTypeMismatchError" ↔
        c.store.depth = 0 ∧ value.isStructural = true ∧ c.table.isLive i = true ∧
          ∃ t, given = some t ∧ value.typeOf.equals t.runtimeClass = false) ∧
      (c.CarriesOut (.annotate i value location given) ↔
        c.store.depth = 0 ∧ value.isStructural = true ∧ c.table.isLive i = true ∧
          ∀ t, given = some t → value.typeOf.equals t.runtimeClass = true)) ∧
    ((c.Refuses (.record i type value location) "UnknownDeclarationError" ↔
        c.table.isLive i = false) ∧
      (c.Refuses (.record i type value location) "AnnotationTypeMismatchError" ↔
        c.table.isLive i = true ∧ value.typeOf.equals type.runtimeClass = false) ∧
      (c.CarriesOut (.record i type value location) ↔
        c.table.isLive i = true ∧ value.typeOf.equals type.runtimeClass = true) ∧
      ∀ kind, c.Refuses (.record i type value location) kind →
        kind = "UnknownDeclarationError" ∨ kind = "AnnotationTypeMismatchError") ∧
    (value.WellFormed → (value.isStructural = true ↔ value.IsConstant)) ∧
    (∀ actions, s = run actions → (c.table.isLive i = true ↔ Issued actions place i)) ∧
    s.AttachesOrRefuses place c (.annotate i value location given) i (given.getD value.typeOf)
      value location ∧
    s.AttachesOrRefuses place c (.record i type value location) i type value location := by
  refine ⟨c.annotate_refusals i value location given, c.record_refusals i type value location,
    ?_, ?_, ?_, ?_⟩
  · intro hvalue
    rw [Value.isConstant_iff, and_iff_left hvalue]
  · rintro actions rfl
    exact isLive_iff_issued actions hc i
  · exact attachesOrRefuses_of hc (c.annotate_attaches i value location given)
  · exact attachesOrRefuses_of hc (c.record_attaches i type value location)

/-- A distinct name for an alias of a class. -/
def userType : TypeTerm := .distinct "UserId" (.aliased "Port" (.builtin .int))

/-- Four refusals of annotating, by the first question that is answered wrongly: an identity of the
other table during an evaluation, a list for it, the identity alone, and a type of another class;
under a distinct name for its class a number is attached. -/
theorem attached_or_refused_inTurn :
    (∃ c, (run (sampleOpening ++ [.on 0 .enter])).compilations[0]? = some c ∧
      c.Refuses (.annotate ⟨2, 0⟩ (.list 1 []) ⟨"m.py", 2, 0⟩ none) "ReentrantAnnotationError") ∧
    ∃ c, (run sampleOpening).compilations[0]? = some c ∧
      c.Refuses (.annotate ⟨2, 0⟩ (.tuple [.list 1 []]) ⟨"m.py", 2, 0⟩ none)
        "NonStructuralAnnotationError" ∧
      c.Refuses (.annotate ⟨2, 0⟩ (.int 8) ⟨"m.py", 2, 0⟩ (some (.builtin .str)))
        "UnknownDeclarationError" ∧
      c.Refuses (.annotate ⟨1, 0⟩ (.bool true) ⟨"m.py", 2, 0⟩ (some userType))
        "AnnotationTypeMismatchError" ∧
      c.CarriesOut (.annotate ⟨1, 0⟩ (.int 8) ⟨"m.py", 2, 0⟩ (some userType)) := by
  have hguarded : (run (sampleOpening ++ [.on 0 .enter])).compilations[0]? = some _ := rfl
  have hopen : (run sampleOpening).compilations[0]? = some _ := rfl
  refine ⟨⟨_, hguarded, ?_⟩, _, hopen, ?_, ?_, ?_, ?_⟩
  · exact (attached_or_refused hguarded ⟨2, 0⟩ (.list 1 []) ⟨"m.py", 2, 0⟩ none
      userType).1.1.mpr (by decide)
  · exact (attached_or_refused hopen ⟨2, 0⟩ (.tuple [.list 1 []]) ⟨"m.py", 2, 0⟩ none
      userType).1.2.1.mpr ⟨by decide, by decide⟩
  · exact (attached_or_refused hopen ⟨2, 0⟩ (.int 8) ⟨"m.py", 2, 0⟩ (some (.builtin .str))
      userType).1.2.2.1.mpr ⟨by decide, by decide, by decide⟩
  · exact (attached_or_refused hopen ⟨1, 0⟩ (.bool true) ⟨"m.py", 2, 0⟩ (some userType)
      userType).1.2.2.2.1.mpr ⟨by decide, by decide, by decide, userType, rfl, by decide⟩
  · exact (attached_or_refused hopen ⟨1, 0⟩ (.int 8) ⟨"m.py", 2, 0⟩ (some userType)
      userType).1.2.2.2.2.mpr ⟨by decide, by decide, by decide, by rintro t ⟨⟩; decide⟩

end Session

end Marginalia
