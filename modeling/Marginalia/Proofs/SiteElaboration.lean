/-
The annotations of one declaration are recorded all or not at all.

A declaration site that is met for the first time is declared; its groups are placed, the
items in them evaluated and checked, and only then are the values recorded.

* `recordEach` — values are recorded one after the other, up to the first that is refused;
  under its own class no value is (`recordEach_eq`), so nothing is left half recorded;
* `Spellings.annotations_groups` — the annotations of groups, in the order of the arguments
  of the calls they are written as;
* `Refuses` — the error of the first check of a site that fails: a placement, the evaluation of
  an item or its value;
* `Elaboration.declare_all_or_nothing` — without such an error one record is appended for each
  item; with it none is, and it is reported.
-/
import Marginalia.Proofs.AnnotationValues
import Marginalia.Proofs.ElaborationSteps
import Marginalia.Proofs.Recording

namespace Marginalia

/-! ### Recording values under their own classes -/

theorem Value.typeOf_equals_runtimeClass (v : Value) :
    v.typeOf.equals v.typeOf.runtimeClass = true := by
  unfold typeOf
  split <;> try simp [TypeTerm.runtimeClass, TypeTerm.equals, EnumClass.isSame]
  split <;> simp [TypeTerm.runtimeClass, TypeTerm.equals]

/-- Records values one after the other, each under its own class, up to one that is refused. -/
def recordEach (i : Identity) :
    List (Location × Value) → Compilation → Except AnnotationError Compilation
  | [], c => .ok c
  | (l, v) :: rest, c =>
    match c.record i v.typeOf v l with
    | .ok (c', _) => recordEach i rest c'
    | .error e => .error e

/-- The records that values are put down in, when an identity has had some before. -/
def recordsFor (i : Identity) (before : Nat) (lvs : List (Location × Value)) : List Record :=
  lvs.mapIdx fun k lv => ⟨i, lv.2.typeOf, lv.2, lv.1, before + k⟩

theorem recordsFor_cons (i : Identity) (n : Nat) (l : Location) (v : Value)
    (lvs : List (Location × Value)) :
    recordsFor i n ((l, v) :: lvs) = ⟨i, v.typeOf, v, l, n⟩ :: recordsFor i (n + 1) lvs := by
  unfold recordsFor
  rw [List.mapIdx_cons]
  congr 2
  funext k lv
  rw [Nat.add_right_comm, Nat.add_assoc]

theorem owner_of_mem_recordsFor {i : Identity} {n : Nat} {lvs : List (Location × Value)}
    {r : Record} (h : r ∈ recordsFor i n lvs) : r.owner = i := by
  obtain ⟨k, hk, rfl⟩ := List.mem_mapIdx.mp h
  rfl

namespace Compilation

variable {c : Compilation} {i : Identity} {lvs : List (Location × Value)}

theorem record_own_class (hlive : c.table.isLive i = true) (v : Value) (l : Location) :
    c.record i v.typeOf v l =
      .ok (c.recorded i v.typeOf v l, c.store.next i v.typeOf v l) := by
  rw [record_eq, if_pos hlive, if_pos v.typeOf_equals_runtimeClass]

/-- No value is refused, and the records of the identity go on where they were. -/
theorem recordEach_eq (hlive : c.table.isLive i = true) :
    recordEach i lvs c = .ok (Elaboration.recordAll i lvs c) ∧
      (Elaboration.recordAll i lvs c).store.log =
        c.store.log ++ recordsFor i (c.store.recordsOf i).length lvs := by
  -- the state goes along, since the next ordinal counts the records before it
  induction lvs generalizing c with
  | nil => exact ⟨rfl, by simp [Elaboration.recordAll, recordsFor]⟩
  | cons lv lvs ih =>
    obtain ⟨l, v⟩ := lv
    have hlength : ((c.recorded i v.typeOf v l).store.recordsOf i).length =
        (c.store.recordsOf i).length + 1 := by
      rw [recorded, Store.recordsOf_append, if_pos rfl, List.length_append]
      rfl
    obtain ⟨heach, hlog⟩ := @ih (c.recorded i v.typeOf v l) hlive
    rw [recordEach, Elaboration.recordAll, record_own_class hlive]
    refine ⟨heach, ?_⟩
    rw [hlog, hlength, recordsFor_cons, recorded, Store.append_log, List.append_assoc]
    rfl

/-- Only the store changes when values are recorded. -/
theorem recordAll_eq (i : Identity) (lvs : List (Location × Value)) (c : Compilation) :
    Elaboration.recordAll i lvs c = { c with store := (Elaboration.recordAll i lvs c).store } := by
  induction lvs generalizing c with
  | nil => rfl
  | cons lv lvs ih =>
    rw [Elaboration.recordAll]
    split
    · rename_i c' r h
      obtain ⟨-, -, rfl, -⟩ := (c.record_eq_ok_iff _ _ _ _).mp h
      exact ih _
    · exact ih c

theorem recordAll_table (i : Identity) (lvs : List (Location × Value)) (c : Compilation) :
    (Elaboration.recordAll i lvs c).table = c.table := by
  rw [recordAll_eq]

theorem recordAll_annotatable (i : Identity) (lvs : List (Location × Value)) (c : Compilation) :
    (Elaboration.recordAll i lvs c).annotatable = c.annotatable := by
  rw [recordAll_eq]

theorem recordAll_created (i : Identity) (lvs : List (Location × Value)) (c : Compilation) :
    (Elaboration.recordAll i lvs c).created = c.created := by
  rw [recordAll_eq]

theorem recordAll_changed (i : Identity) (lvs : List (Location × Value)) (c : Compilation) :
    (Elaboration.recordAll i lvs c).changed = c.changed := by
  rw [recordAll_eq]

theorem recordAll_elaborated (i : Identity) (lvs : List (Location × Value)) (c : Compilation) :
    (Elaboration.recordAll i lvs c).store.elaborated = c.store.elaborated := by
  induction lvs generalizing c with
  | nil => rfl
  | cons lv lvs ih =>
    rw [Elaboration.recordAll]
    split
    · rename_i c' r h
      obtain ⟨-, -, rfl, -⟩ := (c.record_eq_ok_iff _ _ _ _).mp h
      exact ih _
    · exact ih c

theorem recordsOf_recordAll (hlive : c.table.isLive i = true) (j : Identity) :
    (Elaboration.recordAll i lvs c).store.recordsOf j = c.store.recordsOf j ++
      if j = i then recordsFor i (c.store.recordsOf i).length lvs else [] := by
  unfold Store.recordsOf
  rw [(recordEach_eq hlive).2, List.filter_append]
  congr 1
  by_cases hj : j = i
  · rw [if_pos hj, hj]
    exact List.filter_eq_self.mpr fun r hr => by simp [owner_of_mem_recordsFor hr]
  · rw [if_neg hj]
    refine List.filter_eq_nil_iff.mpr fun r hr => ?_
    simpa [owner_of_mem_recordsFor hr] using Ne.symm hj

end Compilation

/-! ### The items in the order they are written -/

/-- A sequence that has a result has one of its first part. -/
theorem exists_of_bind_eq_ok {ε α β : Type} {x : Except ε α} {f : α → Except ε β} {b : β}
    (h : x >>= f = .ok b) : ∃ a, x = .ok a ∧ f a = .ok b := by
  cases x with
  | error e => cases h
  | ok a => exact ⟨a, rfl, h⟩

namespace Spellings

variable (s : Spellings) (file : String)

/-- The annotations written in a call of the marker: its arguments in their order, without the
plain attributes, each at its own place. -/
def annotationsWritten : Expr → List (AnnotationItem Expr)
  | .call _ f es _ =>
    if f.lastName? == some s.marker then
      (es.filter fun e => !e.isCallTo s.plainItem).map fun e => ⟨e.location file, e⟩
    else []
  | _ => []

theorem carried_of_item {e : Expr} {a : Item Expr} (h : s.item file e = .ok a) :
    a.carried? = if e.isCallTo s.plainItem then none else some ⟨e.location file, e⟩ := by
  unfold item at h
  split at h
  · rename_i hplain
    obtain ⟨name, -, h⟩ := exists_of_bind_eq_ok h
    cases h
    rw [if_pos hplain]
    rfl
  · rename_i hplain
    cases h
    rw [if_neg hplain]
    rfl

theorem carried_of_items {es : List Expr} {items : List (Item Expr)}
    (h : es.mapM (s.item file) = .ok items) :
    items.filterMap Item.carried? =
      (es.filter fun e => !e.isCallTo s.plainItem).map fun e => ⟨e.location file, e⟩ := by
  induction es generalizing items with
  | nil =>
    cases h
    rfl
  | cons e es ih =>
    rw [List.mapM_cons] at h
    obtain ⟨a, ha, h⟩ := exists_of_bind_eq_ok h
    obtain ⟨rest, hrest, h⟩ := exists_of_bind_eq_ok h
    cases h
    rw [List.filterMap_cons, s.carried_of_item file ha, ih hrest]
    cases hplain : e.isCallTo s.plainItem <;> simp [hplain]

theorem annotations_of_group? {e : Expr} {g : Option (Group Expr)}
    (h : s.group? file e = .ok g) :
    g.toList.flatMap Group.annotations = s.annotationsWritten file e := by
  cases e with
  | call p f es ks =>
    rw [group?] at h
    rw [annotationsWritten]
    split at h
    · rename_i hmarker
      obtain ⟨items, hitems, h⟩ := exists_of_bind_eq_ok h
      obtain ⟨vendor, -, h⟩ := exists_of_bind_eq_ok h
      cases h
      rw [if_pos hmarker, ← s.carried_of_items file hitems]
      simp [Group.annotations]
    · rename_i hmarker
      cases h
      rw [if_neg hmarker]
      rfl
  | _ =>
    cases h
    rfl

/-- The annotations of the groups that expressions make, in the order they are written. -/
theorem annotations_of_groups {es : List Expr} {gs : List (Group Expr)}
    (h : s.groups file es = .ok gs) :
    gs.flatMap Group.annotations = es.flatMap (s.annotationsWritten file) := by
  unfold groups at h
  obtain ⟨found, hfound, hgs⟩ := exists_of_bind_eq_ok h
  cases hgs
  -- groups are made one by one, and what makes none has no annotations
  clear h
  induction es generalizing found with
  | nil =>
    cases hfound
    rfl
  | cons e es ih =>
    rw [List.mapM_cons] at hfound
    obtain ⟨g, hg, hfound⟩ := exists_of_bind_eq_ok hfound
    obtain ⟨rest, hrest, hfound⟩ := exists_of_bind_eq_ok hfound
    cases hfound
    rw [List.flatMap_cons, ← s.annotations_of_group? file hg, ← ih rest hrest]
    cases g <;> simp

end Spellings

/-! ### What a site comes to -/

/-- The first check of a site that fails: a group stands where it cannot, or an item has no
value that can be stored. -/
inductive Refuses (m : ModuleSetting) (kind : Kind) (groups : Elaboration.Groups) (scope : Scope)
    (c : Compilation) (e : AnnotationError) : Prop
  | placement (error : groups.validate kind c = .error e)
  | item {items : List (AnnotationItem Expr)} {c' : Compilation}
      (accepted : groups.validate kind c = .ok items) (error : Fails m scope items c e c')

namespace Elaboration

variable {m : ModuleSetting} {kind : Kind} {qualname : String} {site : Location}
  {groups : Groups} {s : Findings} {c c' : Compilation} {i : Identity}
  {items : List (AnnotationItem Expr)} {vs : List Value} {e : AnnotationError}

theorem validate_ok {p : Placement Expr} {kinds : List Kind} (h : p.validate kinds = .ok items) :
    items = p.annotations := by
  unfold Placement.validate at h
  split at h
  · cases h
  · split at h
    · rename_i hnone
      cases h
      exact hnone.symm
    · rename_i a rest hsome
      split at h
      · cases h
      · cases h
        exact hsome.symm

theorem annotations_of_validate (h : groups.validate kind c = .ok items) :
    items = groups.own.flatMap Group.annotations := by
  unfold Groups.validate at h
  obtain ⟨-, -, h⟩ := exists_of_bind_eq_ok h
  obtain ⟨-, -, h⟩ := exists_of_bind_eq_ok h
  exact validate_ok h

/-- When every item has a value that can be stored, no check fails. -/
theorem not_refuses {scope : Scope} (hvalid : groups.validate kind c = .ok items)
    (hyields : Yields m scope items c vs c') (e : AnnotationError) :
    ¬ Refuses m kind groups scope c e := by
  intro hrefuses
  cases hrefuses with
  | placement error =>
    rw [hvalid] at error
    cases error
  | item accepted error =>
    rw [hvalid] at accepted
    cases accepted
    exact hyields.not_fails error

/-- The compilation with a site marked as read. -/
def entered (c : Compilation) (i : Identity) (site : Location) : Compilation :=
  { c with store := { c.store with elaborated := (i, site) :: c.store.elaborated } }

theorem elaborate_first (hlive : c.table.isLive i = true)
    (hfirst : (i, site) ∉ c.store.elaborated) :
    c.elaborate i site = .ok (entered c i site, true) := by
  rw [Compilation.elaborate_eq, if_pos hlive, if_neg hfirst]
  rfl

section

variable (hdeclared : s.compilation.declare kind m.name.dotted qualname site = (c, i))
  (helaborated : c.elaborate i site = .ok (entered c i site, true))

include hdeclared helaborated

/-- A site that is met for the first time is annotated. -/
theorem outcome_declare_first (groups : Groups) :
    outcome (declare m kind qualname site groups) s =
      outcome (annotateSite m kind qualname site groups i (entered c i site))
        { s with compilation := entered c i site } := by
  rw [outcome_declare, hdeclared]
  dsimp only
  rw [helaborated]

theorem outcome_declare_of_yields (hvalid : groups.validate kind (entered c i site) = .ok items)
    (hyields : Yields m s.scope items (entered c i site) vs c') :
    outcome (declare m kind qualname site groups) s = (.ok (), { s with
      compilation := recordAll i ((items.map AnnotationItem.location).zip vs) c'
      sites := s.sites ++ [⟨i, kind, m.name.dotted, qualname, site, vs.length⟩] }) := by
  have hvalues :=
    outcome_values_of_yields hyields { s with compilation := entered c i site } rfl rfl
  rw [outcome_declare_first hdeclared helaborated, outcome_annotateSite, siteValues, itemValues,
    hvalid]
  dsimp only
  rw [outcome_bind_ok hvalues]
  simp [orReported, hyields.length_eq]

theorem outcome_declare_of_refuses
    (hrefuses : Refuses m kind groups s.scope (entered c i site) e) :
    ∃ c', (c' = entered c i site ∨ ∃ items, Fails m s.scope items (entered c i site) e c') ∧
      outcome (declare m kind qualname site groups) s = (.ok (), { s with
        compilation := c'
        sites := s.sites ++ [⟨i, kind, m.name.dotted, qualname, site, 0⟩]
        diagnostics := s.diagnostics ++ [⟨m.file, .rejected e⟩] }) := by
  rw [outcome_declare_first hdeclared helaborated, outcome_annotateSite, siteValues, itemValues]
  cases hrefuses with
  | placement error =>
    refine ⟨entered c i site, .inl rfl, ?_⟩
    rw [error]
    rfl
  | @item items c' accepted error =>
    refine ⟨c', .inr ⟨items, error⟩, ?_⟩
    rw [accepted]
    dsimp only
    rw [outcome_bind_ok (outcome_values_of_fails error
      { s with compilation := entered c i site } rfl rfl)]
    rfl

theorem outcome_declare_of_escapes (hvalid : groups.validate kind (entered c i site) = .ok items)
    (hescapes : Escapes m s.scope items (entered c i site)) :
    ∃ f s', outcome (declare m kind qualname site groups) s = (.error f, s') := by
  obtain ⟨f, s', hrun⟩ := outcome_values_of_escapes hescapes
    { s with compilation := entered c i site } rfl rfl
  refine ⟨f, s', ?_⟩
  rw [outcome_declare_first hdeclared helaborated, outcome_annotateSite, siteValues, itemValues,
    hvalid]
  dsimp only
  rw [outcome_bind, hrun]

end

/-! ### All or nothing -/

theorem declare_identity_isLive (hnumbered : s.compilation.table.Numbered)
    (hdeclared : s.compilation.declare kind m.name.dotted qualname site = (c, i)) :
    c.table.isLive i = true := by
  have hlive := Table.declare_isLive hnumbered kind m.name.dotted qualname site
  cases hdeclared
  exact hlive

theorem declare_table_numbered (hnumbered : s.compilation.table.Numbered)
    (hdeclared : s.compilation.declare kind m.name.dotted qualname site = (c, i)) :
    c.table.Numbered := by
  have hkept := Table.declare_numbered hnumbered kind m.name.dotted qualname site
  cases hdeclared
  exact hkept

theorem declare_store
    (hdeclared : s.compilation.declare kind m.name.dotted qualname site = (c, i)) :
    c.store = s.compilation.store := by
  cases hdeclared
  rfl

/-- A site that is refused keeps the records of every identity. -/
theorem leaves_of_refuses (hhost : m.host.Abides)
    (h : c' = c ∨ ∃ items, Fails m s.scope items c e c') : c.Leaves c' := by
  obtain rfl | ⟨items, hfails⟩ := h
  · exact .refl c'
  · exact hfails.leaves hhost

/-- **All or nothing.**  A site that is met for the first time, and in which no evaluation
escapes, is gone through without a fault.  Either no check of it fails, and its identity gets
one record for each annotation in its groups, in their order, with the value, the class of the
value and the place of the item, none of which is refused; or a check fails, no record is
appended, and its error is reported.  The site counts the records it was given, no other
identity gets any, and the next site can be gone through in the same way. -/
theorem declare_all_or_nothing (hhost : m.host.Abides)
    (hnumbered : s.compilation.table.Numbered)
    (hdeclared : s.compilation.declare kind m.name.dotted qualname site = (c, i))
    (hfirst : (i, site) ∉ s.compilation.store.elaborated)
    (hcontained : ∀ items, groups.validate kind (entered c i site) = .ok items →
      ¬ Escapes m s.scope items (entered c i site)) :
    ∃ (s' : Findings) (new : List Record),
      outcome (declare m kind qualname site groups) s = (.ok (), s') ∧
      (∀ j, s'.compilation.store.recordsOf j =
        s.compilation.store.recordsOf j ++ if j = i then new else []) ∧
      s'.sites = s.sites ++ [⟨i, kind, m.name.dotted, qualname, site, new.length⟩] ∧
      s'.scope = s.scope ∧ s'.compilation.table.Numbered ∧
      ((∃ e, Refuses m kind groups s.scope (entered c i site) e ∧ new = [] ∧
          s'.diagnostics = s.diagnostics ++ [⟨m.file, .rejected e⟩]) ∨
        (∀ e, ¬ Refuses m kind groups s.scope (entered c i site) e) ∧
          ∃ (items : List (AnnotationItem Expr)) (vs : List Value) (c' : Compilation),
            items = groups.own.flatMap Group.annotations ∧
            (∀ es, m.spellings.groups m.file es = .ok groups.own →
              items = es.flatMap (m.spellings.annotationsWritten m.file)) ∧
            Yields m s.scope items (entered c i site) vs c' ∧ vs.length = items.length ∧
            new = recordsFor i (s.compilation.store.recordsOf i).length
              ((items.map AnnotationItem.location).zip vs) ∧
            recordEach i ((items.map AnnotationItem.location).zip vs) c' = .ok s'.compilation ∧
            s'.diagnostics = s.diagnostics) := by
  have hlive := declare_identity_isLive hnumbered hdeclared
  have hkept := declare_table_numbered hnumbered hdeclared
  have hstore := declare_store hdeclared
  have helaborated := elaborate_first hlive (by rwa [hstore])
  have hlog : (entered c i site).store.log = s.compilation.store.log := by rw [← hstore]; rfl
  by_cases hrefuses : ∃ e, Refuses m kind groups s.scope (entered c i site) e
  · -- what was evaluated before the refusal has left the log alone
    obtain ⟨e, he⟩ := hrefuses
    obtain ⟨c', hc', hrun⟩ := outcome_declare_of_refuses hdeclared helaborated he
    have hleaves := leaves_of_refuses hhost hc'
    refine ⟨_, [], hrun, fun j => ?_, rfl, rfl, hleaves.numbered hkept,
      .inl ⟨e, he, rfl, rfl⟩⟩
    rw [ite_self, List.append_nil]
    exact Store.recordsOf_congr (hleaves.log.trans hlog) j
  · -- every check passes, so that only the recording is left
    push Not at hrefuses
    obtain ⟨items, hvalid⟩ : ∃ items, groups.validate kind (entered c i site) = .ok items := by
      cases hvalid : groups.validate kind (entered c i site) with
      | error e => exact absurd (.placement hvalid) (hrefuses e)
      | ok items => exact ⟨items, rfl⟩
    obtain ⟨vs, c', hyields⟩ : ∃ vs c', Yields m s.scope items (entered c i site) vs c' := by
      obtain hyields | ⟨e, c', hfails⟩ := yields_or_fails (hcontained items hvalid)
      · exact hyields
      · exact absurd (.item hvalid hfails) (hrefuses e)
    have hleaves := hyields.leaves hhost
    have hlive' : c'.table.isLive i = true := hleaves.grows.isLive hlive
    have hrecords := fun j => Store.recordsOf_congr (hleaves.log.trans hlog) j
    have hitems := annotations_of_validate hvalid
    have hlength : vs.length = (recordsFor i (s.compilation.store.recordsOf i).length
        ((items.map AnnotationItem.location).zip vs)).length := by
      simp [recordsFor, hyields.length_eq]
    refine ⟨_, recordsFor i (s.compilation.store.recordsOf i).length
      ((items.map AnnotationItem.location).zip vs),
      outcome_declare_of_yields hdeclared helaborated hvalid hyields, fun j => ?_, ?_, rfl, ?_,
      .inr ⟨hrefuses, items, vs, c', hitems, fun es hes => ?_, hyields, hyields.length_eq, rfl,
        (Compilation.recordEach_eq hlive').1, rfl⟩⟩
    · rw [Compilation.recordsOf_recordAll hlive', hrecords, hrecords]
    · rw [hlength]
    · rw [Compilation.recordAll_table]
      exact hleaves.numbered hkept
    · rw [hitems]
      exact m.spellings.annotations_of_groups m.file hes

/-! ### A function with two annotations -/

/-- A module whose expressions can use nothing of a host. -/
def sampleModule : ModuleSetting :=
  { host := {}, spellings := {}, name := ⟨"m", false⟩, file := "m.py" }

/-- Two annotations, the numbers one and two, with a plain attribute between them. -/
def sampleGroups : Groups :=
  { own := [{
      items := [
        ⟨⟨"m.py", 1, 6⟩, .value (.literal ⟨1, 6⟩ (.int 1))⟩,
        ⟨⟨"m.py", 1, 9⟩, .attribute "plain"⟩,
        ⟨⟨"m.py", 1, 24⟩, .value (.literal ⟨1, 24⟩ (.int 2))⟩]
      location := ⟨"m.py", 1, 1⟩ }] }

/-- Nothing has been gone through. -/
def sampleFindings : Findings := { compilation := Compilation.empty 1 Kind.all }

/-- Where the function is declared. -/
def sampleSite : Location := ⟨"m.py", 2, 0⟩

/-- The compilation once the function is declared. -/
def sampleDeclared : Compilation :=
  (sampleFindings.compilation.declare .function "m" "f" sampleSite).1

/-- The compilation from which the annotations are evaluated. -/
def sampleEntered : Compilation := entered sampleDeclared ⟨1, 0⟩ sampleSite

theorem sampleModule_abides : sampleModule.host.Abides :=
  Host.answer_of_calls (fun _ _ c => .refl _ c) fun _ _ c => .refl _ c

theorem sampleGroups_yields (c : Compilation) :
    ∃ c', Yields sampleModule {} (sampleGroups.own.flatMap Group.annotations) c
      [.int 1, .int 2] c' :=
  ⟨_, .cons (outcome_evaluate_literal ..) rfl (.cons (outcome_evaluate_literal ..) rfl (.nil _))⟩

theorem declare_all_or_nothing_sample :
    sampleModule.host.Abides ∧ sampleFindings.compilation.table.Numbered ∧
      (⟨1, 0⟩, sampleSite) ∉ sampleFindings.compilation.store.elaborated ∧
      (∀ items, sampleGroups.validate .function sampleEntered = .ok items →
        ¬ Escapes sampleModule {} items sampleEntered) ∧
      ∃ s', outcome (declare sampleModule .function "f" sampleSite sampleGroups)
          sampleFindings = (.ok (), s') ∧
        s'.compilation.store.recordsOf ⟨1, 0⟩ =
          [⟨⟨1, 0⟩, .builtin .int, .int 1, ⟨"m.py", 1, 6⟩, 0⟩,
            ⟨⟨1, 0⟩, .builtin .int, .int 2, ⟨"m.py", 1, 24⟩, 1⟩] ∧
        s'.sites.map ElaboratedSite.count = [2] ∧ s'.diagnostics = [] := by
  obtain ⟨c', hyields⟩ := sampleGroups_yields sampleEntered
  have hvalid : sampleGroups.validate .function sampleEntered =
      .ok (sampleGroups.own.flatMap Group.annotations) := rfl
  have hcontained : ∀ items, sampleGroups.validate .function sampleEntered = .ok items →
      ¬ Escapes sampleModule {} items sampleEntered := by
    intro items hitems
    rw [annotations_of_validate hitems]
    exact hyields.not_escapes
  have hfirst : ((⟨1, 0⟩ : Identity), sampleSite) ∉
      sampleFindings.compilation.store.elaborated := List.not_mem_nil
  refine ⟨sampleModule_abides, Table.numbered_empty 1, hfirst, hcontained, ?_⟩
  obtain ⟨s', new, hrun, hrecords, hsites, -, -, hcases⟩ :=
    @declare_all_or_nothing sampleModule .function "f" sampleSite sampleGroups sampleFindings
      sampleDeclared ⟨1, 0⟩ sampleModule_abides (Table.numbered_empty 1) rfl hfirst hcontained
  obtain ⟨e, hrefuses, -⟩ | ⟨-, items, vs, c'', rfl, -, hyields', -, hnew, -, hdiagnostics⟩ := hcases
  · exact absurd hrefuses (not_refuses hvalid hyields e)
  · obtain ⟨rfl, -⟩ := hyields.unique hyields'
    subst hnew
    refine ⟨s', hrun, ?_, ?_, hdiagnostics⟩
    · rw [hrecords]
      rfl
    · rw [hsites]
      rfl

end Elaboration

end Marginalia
