/-
A module without diagnostics has recorded the annotations of its declarations.

When nothing is reported, no declaration was refused and nothing misplaced was found.  So every
annotation of a group that annotates a declaration has one record, and the log holds no other;
what is missing stands in an expression that no group is looked for in.

* `Compilation.Spares` — a later state with the same records and the same marks of sites;
* `Elaboration.Accounts` — the log is that of the annotations found on declarations so far;
* `Elaboration.accounts_runAll` — steps without a diagnostic keep account of theirs;
* `Analyzer.annotations_recorded` — every annotation in a module is recorded once, or overlooked;
* `Analyzer.annotations_recorded_not_all` — those in the source of a loop are not recorded.
-/
import Marginalia.Proofs.DeclarationPlaces
import Marginalia.Proofs.ElaborationEffect
import Marginalia.Proofs.ElaborationFindings
import Marginalia.Proofs.WrittenAnnotations

namespace Marginalia

open Elaboration

/-! ### Records and marks that stay as they are -/

namespace Compilation

variable {c c' c'' : Compilation}

/-- A later state with the same records and the same marks of sites. -/
structure Spares (c c' : Compilation) : Prop where
  reaches : c.Reaches c'
  log : c'.store.log = c.store.log
  elaborated : c'.store.elaborated = c.store.elaborated

theorem Spares.refl (c : Compilation) : c.Spares c := ⟨.refl c, rfl, rfl⟩

theorem Spares.trans (h : c.Spares c') (h' : c'.Spares c'') : c.Spares c'' :=
  ⟨h.reaches.trans h'.reaches, h'.log.trans h.log, h'.elaborated.trans h.elaborated⟩

end Compilation

/-- Whatever a host answers neither appends records nor marks sites. -/
def Host.SparesStore (h : Host) : Prop :=
  ∀ (f : Value) (a : Arguments) (c : Compilation), c.Spares (h.answer f a c).2

theorem ModuleSetting.keepsAside_spares {m : ModuleSetting} (hhost : m.host.SparesStore) :
    m.KeepsAside Compilation.Spares where
  evaluated _ :=
    { refl := .refl
      trans := .trans
      created c := ⟨c.reaches_created _, rfl, rfl⟩
      changed c cs := ⟨c.reaches_changed cs, rfl, rfl⟩
      called f a c :=
        have hcall := hhost f a { c with store := c.store.enter }
        ⟨(c.reaches_perform .enter).trans
          (hcall.reaches.trans (Compilation.reaches_perform _ .leave)), hcall.log,
          hcall.elaborated⟩ }
  declared kind qualname site c :=
    ⟨c.reaches_perform (.declare kind m.name.dotted qualname site), rfl, rfl⟩
  aliased name tm tn c := ⟨c.reaches_perform (.addAlias m.name.dotted name tm tn), rfl, rfl⟩

section

variable {m : ModuleSetting} {scope : Scope} {items : List (AnnotationItem Expr)}
  {c c' : Compilation} {vs : List Value}

theorem Yields.spares (hhost : m.host.SparesStore) (h : Yields m scope items c vs c') :
    c.Spares c' := by
  induction h with
  | nil c => exact .refl c
  | @cons a rest c c' c'' v vs value structural later ih =>
    have hspares := (ModuleSetting.keepsAside_spares hhost).evaluated scope
    have hhold := hspares.keeps_hold a.expression c
    rw [outcome_evaluate] at value
    split at value
    · rename_i k c₁ hk
      rw [hk] at hhold
      cases value
      exact hhold.trans ih
    · cases value

/-- Each value is that of its item. -/
theorem Yields.values (h : Yields m scope items c vs c') :
    List.Forall₂ (fun a v => ∃ c₁ c₂, outcome (a.expression.evaluate (m.setting scope)) c₁ =
      (.ok v, c₂)) items vs := by
  induction h with
  | nil c => exact .nil
  | cons value structural later ih => exact .cons ⟨_, _, value⟩ ih

end

/-! ### A declaration without a diagnostic -/

namespace Elaboration

variable {m : ModuleSetting} {kind : Kind} {qualname : String} {site : Location}
  {groups : Groups} {s s' : Findings} {items : List (AnnotationItem Expr)}

/-- Of two computations that report nothing one after the other, neither does. -/
theorem exists_quiet {α β : Type} {x : Elaboration α} {f : α → Elaboration β} {b : β}
    (hx : Within Reports x) (hf : ∀ a, Within Reports (f a))
    (hrun : outcome (x >>= f) s = (.ok b, s')) (hquiet : s'.diagnostics = s.diagnostics) :
    ∃ a s₁, outcome x s = (.ok a, s₁) ∧ s₁.diagnostics = s.diagnostics ∧
      outcome (f a) s₁ = (.ok b, s') ∧ s'.diagnostics = s₁.diagnostics := by
  have hfirst := hx s
  obtain ⟨a, s₁, hstart, hrun⟩ := exists_of_outcome_bind_ok hrun
  have hsecond := hf a s₁
  rw [hstart] at hfirst
  rw [hrun] at hsecond
  -- diagnostics are only added, so what is missing at the end was missing in between
  have hsame : s₁.diagnostics = s.diagnostics :=
    (hfirst.eq_of_length_le (hquiet ▸ hsecond.length_le)).symm
  exact ⟨a, s₁, hstart, hsame, hrun, hquiet.trans hsame.symm⟩

/-- Annotations that could not stand at a place were not accepted there. -/
theorem annotations_eq_nil {p : Placement Expr} {kinds : List Kind} (cause : Cause)
    (hobjection : p.objection? kinds = some cause) (h : p.validate kinds = .ok items) :
    p.annotations = [] := by
  unfold Placement.validate at h
  rw [hobjection] at h
  split at h
  · cases h
  · split at h
    · assumption
    · cases h

/-- Where the groups of a declaration are accepted, none stands on a type or in its value. -/
theorem misplaced_eq_nil {c : Compilation} (h : groups.validate kind c = .ok items) :
    groups.types.flatMap Group.annotations = [] ∧ groups.value.flatMap Group.annotations = [] := by
  unfold Groups.validate at h
  obtain ⟨types, htypes, h⟩ := exists_of_bind_eq_ok h
  obtain ⟨value, hvalue, -⟩ := exists_of_bind_eq_ok h
  exact ⟨annotations_eq_nil .onTypeSpecifier rfl htypes,
    annotations_eq_nil .withoutConstruct rfl hvalue⟩

/-- A declaration that ends without a diagnostic was passed over, or all its annotations were
evaluated and recorded. -/
theorem exists_yields (hcoherent : s.compilation.table.Coherent)
    (hrun : outcome (declare m kind qualname site groups) s = (.ok (), s'))
    (hquiet : s'.diagnostics = s.diagnostics) :
    ∃ c i, s.compilation.declare kind m.name.dotted qualname site = (c, i) ∧
      ((i, site) ∈ c.store.elaborated ∧ s'.compilation = c ∨
        ∃ items vs c', groups.validate kind (entered c i site) = .ok items ∧
          Yields m s.scope items (entered c i site) vs c' ∧
          s'.compilation = recordAll i ((items.map AnnotationItem.location).zip vs) c') := by
  obtain ⟨c, i, hdeclared⟩ :
      ∃ c i, s.compilation.declare kind m.name.dotted qualname site = (c, i) := ⟨_, _, rfl⟩
  refine ⟨c, i, hdeclared, ?_⟩
  obtain ⟨hsite, hagain⟩ | hfirst := Compilation.elaborate_declared hcoherent hdeclared
  · rw [outcome_declare, hdeclared] at hrun
    dsimp only at hrun
    rw [hagain] at hrun
    cases hrun
    exact .inl ⟨hsite, rfl⟩
  · -- a refusal would have been reported
    have hnot : ∀ e, ¬ Refuses m kind groups s.scope (entered c i site) e := by
      intro e he
      obtain ⟨c', -, hrefused⟩ := outcome_declare_of_refuses hdeclared hfirst he
      cases hrun.symm.trans hrefused
      simp at hquiet
    cases hvalid : groups.validate kind (entered c i site) with
    | error e => exact absurd (.placement hvalid) (hnot e)
    | ok items =>
      -- an escape would have ended the run
      have hcontained : ¬ Escapes m s.scope items (entered c i site) := by
        intro hescapes
        obtain ⟨f, s'', hfault⟩ := outcome_declare_of_escapes hdeclared hfirst hvalid hescapes
        cases hrun.symm.trans hfault
      obtain ⟨vs, c', hyields⟩ | ⟨e, c', hfails⟩ := yields_or_fails hcontained
      · refine .inr ⟨items, vs, c', rfl, hyields, ?_⟩
        cases hrun.symm.trans (outcome_declare_of_yields hdeclared hfirst hvalid hyields)
        rfl
      · exact absurd (.item hvalid hfails) (hnot e)

/-- Expressions in which misplaced annotations are looked for without a diagnostic hold none. -/
theorem annotationsIn_eq_zero {es : List Expr}
    (hrun : outcome (refuseIn m es) s = (.ok (), s')) (hquiet : s'.diagnostics = s.diagnostics) :
    m.spellings.annotationsIn m.file es = 0 ∧ s' = s := by
  unfold refuseIn at hrun
  cases hgroups : m.spellings.groupsIn m.file es with
  | error f =>
    rw [hgroups, outcome_liftM_error] at hrun
    cases hrun
  | ok gs =>
    rw [hgroups, liftM_ok, pure_bind, outcome_bind_ok (outcome_get s)] at hrun
    split at hrun
    · rename_i items hvalid
      cases hrun
      have hnone := annotations_eq_nil .withoutConstruct rfl hvalid
      refine ⟨?_, rfl⟩
      rw [m.spellings.annotationsIn_of_groupsIn m.file hgroups]
      exact congrArg _ hnone
    · cases hrun
      simp at hquiet

end Elaboration

/-! ### Keeping account -/

/-- An identity is that of the declaration of a module, name and kind. -/
def Compilation.HasEntry (c : Compilation) (i : Identity) (key : DeclarationKey) : Prop :=
  ∃ d ∈ c.table.entries, d.identity = i ∧ d.key = key

theorem Compilation.HasEntry.reaches {c c' : Compilation} {i : Identity} {key : DeclarationKey}
    (h : c.HasEntry i key) (hreaches : c.Reaches c') : c'.HasEntry i key := by
  obtain ⟨d, hd, hid, hkey⟩ := h
  obtain ⟨d', hd', hext⟩ := hreaches.extends.mem hd
  exact ⟨d', hd', hext.identity.trans hid, hext.key.trans hkey⟩

/-- A record is that of an annotation on the declaration of a module, name and kind: it belongs
to its identity, stands where the annotation is written and holds its value. -/
structure ModuleSetting.Records (m : ModuleSetting) (c : Compilation)
    (o : DeclarationKey × AnnotationItem Expr) (r : Record) : Prop where
  owner : c.HasEntry r.owner o.1
  location : r.location = o.2.location
  type : r.type = r.value.typeOf
  value : ∃ scope c₁ c₂, outcome (o.2.expression.evaluate (m.setting scope)) c₁ = (.ok r.value, c₂)

theorem ModuleSetting.Records.reaches {m : ModuleSetting} {c c' : Compilation}
    {o : DeclarationKey × AnnotationItem Expr} {r : Record} (h : m.Records c o r)
    (hreaches : c.Reaches c') : m.Records c' o r :=
  { h with owner := h.owner.reaches hreaches }

/-- The values of annotations on one declaration are recorded in their order. -/
theorem ModuleSetting.records_recordsFor {m : ModuleSetting} {scope : Scope} {c : Compilation}
    {i : Identity} {key : DeclarationKey} (howner : c.HasEntry i key)
    {items : List (AnnotationItem Expr)} {vs : List Value}
    (h : List.Forall₂ (fun a v => ∃ c₁ c₂, outcome (a.expression.evaluate (m.setting scope)) c₁ =
      (.ok v, c₂)) items vs) (n : Nat) :
    List.Forall₂ (m.Records c) (items.map fun a => (key, a))
      (recordsFor i n ((items.map AnnotationItem.location).zip vs)) := by
  induction h generalizing n with
  | nil => exact .nil
  | cons hvalue _ ih =>
    rw [List.map_cons, List.map_cons, List.zip_cons_cons, recordsFor_cons]
    exact .cons ⟨howner, rfl, rfl, scope, hvalue⟩ (ih (n + 1))

namespace Elaboration

/-- The groups read at a declaration hold the annotations that are written there. -/
theorem annotations_of_written {m : ModuleSetting} {w : Written} {groups : Groups}
    (h : w.groups m = .ok groups) :
    groups.own.flatMap Group.annotations =
        w.own.flatMap (m.spellings.annotationsWritten m.file) ∧
      m.spellings.annotationsIn m.file (w.types ++ w.value) =
        ↑(groups.types.flatMap Group.annotations) + ↑(groups.value.flatMap Group.annotations) := by
  unfold Written.groups at h
  obtain ⟨own, hown, h⟩ := exists_of_bind_eq_ok h
  obtain ⟨types, htypes, h⟩ := exists_of_bind_eq_ok h
  obtain ⟨value, hvalue, h⟩ := exists_of_bind_eq_ok h
  cases h
  rw [Spellings.annotationsIn_append, m.spellings.annotationsIn_of_groupsIn m.file htypes,
    m.spellings.annotationsIn_of_groupsIn m.file hvalue]
  exact ⟨m.spellings.annotations_of_groups m.file hown, rfl⟩

/-- The log is that of some annotations on declarations, and only some places were gone
through. -/
structure Accounts (m : ModuleSetting) (places : List Place)
    (owned : List (DeclarationKey × AnnotationItem Expr)) (c : Compilation) : Prop where
  coherent : c.table.Coherent
  marks : ∀ e ∈ c.store.elaborated, ∃ p ∈ places, e.2 = p.inFile m.file
  records : List.Forall₂ (m.Records c) owned c.store.log

namespace Accounts

variable {m : ModuleSetting} {kind : Kind} {qualname : String} {p : Place} {groups : Groups}
  {places places' : List Place} {owned : List (DeclarationKey × AnnotationItem Expr)}
  {s s' : Findings} {c c' : Compilation} {i : Identity} {items : List (AnnotationItem Expr)}
  {vs : List Value}

theorem spares (h : Accounts m places owned c) (hspares : c.Spares c') :
    Accounts m places owned c' where
  coherent := hspares.reaches.coherent h.coherent
  marks := hspares.elaborated ▸ h.marks
  records := hspares.log ▸ h.records.imp fun _ _ hr => hr.reaches hspares.reaches

theorem mono (h : Accounts m places owned c) (hplaces : places ⊆ places') :
    Accounts m places' owned c where
  coherent := h.coherent
  marks e he := by
    obtain ⟨p, hp, hsite⟩ := h.marks e he
    exact ⟨p, hplaces hp, hsite⟩
  records := h.records

theorem declared (hhost : m.host.SparesStore) (h : Accounts m places owned s.compilation)
    (hdeclared : s.compilation.declare kind m.name.dotted qualname (p.inFile m.file) = (c, i)) :
    Accounts m places owned c := by
  have hspares := (ModuleSetting.keepsAside_spares hhost).declared kind qualname
    (p.inFile m.file) s.compilation
  rw [hdeclared] at hspares
  exact h.spares hspares

/-- The first visit of a site marks it. -/
theorem entered (h : Accounts m places owned c) :
    Accounts m (p :: places) owned (entered c i (p.inFile m.file)) where
  coherent := h.coherent
  marks e he := by
    obtain rfl | he := List.mem_cons.mp he
    · exact ⟨p, List.mem_cons_self, rfl⟩
    · obtain ⟨q, hq, hsite⟩ := h.marks e he
      exact ⟨q, List.mem_cons_of_mem p hq, hsite⟩
  records := h.records.imp fun _ _ hr => { hr with }

/-- The annotations of a declaration are recorded behind the others. -/
theorem recorded {key : DeclarationKey} (h : Accounts m places owned c)
    (howner : c.HasEntry i key)
    (hvalues : List.Forall₂ (fun a v => ∃ c₁ c₂,
      outcome (a.expression.evaluate (m.setting s.scope)) c₁ = (.ok v, c₂)) items vs) :
    Accounts m places (owned ++ items.map fun a => (key, a))
      (recordAll i ((items.map AnnotationItem.location).zip vs) c) := by
  have hlive : c.table.isLive i = true := by
    obtain ⟨d, hd, rfl, -⟩ := howner
    exact h.coherent.numbered.isLive hd
  have hreaches := Compilation.reaches_recordAll i ((items.map AnnotationItem.location).zip vs) c
  refine ⟨hreaches.coherent h.coherent, ?_, ?_⟩
  · rw [Compilation.recordAll_elaborated]
    exact h.marks
  · rw [(Compilation.recordEach_eq hlive).2]
    have hnew := ModuleSetting.records_recordsFor howner hvalues (c.store.recordsOf i).length
    exact (List.rel_append h.records hnew).imp fun _ _ hr => hr.reaches hreaches

/-- A declaration without a diagnostic at a place that was not gone through before has the
annotations of its groups recorded, and holds no others. -/
theorem declare (hhost : m.host.SparesStore) (h : Accounts m places owned s.compilation)
    (hrun : outcome (declare m kind qualname (p.inFile m.file) groups) s = (.ok (), s'))
    (hquiet : s'.diagnostics = s.diagnostics) (hp : p ∉ places) :
    Accounts m (p :: places)
        (owned ++ (groups.own.flatMap Group.annotations).map
          fun a => ((m.name.dotted, qualname, kind), a)) s'.compilation ∧
      groups.types.flatMap Group.annotations = [] ∧
      groups.value.flatMap Group.annotations = [] := by
  obtain ⟨c, i, hdeclared, hvisit⟩ := exists_yields h.coherent hrun hquiet
  have hc := h.declared hhost hdeclared
  have howner : c.HasEntry i (m.name.dotted, qualname, kind) :=
    (Compilation.exists_declared hdeclared).2
  obtain ⟨hsite, -⟩ | ⟨items, vs, c', hvalid, hyields, hend⟩ := hvisit
  · -- a mark of the site is one of a place that was gone through
    obtain ⟨q, hq, hsame⟩ := hc.marks _ hsite
    cases p
    cases q
    cases hsame
    exact absurd hq hp
  · have hspares := hyields.spares hhost
    have howner' :=
      Compilation.HasEntry.reaches (c := Elaboration.entered c i _) howner hspares.reaches
    rw [hend, ← annotations_of_validate hvalid]
    exact ⟨(hc.entered.spares hspares).recorded howner' hyields.values, misplaced_eq_nil hvalid⟩

/-- A declaration without groups records nothing, whether it was gone through before or not. -/
theorem declare_bare (hhost : m.host.SparesStore) (h : Accounts m places owned s.compilation)
    (hrun : outcome (Elaboration.declare m kind qualname (p.inFile m.file) {}) s = (.ok (), s'))
    (hquiet : s'.diagnostics = s.diagnostics) :
    Accounts m (p :: places) owned s'.compilation := by
  obtain ⟨c, i, hdeclared, hvisit⟩ := exists_yields h.coherent hrun hquiet
  have hc := h.declared hhost hdeclared
  obtain ⟨-, hend⟩ | ⟨items, vs, c', hvalid, hyields, hend⟩ := hvisit
  · rw [hend]
    exact hc.mono (List.subset_cons_self p places)
  · have hspares := hyields.spares hhost
    obtain rfl : items = [] := annotations_of_validate hvalid
    rw [hend]
    exact hc.entered.spares hspares

/-- A name that is assigned has no annotations. -/
theorem assign {b : Body} {name : String} {e : Expr} (hhost : m.host.SparesStore)
    (h : Accounts m places owned s.compilation)
    (hrun : outcome ((ElaborationStep.assign b p name e).run m) s = (.ok (), s'))
    (hquiet : s'.diagnostics = s.diagnostics) : Accounts m (p :: places) owned s'.compilation := by
  have hkeeps := ModuleSetting.keepsAside_spares hhost
  have halias := hkeeps.tryAlias (b := b) (s := s) name e
  obtain ⟨hmade, -⟩ | ⟨t, -, hdeclare, hbind⟩ := exists_assign hrun
  · rw [Keeps, hmade] at halias
    exact (h.spares halias).mono (List.subset_cons_self p places)
  · have hbound := hkeeps.evaluating.bindTo (s := t) name (some e)
    have hlater := reports_bindTo (m := m) name (some e) t
    have hearlier := kept_reports.declare (m := m) (variableKind b name)
      (Dotted.under b.qualifier name) (p.inFile m.file) {} s
    rw [Keeps, hbind] at hbound
    rw [hbind] at hlater
    rw [hdeclare] at hearlier
    have hquiet' : t.diagnostics = s.diagnostics :=
      (hearlier.eq_of_length_le (hquiet ▸ hlater.length_le)).symm
    exact (h.declare_bare hhost hdeclare hquiet').spares hbound

end Accounts

end Elaboration

namespace Elaboration

variable {m : ModuleSetting}

mutual

theorem accounts_step (hhost : m.host.SparesStore) : ∀ (step : ElaborationStep)
    {places : List Place} {owned : List (DeclarationKey × AnnotationItem Expr)} {s s' : Findings},
    Accounts m places owned s.compilation → step.Apart places →
      outcome (step.run m) s = (.ok (), s') → s'.diagnostics = s.diagnostics →
        Accounts m (step.places ++ places) (owned ++ step.owned m) s'.compilation ∧
          m.spellings.annotationsIn m.file step.searched = 0
  | .declare kind qualname p written, places, owned, s, s', h, hapart, hrun, hquiet => by
    obtain ⟨w, groups, rfl, hread, hrun⟩ := exists_groups hrun
    rw [ElaborationStep.Apart] at hapart
    obtain ⟨haccounts, htypes, hvalue⟩ := h.declare hhost hrun hquiet hapart
    obtain ⟨hown, hmisplaced⟩ := annotations_of_written hread
    rw [htypes, hvalue] at hmisplaced
    rw [hown] at haccounts
    exact ⟨haccounts, hmisplaced⟩
  | .refuse es, places, owned, s, s', h, _, hrun, hquiet => by
    rw [ElaborationStep.run] at hrun
    obtain ⟨hnone, rfl⟩ := annotationsIn_eq_zero hrun hquiet
    exact ⟨by simpa [ElaborationStep.owned, ElaborationStep.places] using h, hnone⟩
  | .bind name value, places, owned, s, s', h, _, hrun, _ => by
    have hspares := (ModuleSetting.keepsAside_spares hhost).evaluating.bindTo (s := s) name value
    rw [ElaborationStep.run] at hrun
    rw [Keeps, hrun] at hspares
    exact ⟨by simpa [ElaborationStep.owned, ElaborationStep.places] using h.spares hspares, rfl⟩
  | .assign b p name value, places, owned, s, s', h, _, hrun, hquiet => by
    have haccounts := h.assign hhost hrun hquiet
    exact ⟨by simpa [ElaborationStep.owned, ElaborationStep.places] using haccounts, rfl⟩
  | .imported b name module target, places, owned, s, s', h, _, hrun, _ => by
    have hspares := (ModuleSetting.keepsAside_spares hhost).bindImported (b := b) (s := s) name
      module target
    rw [ElaborationStep.run] at hrun
    rw [Keeps, hrun] at hspares
    exact ⟨by simpa [ElaborationStep.owned, ElaborationStep.places] using h.spares hspares, rfl⟩
  | .inside steps, places, owned, s, s', h, hapart, hrun, hquiet => by
    rw [outcome_inside] at hrun
    split at hrun
    · rename_i s₁ hinner
      rw [ElaborationStep.Apart] at hapart
      have hquiet' : s₁.diagnostics = s.diagnostics := by
        cases hrun
        exact hquiet
      have hinside := accounts_runAll hhost steps (by exact h) hapart hinner hquiet'
      cases hrun
      exact hinside
    · cases hrun

/-- Steps without a diagnostic have the annotations on declarations recorded, and find no
others. -/
theorem accounts_runAll (hhost : m.host.SparesStore) : ∀ (steps : List ElaborationStep)
    {places : List Place} {owned : List (DeclarationKey × AnnotationItem Expr)} {s s' : Findings},
    Accounts m places owned s.compilation → AllApart places steps →
      outcome (runAll m steps) s = (.ok (), s') → s'.diagnostics = s.diagnostics →
        Accounts m (placesOfSteps steps ++ places) (owned ++ ownedOfAll m steps) s'.compilation ∧
          m.spellings.annotationsIn m.file (searchedOfAll steps) = 0
  | [], places, owned, s, s', h, _, hrun, _ => by
    cases hrun
    rw [ownedOfAll, List.append_nil]
    exact ⟨h, rfl⟩
  | step :: rest, places, owned, s, s', h, hapart, hrun, hquiet => by
    rw [AllApart] at hapart
    rw [runAll] at hrun
    obtain ⟨_, s₁, hstep, hquiet₁, hrest, hquiet₂⟩ :=
      exists_quiet (reports_step step) (fun _ => diagnostics_runAll rest) hrun hquiet
    obtain ⟨hfirst, hnone⟩ := accounts_step hhost step h hapart.1 hstep hquiet₁
    obtain ⟨hsecond, hnone'⟩ := accounts_runAll hhost rest hfirst hapart.2 hrest hquiet₂
    rw [ownedOfAll, ← List.append_assoc, searchedOfAll, Spellings.annotationsIn_append, hnone,
      hnone', placesOfSteps]
    refine ⟨hsecond.mono ?_, rfl⟩
    intro p hp
    simp only [List.mem_append] at hp ⊢
    tauto

end

end Elaboration

/-! ### A module without diagnostics -/

namespace Analyzer

variable {f : Analyzer} {name : ModuleName} {file : String} {body : List Statement} {token : Int}
  {kinds : List Kind} {a : Analysis} {c : Compilation}

/-- **Nothing lost but what is overlooked.**  Where a module is analysed on a fresh compilation
and nothing is reported, the log holds one record for each annotation in a group that annotates a
declaration, in their order, on the identity of this declaration, and no others.  Every
annotation in an expression of the module, as often as it is written, is one of these or stands
in an expression that no group is looked for in; so none is lost exactly when there is none of
the latter.  No two declarations of a text start at one place, nor does one start where the
module does. -/
theorem annotations_recorded (hhost : f.host.SparesStore)
    (hplaces : (⟨0, 0⟩ :: placesOfAll body).Nodup)
    (hrun : f.elaborate name file (.ok body) (.empty token kinds) = (.ok a, c))
    (hquiet : a.diagnostics = []) :
    List.Forall₂ ((f.module name file).Records c)
        (ownedOfAll (f.module name file) (stepsOfAll (f.module name file) {} body))
        c.store.log ∧
      f.spellings.annotationsIn file (expressionsOfAll body) =
        (((ownedOfAll (f.module name file) (stepsOfAll (f.module name file) {} body)).map
            Prod.snd : List (AnnotationItem Expr)) : Multiset (AnnotationItem Expr)) +
          f.spellings.annotationsIn file (overlookedOfAll (f.module name file) {} body) ∧
      ∀ source, f.readSource source = .ok body →
        f.analyzeText name file source (.empty token kinds) = (.ok a, c) := by
  set m := f.module name file with hm
  obtain ⟨s, hsteps, rfl, rfl⟩ := exists_run hrun
  have hstart : Accounts m [] [] (Compilation.empty token kinds) :=
    ⟨Table.coherent_empty token, fun _ he => absurd he List.not_mem_nil, .nil⟩
  -- the module is declared at the place in front of all statements
  have hstand : StandAt (⟨0, 0⟩ :: placesOfAll body) (moduleSteps m body) :=
    (StandAt.declare .nameSpace "" ⟨0, 0⟩ (.ok {})).append
      (standAt_statements m {} body hplaces.of_cons) hplaces
  obtain ⟨haccounts, hsearched⟩ := accounts_runAll (m := m) hhost (moduleSteps m body)
    (s := { compilation := .empty token kinds }) hstart (hstand.apart (List.disjoint_nil_right _))
    hsteps hquiet
  refine ⟨haccounts.records.imp fun _ _ h => h.reaches (Compilation.reaches_changed _ _), ?_, ?_⟩
  · have hall := annotations_statements m {} body
    have hnone : m.spellings.annotationsIn m.file (searchedOfAll (stepsOfAll m {} body)) = 0 :=
      hsearched
    rw [foundIn, hnone, add_zero] at hall
    exact hall
  · rintro source hread
    rw [analyzeText_eq, hread, hrun]

/-- A loop with an annotation where its source should stand. -/
def annotatedLoop : List Statement :=
  [.each (.name ⟨1, 4⟩ "x") (.call ⟨1, 9⟩ (.name ⟨1, 9⟩ "meta") [.literal ⟨1, 14⟩ (.int 1)] [])
    [.plain ⟨2, 4⟩ .pass []] []]

/-- A function with an annotation, and the loop behind it. -/
def annotatedFunctionAndLoop : List Statement :=
  .function ⟨2, 0⟩ "f" [] ⟨{}, [], [], []⟩ none
    [.call ⟨1, 1⟩ (.name ⟨1, 1⟩ "meta") [.literal ⟨1, 6⟩ (.int 1)] []] [] :: annotatedLoop

theorem sparesStore_default : ({} : Host).SparesStore :=
  Host.answer_of_calls (fun _ _ c => .refl c) fun _ _ c => .refl c

/-- The annotation of the function is recorded, and that in the loop is not. -/
theorem annotations_recorded_function :
    ({} : Analyzer).host.SparesStore ∧ (⟨0, 0⟩ :: placesOfAll annotatedFunctionAndLoop).Nodup ∧
      ∃ a c, ({} : Analyzer).elaborate ⟨"m", false⟩ "m.py" (.ok annotatedFunctionAndLoop)
          (.empty 1 Kind.all) = (.ok a, c) ∧ a.diagnostics = [] ∧
        c.store.log.map Record.location = [⟨"m.py", 1, 6⟩] := by
  have hplaces : (⟨0, 0⟩ :: placesOfAll annotatedFunctionAndLoop).Nodup := by decide
  have hquiet : (({} : Analyzer).elaborate ⟨"m", false⟩ "m.py" (.ok annotatedFunctionAndLoop)
      (.empty 1 Kind.all)).1.toOption.map (fun a => a.diagnostics.isEmpty) = some true := by
    decide +kernel
  generalize hrun : ({} : Analyzer).elaborate ⟨"m", false⟩ "m.py" (.ok annotatedFunctionAndLoop)
    (.empty 1 Kind.all) = run at hquiet
  obtain ⟨e | a, c⟩ := run
  · cases hquiet
  · have hnone : a.diagnostics = [] := by simpa [Except.toOption] using hquiet
    obtain ⟨hlog, -, -⟩ := annotations_recorded sparesStore_default hplaces hrun hnone
    have howned : ownedOfAll (({} : Analyzer).module ⟨"m", false⟩ "m.py")
        (stepsOfAll (({} : Analyzer).module ⟨"m", false⟩ "m.py") {} annotatedFunctionAndLoop) =
          [(("m", "f", .function), ⟨⟨"m.py", 1, 6⟩, .literal ⟨1, 6⟩ (.int 1)⟩)] := by
      rfl
    rw [howned] at hlog
    obtain ⟨r, log, hr, hrest, hlog⟩ := List.forall₂_cons_left_iff.mp hlog
    cases hrest
    refine ⟨sparesStore_default, hplaces, a, c, rfl, hnone, ?_⟩
    rw [hlog, List.map_singleton, hr.location]

/-- Where nothing is reported, not every annotation in a module has been recorded: the one in
the source of a loop is not. -/
theorem annotations_recorded_not_all :
    ¬ ∀ (f : Analyzer) (name : ModuleName) (file : String) (body : List Statement) (token : Int)
      (kinds : List Kind) (a : Analysis) (c : Compilation), f.host.SparesStore →
      (⟨0, 0⟩ :: placesOfAll body).Nodup →
      f.elaborate name file (.ok body) (.empty token kinds) = (.ok a, c) → a.diagnostics = [] →
        ∃ owned : List (DeclarationKey × AnnotationItem Expr),
          List.Forall₂ ((f.module name file).Records c) owned c.store.log ∧
            f.spellings.annotationsIn file (expressionsOfAll body) =
              (owned.map Prod.snd : List (AnnotationItem Expr)) := by
  intro hclaim
  have hplaces : (⟨0, 0⟩ :: placesOfAll annotatedLoop).Nodup := by decide
  have hend : (({} : Analyzer).elaborate ⟨"m", false⟩ "m.py" (.ok annotatedLoop)
      (.empty 1 Kind.all)).1.toOption.map (fun a => a.diagnostics.isEmpty) = some true ∧
    (({} : Analyzer).elaborate ⟨"m", false⟩ "m.py" (.ok annotatedLoop)
      (.empty 1 Kind.all)).2.store.log.isEmpty = true := by
    decide +kernel
  generalize hrun : ({} : Analyzer).elaborate ⟨"m", false⟩ "m.py" (.ok annotatedLoop)
    (.empty 1 Kind.all) = run at hend
  obtain ⟨e | a, c⟩ := run
  · cases hend.1
  · obtain ⟨owned, hrecords, hall⟩ := hclaim {} _ _ _ _ _ a c sparesStore_default hplaces hrun
      (by simpa [Except.toOption] using hend.1)
    rw [List.isEmpty_iff.mp hend.2] at hrecords
    cases hrecords
    have hone : Multiset.card (({} : Analyzer).spellings.annotationsIn "m.py"
      (expressionsOfAll annotatedLoop)) = 1 := rfl
    rw [hall] at hone
    cases hone

end Analyzer

end Marginalia
