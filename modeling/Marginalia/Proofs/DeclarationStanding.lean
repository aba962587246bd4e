/-
What a compilation says about a declaration.

To whoever asks for a declaration by its module, name and kind, a compilation says whether it is
there, at which sites it was gone through, and what was recorded for it.  The identity it was
given, which depends on what was declared before, is left out.  An operation on one declaration
changes what is said about that one only.

* `Compilation.about` — what is said about a declaration;
* `Compilation.Sound` — records and marks belong to declarations that are there;
* `Compilation.about_declare`, `Compilation.about_entered`, `Compilation.about_recordAll` — what
  declaring, going through a site and recording change.
-/
import Marginalia.Proofs.SiteElaboration
import Marginalia.Proofs.TableCalls

namespace Marginalia

/-- What a record says, apart from whose it is. -/
def Record.content (r : Record) : TypeTerm × Value × Location := (r.type, r.value, r.location)

/-- What can be said about a declaration. -/
@[ext]
structure Standing where
  /-- Whether it is there. -/
  declared : Prop
  /-- The sites it was gone through at. -/
  visited : Location → Prop
  /-- What was recorded for it. -/
  records : List (TypeTerm × Value × Location)

namespace Compilation

variable {c c₁ : Compilation} {key key₀ : DeclarationKey} {kind : Kind} {module qualname : String}
  {site : Location} {i : Identity}

/-- The identity of a declaration, if it is there. -/
def identityAt? (c : Compilation) (key : DeclarationKey) : Option Identity :=
  (c.table.entryAt? key).map Declaration.identity

/-- The records of a declaration, in the order they were appended. -/
def recordsAt (c : Compilation) (key : DeclarationKey) : List Record :=
  (c.identityAt? key).elim [] c.store.recordsOf

/-- What a compilation says about a declaration. -/
def about (c : Compilation) (key : DeclarationKey) : Standing where
  declared := c.identityAt? key ≠ none
  visited site := ∃ i, c.identityAt? key = some i ∧ (i, site) ∈ c.store.elaborated
  records := (c.recordsAt key).map Record.content

/-- Names stand for what was declared, and records and marks of sites belong to identities that
are live. -/
structure Sound (c : Compilation) : Prop where
  coherent : c.table.Coherent
  recorded : ∀ r ∈ c.store.log, c.table.isLive r.owner = true
  elaborated : ∀ e ∈ c.store.elaborated, c.table.isLive e.1 = true

theorem sound_empty (token : Int) (kinds : List Kind) : (empty token kinds).Sound where
  coherent := Table.coherent_empty token
  recorded := by simp [empty]
  elaborated := by simp [empty]

theorem about_empty (token : Int) (kinds : List Kind) (key : DeclarationKey) :
    (empty token kinds).about key = ⟨False, fun _ => False, []⟩ := by
  ext
  · simp [about, identityAt?, Table.entryAt?, empty]
  · simp [about, empty]
  · simp [about, recordsAt, identityAt?, Table.entryAt?, empty]

/-! ### Identities and keys -/

theorem Sound.isLive (h : c.Sound) (hi : c.identityAt? key = some i) :
    c.table.isLive i = true := by
  obtain ⟨d, hd, rfl⟩ := Option.map_eq_some_iff.mp hi
  exact h.coherent.numbered.isLive (Table.key_of_entryAt? hd).1

/-- An identity belongs to one declaration. -/
theorem Sound.key_eq (h : c.Sound) (hi : c.identityAt? key = some i)
    (hi₀ : c.identityAt? key₀ = some i) : key = key₀ := by
  obtain ⟨d, hd, rfl⟩ := Option.map_eq_some_iff.mp hi
  obtain ⟨e, he, hid⟩ := Option.map_eq_some_iff.mp hi₀
  obtain ⟨hdmem, rfl⟩ := Table.key_of_entryAt? hd
  obtain ⟨hemem, rfl⟩ := Table.key_of_entryAt? he
  exact (h.coherent.identity_eq_iff hdmem hemem).mp hid.symm

theorem Sound.identity_ne (h : c.Sound) {j : Identity} (hj : c.identityAt? key = some j)
    (hi₀ : c.identityAt? key₀ = some i) (hkey : key ≠ key₀) : j ≠ i := by
  rintro rfl
  exact hkey (h.key_eq hj hi₀)

/-- A live identity is that of a declaration. -/
theorem Sound.exists_key (h : c.Sound) (hlive : c.table.isLive i = true) :
    ∃ key, c.identityAt? key = some i := by
  obtain ⟨htoken, hlow, hhigh⟩ := Table.isLive_iff.mp hlive
  -- identities are numbered by places in the table
  have hplace : i.index.toNat < c.table.entries.length := by omega
  have hidentity : c.table.entries[i.index.toNat].identity = i := by
    rw [h.coherent.numbered _ hplace, ← htoken, Int.toNat_of_nonneg hlow]
  refine ⟨c.table.entries[i.index.toNat].key, ?_⟩
  have hmem := List.getElem_mem hplace
  cases hfound : c.table.entryAt? c.table.entries[i.index.toNat].key with
  | none => exact absurd (List.mem_map_of_mem hmem) (Table.entryAt?_eq_none hfound)
  | some d =>
    obtain ⟨hd, hkey⟩ := Table.key_of_entryAt? hfound
    rw [identityAt?, hfound, Option.map_some, ← hidentity]
    exact congrArg some ((h.coherent.identity_eq_iff hd hmem).mpr hkey)

/-! ### Declaring -/

section Declaring

variable (hsound : c.Sound) (hdeclared : c.declare kind module qualname site = (c₁, i))

include hdeclared

theorem declare_eq :
    c₁ = { c with table := (c.table.declare kind module qualname site).1 } ∧
      i = (c.table.declare kind module qualname site).2 := by
  cases hdeclared
  exact ⟨rfl, rfl⟩

/-- What is declared keeps its identity or gets one that no declaration has had. -/
theorem identityAt?_declare :
    c₁.identityAt? (module, qualname, kind) = some i ∧
      (∀ key, key ≠ (module, qualname, kind) → c₁.identityAt? key = c.identityAt? key) ∧
      (c.identityAt? (module, qualname, kind) = some i ∨
        c.identityAt? (module, qualname, kind) = none ∧ c.table.isLive i = false) := by
  obtain ⟨rfl, rfl⟩ := declare_eq hdeclared
  simp only [identityAt?]
  cases hfound : c.table.entryAt? (module, qualname, kind) with
  | some d =>
    -- a site that is added to a declaration leaves its identity as it was
    have hkept (key : DeclarationKey) :
        ((c.table.declare kind module qualname site).1.entryAt? key).map Declaration.identity =
          (c.table.entryAt? key).map Declaration.identity := by
      rw [Table.entryAt?_declare_of_entryAt? hfound, Option.map_map]
      congr 1
      funext e
      exact (e.extends_declaredAt _ site).identity
    rw [(c.table.declare_of_entryAt? kind module qualname site hfound).1]
    exact ⟨by rw [hkept, hfound]; rfl, fun key _ => hkept key, .inl rfl⟩
  | none =>
    rw [(c.table.declare_of_entryAt?_none kind module qualname site hfound).1]
    refine ⟨?_, fun key hkey => ?_, .inr ⟨rfl, ?_⟩⟩
    · rw [Table.entryAt?_declare_of_entryAt?_none hfound, if_pos rfl]
      rfl
    · rw [Table.entryAt?_declare_of_entryAt?_none hfound, if_neg hkey]
    · simp [Table.isLive]

include hsound

theorem Sound.declare : c₁.Sound := by
  obtain ⟨rfl, rfl⟩ := declare_eq hdeclared
  have hgrows := c.table.grows_declare kind module qualname site
  exact ⟨hsound.coherent.call (.declare kind module qualname site),
    fun r hr => hgrows.isLive (hsound.recorded r hr),
    fun e he => hgrows.isLive (hsound.elaborated e he)⟩

/-- Declaring adds a declaration, and says nothing else about it or about others. -/
theorem about_declare :
    c₁.about = Function.update c.about (module, qualname, kind)
      { c.about (module, qualname, kind) with declared := True } := by
  obtain ⟨hi, hothers, hbefore⟩ := identityAt?_declare hdeclared
  obtain ⟨rfl, -⟩ := declare_eq hdeclared
  funext key
  by_cases hkey : key = (module, qualname, kind)
  · subst hkey
    rw [Function.update_self]
    obtain hold | ⟨hnone, hnew⟩ := hbefore
    · ext
      · simp [about, hi]
      · simp [about, hi, hold]
      · simp [about, recordsAt, hi, hold]
    · -- an identity that was not live has neither marks nor records
      have hmark : ∀ l, (i, l) ∉ c.store.elaborated := fun l hl => by
        rw [hsound.elaborated _ hl] at hnew
        cases hnew
      have hrecords : c.store.recordsOf i = [] :=
        List.filter_eq_nil_iff.mpr fun r hr howner => by
          rw [← eq_of_beq howner, hsound.recorded r hr] at hnew
          cases hnew
      ext
      · simp [about, hi]
      · simp [about, hi, hnone, hmark]
      · simp [about, recordsAt, hi, hnone, hrecords]
  · rw [Function.update_of_ne hkey]
    simp only [about, recordsAt, hothers key hkey]

end Declaring

/-! ### Going through a site -/

section Entering

variable (hsound : c.Sound) (hi : c.identityAt? key₀ = some i)

include hsound hi

/-- A site is passed over if the declaration was gone through there, and marked if not. -/
theorem elaborate_about (site : Location) :
    ((c.about key₀).visited site ∧ c.elaborate i site = .ok (c, false)) ∨
      (¬ (c.about key₀).visited site ∧
        c.elaborate i site = .ok (Elaboration.entered c i site, true)) := by
  have hlive := hsound.isLive hi
  have hvisited : (c.about key₀).visited site ↔ (i, site) ∈ c.store.elaborated := by
    simp [about, hi]
  rw [hvisited]
  by_cases hsite : (i, site) ∈ c.store.elaborated
  · exact .inl ⟨hsite, by rw [elaborate_eq, if_pos hlive, if_pos hsite]⟩
  · exact .inr ⟨hsite, Elaboration.elaborate_first hlive hsite⟩

theorem Sound.entered (site : Location) : (Elaboration.entered c i site).Sound where
  coherent := hsound.coherent
  recorded := hsound.recorded
  elaborated e he := by
    obtain rfl | he := List.mem_cons.mp he
    · exact hsound.isLive hi
    · exact hsound.elaborated e he

theorem about_entered (site : Location) :
    (Elaboration.entered c i site).about = Function.update c.about key₀
      { c.about key₀ with visited := fun l => (c.about key₀).visited l ∨ l = site } := by
  have hidentity (key : DeclarationKey) :
      (Elaboration.entered c i site).identityAt? key = c.identityAt? key := rfl
  have hmem (j : Identity) (l : Location) :
      (j, l) ∈ (Elaboration.entered c i site).store.elaborated ↔
        (j = i ∧ l = site) ∨ (j, l) ∈ c.store.elaborated := by
    simp [Elaboration.entered]
  funext key
  by_cases hkey : key = key₀
  · subst hkey
    rw [Function.update_self]
    ext
    · rfl
    · simp [about, hidentity, hi, hmem, or_comm]
    · rfl
  · rw [Function.update_of_ne hkey]
    ext l
    · rfl
    · simp only [about, hidentity, hmem]
      constructor
      · rintro ⟨j, hj, ⟨rfl, -⟩ | hl⟩
        · exact absurd rfl (hsound.identity_ne hj hi hkey)
        · exact ⟨j, hj, hl⟩
      · rintro ⟨j, hj, hl⟩
        exact ⟨j, hj, .inr hl⟩
    · rfl

/-! ### Recording -/

omit hsound hi in
theorem content_recordsFor (i : Identity) (n : Nat) (lvs : List (Location × Value)) :
    (recordsFor i n lvs).map Record.content = lvs.map fun lv => (lv.2.typeOf, lv.2, lv.1) := by
  induction lvs generalizing n with
  | nil => rfl
  | cons lv lvs ih =>
    rw [recordsFor_cons, List.map_cons, ih]
    rfl

theorem Sound.recordAll (lvs : List (Location × Value)) :
    (Elaboration.recordAll i lvs c).Sound where
  coherent := by
    rw [recordAll_table]
    exact hsound.coherent
  recorded r hr := by
    rw [recordAll_table]
    rw [(recordEach_eq (hsound.isLive hi)).2] at hr
    obtain hr | hr := List.mem_append.mp hr
    · exact hsound.recorded r hr
    · rw [owner_of_mem_recordsFor hr]
      exact hsound.isLive hi
  elaborated := by
    rw [recordAll_table, recordAll_elaborated]
    exact hsound.elaborated

/-- Values are recorded behind what was recorded for the declaration before. -/
theorem about_recordAll (lvs : List (Location × Value)) :
    (Elaboration.recordAll i lvs c).about = Function.update c.about key₀
      { c.about key₀ with
        records := (c.about key₀).records ++ lvs.map fun lv => (lv.2.typeOf, lv.2, lv.1) } := by
  have hidentity (key : DeclarationKey) :
      (Elaboration.recordAll i lvs c).identityAt? key = c.identityAt? key := by
    simp only [identityAt?, recordAll_table]
  have hcontent (n : Nat) := content_recordsFor i n lvs
  have hrecords (j : Identity) : (Elaboration.recordAll i lvs c).store.recordsOf j =
      c.store.recordsOf j ++
        if j = i then recordsFor i (c.store.recordsOf i).length lvs else [] :=
    recordsOf_recordAll (hsound.isLive hi) j
  funext key
  by_cases hkey : key = key₀
  · subst hkey
    rw [Function.update_self]
    ext
    · simp [about, hidentity]
    · simp [about, hidentity, recordAll_elaborated]
    · simp [about, recordsAt, hidentity, hi, hrecords, hcontent]
  · rw [Function.update_of_ne hkey]
    ext
    · simp [about, hidentity]
    · simp [about, hidentity, recordAll_elaborated]
    · simp only [about, recordsAt, hidentity]
      cases hj : c.identityAt? key with
      | none => rfl
      | some j => simp [hrecords, hsound.identity_ne hj hi hkey]

end Entering

/-! ### What says nothing about declarations -/

theorem Sound.addAlias (h : c.Sound) (module name tm tn : String) :
    (c.addAlias module name tm tn).Sound :=
  ⟨h.coherent.call (.addAlias module name tm tn), h.recorded, h.elaborated⟩

theorem Sound.made (h : c.Sound) (n : Nat) (cs : Changes) :
    { c with created := n, changed := cs }.Sound :=
  ⟨h.coherent, h.recorded, h.elaborated⟩

theorem about_made (n : Nat) (cs : Changes) :
    { c with created := n, changed := cs }.about = c.about := rfl

/-! ### Operations -/

/-- A mark that an operation makes is that of a live identity. -/
theorem Sound.elaborated_perform (h : c.Sound) (op : Operation) :
    ∀ e ∈ (c.perform op).1.store.elaborated, (c.perform op).1.table.isLive e.1 = true := by
  intro e he
  refine (perform_grows op).isLive ?_
  obtain hmarks | ⟨i, site, hlive, hmarks⟩ := perform_marks (c := c) op <;> rw [hmarks] at he
  · exact h.elaborated e he
  · obtain rfl | he := List.mem_cons.mp he
    · exact hlive
    · exact h.elaborated e he

theorem Sound.perform (h : c.Sound) (op : Operation) : (c.perform op).1.Sound where
  coherent := by
    obtain ⟨calls, hcalls⟩ := c.exists_calls_perform op
    rw [hcalls]
    exact h.coherent.after calls
  recorded r hr := by
    obtain hlog | ⟨r', hadmits, hlog⟩ := perform_log (c := c) op <;> rw [hlog] at hr
    · exact (perform_grows op).isLive (h.recorded r hr)
    · obtain hr | hr := List.mem_append.mp hr
      · exact (perform_grows op).isLive (h.recorded r hr)
      · rw [List.mem_singleton.mp hr]
        exact (perform_grows op).isLive hadmits.isLive
  elaborated := h.elaborated_perform op

end Compilation

end Marginalia
