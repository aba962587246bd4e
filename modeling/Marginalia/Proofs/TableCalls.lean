/-
Tables that declarations and aliases build.

A `Table.Call` is one declaration or one alias, `Table.after` the table that calls lead to and
`Table.run` the table they build from nothing.  Along any such run the entries, the search for
an entry and the bindings of names stay in step:

* `Table.Coherent` — each entry carries the identity of its place, no two entries are of one
  kind and name, and a name is bound only to an entry of that name; every call keeps this
  (`Table.Coherent.call`);
* `Table.Extends` — a later state keeps each entry at its place and only adds sites to it;
* `Table.sitesAt_run` — the sites under a key are those it was declared at, each one once, in
  the order they came;
* `Table.run_coherent` — all this together, with what declarations answer at any two points of
  a run and with the tables of a session apart.
-/
import Marginalia.Proofs.AppendOnly

namespace Marginalia

/-- What tells declarations of a table apart. -/
abbrev DeclarationKey := String × String × Kind

namespace Declaration

/-- Module, qualified name and kind. -/
def key (d : Declaration) : DeclarationKey := (d.module, d.qualname, d.kind)

theorem hasKey_iff {d : Declaration} {kind : Kind} {module qualname : String} :
    d.hasKey kind module qualname = true ↔ d.key = (module, qualname, kind) := by
  simp only [hasKey, key, Bool.and_eq_true, beq_iff_eq, Prod.mk.injEq]
  tauto

@[simp] theorem addSite_key (d : Declaration) (l : Location) : (d.addSite l).key = d.key := by
  unfold addSite
  split <;> rfl

theorem addSite_sites (d : Declaration) (l : Location) :
    (d.addSite l).sites = if l ∈ d.sites then d.sites else d.sites ++ [l] := by
  unfold addSite
  split <;> rfl

/-- A later state of a declaration: it is the same one, first declared at the same site, and
other sites may have been added behind. -/
structure Extends (d d' : Declaration) : Prop where
  identity : d'.identity = d.identity
  key : d'.key = d.key
  site : d'.site = d.site
  sites : d.sites <+: d'.sites

theorem Extends.refl (d : Declaration) : d.Extends d := ⟨rfl, rfl, rfl, List.prefix_rfl⟩

theorem Extends.trans {d d' d'' : Declaration} (h : d.Extends d') (h' : d'.Extends d'') :
    d.Extends d'' :=
  ⟨h'.identity.trans h.identity, h'.key.trans h.key, h'.site.trans h.site,
    h.sites.trans h'.sites⟩

theorem Extends.name {d d' : Declaration} (h : d.Extends d') :
    (d'.module, d'.qualname) = (d.module, d.qualname) := by
  have hkey := h.key
  simp only [Declaration.key, Prod.mk.injEq] at hkey
  rw [hkey.1, hkey.2.1]

theorem extends_addSite (d : Declaration) (l : Location) : d.Extends (d.addSite l) := by
  refine ⟨addSite_identity d l, addSite_key d l, ?_, ?_⟩
  · unfold addSite
    split <;> rfl
  · rw [addSite_sites]
    split
    · exact List.prefix_rfl
    · exact List.prefix_append _ _

/-- A declaration after one of a key at a site: that of the key gets the site. -/
def declaredAt (key : DeclarationKey) (l : Location) (d : Declaration) : Declaration :=
  if d.key = key then d.addSite l else d

theorem extends_declaredAt (key : DeclarationKey) (l : Location) (d : Declaration) :
    d.Extends (d.declaredAt key l) := by
  unfold declaredAt
  split
  · exact extends_addSite d l
  · exact .refl d

@[simp] theorem declaredAt_key (key : DeclarationKey) (l : Location) (d : Declaration) :
    (d.declaredAt key l).key = d.key :=
  (d.extends_declaredAt key l).key

end Declaration

namespace Table

/-- A call that changes a table. -/
inductive Call where
  | declare (kind : Kind) (module qualname : String) (site : Location)
  | addAlias (module name targetModule targetName : String)
deriving DecidableEq

/-- The name that a call binds. -/
def Call.name : Call → NameKey
  | .declare _ module qualname _ => (module, qualname)
  | .addAlias module name _ _ => (module, name)

/-- The site that a call declares a key at. -/
def Call.site? (key : DeclarationKey) : Call → Option Location
  | .declare kind module qualname site =>
    if key = (module, qualname, kind) then some site else none
  | .addAlias .. => none

/-- The table after a call. -/
def call (t : Table) : Call → Table
  | .declare kind module qualname site => (t.declare kind module qualname site).1
  | .addAlias module name targetModule targetName =>
    t.addAlias module name targetModule targetName

/-- What a call binds its name to. -/
def bound (t : Table) : Call → Binding
  | .declare kind module qualname site => .declared (t.declare kind module qualname site).2
  | .addAlias _ _ targetModule targetName => .sameAs (targetModule, targetName)

/-- The table after some calls. -/
def after (t : Table) (calls : List Call) : Table := calls.foldl call t

/-- The table that some calls build from nothing. -/
def run (token : Int) (calls : List Call) : Table := after { token } calls

/-- The sites that some calls declare a key at, in the order of the calls. -/
def sitesDeclared (key : DeclarationKey) (calls : List Call) : List Location :=
  calls.filterMap (Call.site? key)

variable {t t' t'' : Table} {i : Identity}

@[simp] theorem after_nil (t : Table) : t.after [] = t := rfl

@[simp] theorem after_cons (t : Table) (c : Call) (calls : List Call) :
    t.after (c :: calls) = (t.call c).after calls := rfl

theorem after_append (t : Table) (before later : List Call) :
    t.after (before ++ later) = (t.after before).after later := by
  simp only [after, List.foldl_append]

theorem run_append (token : Int) (before later : List Call) :
    run token (before ++ later) = (run token before).after later :=
  after_append { token } before later

/-! ### The binding of a name -/

/-- What stands under one key is not found under another. -/
theorem lookup_filter_of_ne {α β : Type} [BEq α] [LawfulBEq α] {k key : α} (h : k ≠ key)
    (es : List (α × β)) : (es.filter fun e => e.1 != key).lookup k = es.lookup k := by
  induction es with
  | nil => rfl
  | cons e es ih =>
    obtain ⟨k', b⟩ := e
    rw [List.filter_cons]
    by_cases hk : k' = key
    · simpa [hk, List.lookup_cons, beq_eq_false_iff_ne.mpr h] using ih
    · simp only [bne_iff_ne, ne_eq, hk, not_false_eq_true, if_true, List.lookup_cons, ih]

theorem binding?_bind (t : Table) (key k : NameKey) (b : Binding) :
    (t.bind key b).binding? k = if k = key then some b else t.binding? k := by
  unfold bind binding?
  by_cases hk : k = key
  · rw [if_pos hk, hk, List.lookup_cons_self]
  · -- what was bound before under the key is not what is asked for
    rw [if_neg hk, List.lookup_cons, beq_eq_false_iff_ne.mpr hk]
    exact lookup_filter_of_ne hk t.bindings

theorem declare_bindings (t : Table) (kind : Kind) (module qualname : String) (site : Location) :
    (t.declare kind module qualname site).1.bindings =
      (t.bind (module, qualname)
        (.declared (t.declare kind module qualname site).2)).bindings := by
  unfold declare
  split <;> rfl

/-- A call binds its own name and no other. -/
theorem binding?_call (t : Table) (c : Call) (k : NameKey) :
    (t.call c).binding? k = if k = c.name then some (t.bound c) else t.binding? k := by
  cases c with
  | declare kind module qualname site =>
    rw [← binding?_bind]
    simp only [binding?, call, bound, Call.name, declare_bindings]
  | addAlias module name tm tn => exact binding?_bind _ _ _ _

/-- A name keeps its binding while no call binds it. -/
theorem binding?_after {k : NameKey} {calls : List Call} (h : ∀ c ∈ calls, c.name ≠ k) :
    (t.after calls).binding? k = t.binding? k := by
  induction calls generalizing t with
  | nil => rfl
  | cons c calls ih =>
    rw [after_cons, ih fun c' hc' => h c' (List.mem_cons_of_mem _ hc'), binding?_call,
      if_neg (h c List.mem_cons_self).symm]

/-- A name that is bound stays bound. -/
theorem binding?_after_ne_none {k : NameKey} (h : t.binding? k ≠ none) (calls : List Call) :
    (t.after calls).binding? k ≠ none := by
  induction calls generalizing t with
  | nil => exact h
  | cons c calls ih =>
    refine ih ?_
    rw [binding?_call]
    split
    · exact Option.some_ne_none _
    · exact h

/-- The name of a call is bound after it. -/
theorem binding?_name_ne_none {c : Call} {calls : List Call} (hc : c ∈ calls) :
    (t.after calls).binding? c.name ≠ none := by
  obtain ⟨before, later, rfl⟩ := List.append_of_mem hc
  rw [after_append, after_cons]
  refine binding?_after_ne_none ?_ later
  rw [binding?_call, if_pos rfl]
  exact Option.some_ne_none _

/-! ### The entry of a key -/

/-- The entry of a kind and name. -/
def entryAt? (t : Table) (key : DeclarationKey) : Option Declaration :=
  t.entries.find? fun d => d.key = key

theorem find?_hasKey (t : Table) (kind : Kind) (module qualname : String) :
    (t.entries.find? fun d => d.hasKey kind module qualname) =
      t.entryAt? (module, qualname, kind) := by
  unfold entryAt?
  congr 1
  funext d
  rw [Bool.eq_iff_iff, Declaration.hasKey_iff, decide_eq_true_iff]

theorem key_of_entryAt? {key : DeclarationKey} {d : Declaration} (h : t.entryAt? key = some d) :
    d ∈ t.entries ∧ d.key = key :=
  ⟨List.mem_of_find?_eq_some h, by simpa using List.find?_some h⟩

theorem entryAt?_eq_none {key : DeclarationKey} (h : t.entryAt? key = none) :
    key ∉ t.entries.map Declaration.key := by
  intro hmem
  obtain ⟨d, hd, hkey⟩ := List.mem_map.mp hmem
  exact List.find?_eq_none.mp h d hd (decide_eq_true hkey)

section Declaring

variable (t : Table) (kind : Kind) (module qualname : String) (site : Location)

/-- A key that has an entry is declared there once more. -/
theorem declare_of_entryAt? {d : Declaration}
    (h : t.entryAt? (module, qualname, kind) = some d) :
    (t.declare kind module qualname site).2 = d.identity ∧
      (t.declare kind module qualname site).1.entries =
        t.entries.map (Declaration.declaredAt (module, qualname, kind) site) := by
  unfold declare
  rw [find?_hasKey, h]
  refine ⟨rfl, List.map_congr_left fun e _ => ?_⟩
  simp only [Declaration.hasKey_iff, Declaration.declaredAt]

/-- A key without an entry gets the next place. -/
theorem declare_of_entryAt?_none (h : t.entryAt? (module, qualname, kind) = none) :
    (t.declare kind module qualname site).2 = ⟨t.token, t.entries.length⟩ ∧
      (t.declare kind module qualname site).1.entries = t.entries ++
        [⟨⟨t.token, t.entries.length⟩, kind, module, qualname, site, []⟩] := by
  unfold declare
  rw [find?_hasKey, h]
  exact ⟨rfl, rfl⟩

/-- What a declaration answers is the identity of an entry of its kind and name. -/
theorem declare_entry :
    ∃ d ∈ (t.declare kind module qualname site).1.entries,
      d.identity = (t.declare kind module qualname site).2 ∧
        d.key = (module, qualname, kind) := by
  cases h : t.entryAt? (module, qualname, kind) with
  | some d =>
    obtain ⟨hid, hentries⟩ := t.declare_of_entryAt? kind module qualname site h
    obtain ⟨hd, hkey⟩ := key_of_entryAt? h
    rw [hid, hentries]
    have hlater := d.extends_declaredAt (module, qualname, kind) site
    exact ⟨_, List.mem_map_of_mem hd, hlater.identity, hlater.key.trans hkey⟩
  | none =>
    obtain ⟨hid, hentries⟩ := t.declare_of_entryAt?_none kind module qualname site h
    rw [hid, hentries]
    exact ⟨_, List.mem_append_right _ List.mem_cons_self, rfl, rfl⟩

end Declaring

/-! ### Entries, keys and bindings stay in step -/

/-- The joint invariant of the entries of a table and its bindings. -/
structure Coherent (t : Table) : Prop where
  numbered : t.Numbered
  distinct : (t.entries.map Declaration.key).Nodup
  bound : ∀ (k : NameKey) (i : Identity), t.binding? k = some (.declared i) →
    ∃ d ∈ t.entries, d.identity = i ∧ (d.module, d.qualname) = k

theorem coherent_empty (token : Int) : Coherent { token } where
  numbered := numbered_empty token
  distinct := List.nodup_nil
  bound := by
    intro k i h
    cases h

/-- A later state of a table: every entry is still at its place, in a later state. -/
def Extends (t t' : Table) : Prop :=
  t'.token = t.token ∧ ∀ (n : Nat) (d : Declaration), t.entries[n]? = some d →
    ∃ d', t'.entries[n]? = some d' ∧ d.Extends d'

theorem Extends.refl (t : Table) : t.Extends t :=
  ⟨rfl, fun _ d hd => ⟨d, hd, .refl d⟩⟩

theorem Extends.trans (h : t.Extends t') (h' : t'.Extends t'') : t.Extends t'' := by
  refine ⟨h'.1.trans h.1, fun n d hd => ?_⟩
  obtain ⟨d', hd', hext⟩ := h.2 n d hd
  obtain ⟨d'', hd'', hext'⟩ := h'.2 n d' hd'
  exact ⟨d'', hd'', hext.trans hext'⟩

theorem Extends.mem (h : t.Extends t') {d : Declaration} (hd : d ∈ t.entries) :
    ∃ d' ∈ t'.entries, d.Extends d' := by
  obtain ⟨n, hn⟩ := List.mem_iff_getElem?.mp hd
  obtain ⟨d', hd', hext⟩ := h.2 n d hn
  exact ⟨d', List.mem_of_getElem? hd', hext⟩

theorem extends_call (t : Table) (c : Call) : t.Extends (t.call c) := by
  cases c with
  | addAlias module name tm tn => exact .refl t
  | declare kind module qualname site =>
    refine ⟨declare_token .., fun n d hd => ?_⟩
    simp only [call]
    cases h : t.entryAt? (module, qualname, kind) with
    | some e =>
      rw [(t.declare_of_entryAt? kind module qualname site h).2, List.getElem?_map, hd]
      exact ⟨_, rfl, d.extends_declaredAt _ site⟩
    | none =>
      rw [(t.declare_of_entryAt?_none kind module qualname site h).2,
        List.getElem?_append_left (List.getElem?_eq_some_iff.mp hd).choose]
      exact ⟨d, hd, .refl d⟩

theorem extends_after (t : Table) (calls : List Call) : t.Extends (t.after calls) := by
  induction calls generalizing t with
  | nil => exact .refl t
  | cons c calls ih => exact (t.extends_call c).trans (ih (t.call c))

namespace Coherent

/-- The entry that a name was bound to has the name in a later state. -/
theorem bound_of_extends (h : t.Coherent) (hext : t.Extends t') {k : NameKey}
    (hk : t.binding? k = some (.declared i)) :
    ∃ d ∈ t'.entries, d.identity = i ∧ (d.module, d.qualname) = k := by
  obtain ⟨d, hd, hid, hname⟩ := h.bound k i hk
  obtain ⟨d', hd', hlater⟩ := hext.mem hd
  exact ⟨d', hd', hlater.identity.trans hid, hlater.name.trans hname⟩

/-- A declaration adds a key only when there is none like it. -/
theorem distinct_declare (h : t.Coherent) (kind : Kind) (module qualname : String)
    (site : Location) :
    ((t.declare kind module qualname site).1.entries.map Declaration.key).Nodup := by
  cases hfound : t.entryAt? (module, qualname, kind) with
  | some e =>
    rw [(t.declare_of_entryAt? kind module qualname site hfound).2, List.map_map]
    have hkeys : Declaration.key ∘ Declaration.declaredAt (module, qualname, kind) site =
        Declaration.key :=
      funext (Declaration.declaredAt_key _ site)
    rw [hkeys]
    exact h.distinct
  | none =>
    rw [(t.declare_of_entryAt?_none kind module qualname site hfound).2, List.map_append]
    refine List.nodup_append.mpr ⟨h.distinct, List.nodup_singleton _, ?_⟩
    rintro k hk k' hk' rfl
    rw [List.map_singleton, List.mem_singleton] at hk'
    rw [hk'] at hk
    exact entryAt?_eq_none hfound hk

theorem call (h : t.Coherent) (c : Call) : (t.call c).Coherent := by
  have hmove := fun {k i} => h.bound_of_extends (k := k) (i := i) (t.extends_call c)
  cases c with
  | addAlias module name tm tn =>
    refine ⟨addAlias_numbered h.numbered module name tm tn, h.distinct, fun k i hk => ?_⟩
    rw [binding?_call] at hk
    split at hk
    · cases hk
    · exact hmove hk
  | declare kind module qualname site =>
    refine ⟨declare_numbered h.numbered kind module qualname site, ?_, fun k i hk => ?_⟩
    · exact h.distinct_declare kind module qualname site
    · rw [binding?_call] at hk
      split at hk
      · rename_i hname
        obtain ⟨d, hd, hid, hkey⟩ := t.declare_entry kind module qualname site
        simp only [Declaration.key, Prod.mk.injEq] at hkey
        simp only [Table.bound, Option.some.injEq, Binding.declared.injEq] at hk
        exact ⟨d, hd, hid.trans hk, by rw [hname, hkey.1, hkey.2.1]; rfl⟩
      · exact hmove hk

theorem after (h : t.Coherent) (calls : List Call) : (t.after calls).Coherent := by
  induction calls generalizing t with
  | nil => exact h
  | cons c calls ih => exact ih (h.call c)

/-- Entries of one identity stand at one place, and entries of one key are one. -/
theorem identity_eq_iff (h : t.Coherent) {d d' : Declaration} (hd : d ∈ t.entries)
    (hd' : d' ∈ t.entries) : d.identity = d'.identity ↔ d.key = d'.key := by
  obtain ⟨n, hn, rfl⟩ := List.getElem_of_mem hd
  obtain ⟨n', hn', rfl⟩ := List.getElem_of_mem hd'
  rw [h.numbered n hn, h.numbered n' hn']
  constructor
  · intro hid
    have hplace : n = n' := by
      simpa using hid
    subst hplace
    rfl
  · intro hkey
    have hplace : n = n' := by
      refine (List.getElem?_inj (by simpa using hn) h.distinct).mp ?_
      rw [List.getElem?_map, List.getElem?_map, List.getElem?_eq_getElem hn,
        List.getElem?_eq_getElem hn', Option.map_some, Option.map_some, hkey]
    subst hplace
    rfl

/-- What a name is bound to is live. -/
theorem isLive_of_binding? (h : t.Coherent) {k : NameKey}
    (hk : t.binding? k = some (.declared i)) : t.isLive i = true := by
  obtain ⟨d, hd, rfl, -⟩ := h.bound k i hk
  exact h.numbered.isLive hd

end Coherent

theorem coherent_run (token : Int) (calls : List Call) : (run token calls).Coherent :=
  (coherent_empty token).after calls

theorem run_token (token : Int) (calls : List Call) : (run token calls).token = token :=
  (extends_after _ calls).1

/-! ### The sites of a key -/

/-- The sites under a key; none when it has no entry. -/
def sitesAt (t : Table) (key : DeclarationKey) : List Location :=
  match t.entryAt? key with
  | some d => d.sites
  | none => []

theorem Coherent.sitesAt_eq (h : t.Coherent) {d : Declaration} (hd : d ∈ t.entries) :
    t.sitesAt d.key = d.sites := by
  cases hfound : t.entryAt? d.key with
  | none => exact absurd (List.mem_map_of_mem hd) (entryAt?_eq_none hfound)
  | some e =>
    obtain ⟨he, hkey⟩ := key_of_entryAt? hfound
    have hentry : t.entryAt? d.key = some d := by
      rw [hfound]
      congr 1
      exact List.inj_on_of_nodup_map h.distinct he hd hkey
    rw [sitesAt, hentry]

/-- An entry that is declared again keeps its key and may get a site; the others stay. -/
theorem entryAt?_declare_of_entryAt? {kind : Kind} {module qualname : String} {d : Declaration}
    (h : t.entryAt? (module, qualname, kind) = some d) (site : Location) (key : DeclarationKey) :
    (t.declare kind module qualname site).1.entryAt? key =
      (t.entryAt? key).map (Declaration.declaredAt (module, qualname, kind) site) := by
  unfold entryAt?
  rw [(t.declare_of_entryAt? kind module qualname site h).2, List.find?_map]
  congr 2
  funext e
  simp only [Function.comp_apply, Declaration.declaredAt_key]

/-- A new entry is found under its key, and nothing else is. -/
theorem entryAt?_declare_of_entryAt?_none {kind : Kind} {module qualname : String}
    (h : t.entryAt? (module, qualname, kind) = none) (site : Location) (key : DeclarationKey) :
    (t.declare kind module qualname site).1.entryAt? key =
      if key = (module, qualname, kind) then
        some ⟨⟨t.token, t.entries.length⟩, kind, module, qualname, site, []⟩
      else t.entryAt? key := by
  unfold entryAt? at h ⊢
  rw [(t.declare_of_entryAt?_none kind module qualname site h).2, List.find?_append,
    List.find?_singleton]
  by_cases hkey : key = (module, qualname, kind)
  · subst hkey
    rw [h]
    simp [Declaration.key]
  · simp [hkey, Ne.symm hkey, Declaration.key]

/-- A call adds the site it declares a key at behind the others, unless it is one of them. -/
theorem sitesAt_call (t : Table) (c : Call) (key : DeclarationKey) :
    (t.call c).sitesAt key =
      match c.site? key with
      | some l => if l ∈ t.sitesAt key then t.sitesAt key else t.sitesAt key ++ [l]
      | none => t.sitesAt key := by
  cases c with
  | addAlias module name tm tn => rfl
  | declare kind module qualname site =>
    simp only [call, Call.site?, sitesAt]
    cases h : t.entryAt? (module, qualname, kind) with
    | some d =>
      rw [entryAt?_declare_of_entryAt? h]
      by_cases hkey : key = (module, qualname, kind)
      · subst hkey
        simp only [h, Option.map_some, if_true, Declaration.declaredAt,
          if_pos (key_of_entryAt? h).2]
        exact Declaration.addSite_sites d site
      · simp only [if_neg hkey]
        cases hother : t.entryAt? key with
        | none => rfl
        | some e =>
          have hne : e.key ≠ (module, qualname, kind) := by
            rw [(key_of_entryAt? hother).2]
            exact hkey
          simp only [Option.map_some, Declaration.declaredAt, if_neg hne]
    | none =>
      rw [entryAt?_declare_of_entryAt?_none h]
      by_cases hkey : key = (module, qualname, kind)
      · subst hkey
        simp [h, Declaration.sites]
      · simp [hkey]

theorem eraseDups_concat (ls : List Location) (l : Location) :
    (ls ++ [l]).eraseDups = if l ∈ ls.eraseDups then ls.eraseDups else ls.eraseDups ++ [l] := by
  rw [List.eraseDups_append]
  by_cases h : l ∈ ls
  · rw [if_pos (List.mem_eraseDups.mpr h)]
    simp [List.removeAll, h]
  · rw [if_neg fun hmem => h (List.mem_eraseDups.mp hmem)]
    simp [List.removeAll, h, List.eraseDups_cons]

/-- The sites of a key are those it was declared at, without repetitions. -/
theorem sitesAt_run (token : Int) (calls : List Call) (key : DeclarationKey) :
    (run token calls).sitesAt key = (sitesDeclared key calls).eraseDups := by
  -- from the end, since a site is added behind those that are there
  induction calls using List.reverseRecOn with
  | nil => rfl
  | append_singleton calls c ih =>
    have hstep : run token (calls ++ [c]) = (run token calls).call c :=
      run_append token calls [c]
    have hdeclared : sitesDeclared key (calls ++ [c]) =
        sitesDeclared key calls ++ (c.site? key).toList := by
      simp only [sitesDeclared, List.filterMap_append, List.filterMap_cons, List.filterMap_nil]
      cases c.site? key <;> rfl
    rw [hstep, sitesAt_call, ih, hdeclared]
    cases c.site? key with
    | none => simp
    | some l => exact (eraseDups_concat _ l).symm

end Table

/-! ### The tables of a session -/

theorem Compilation.exists_calls_perform (c : Compilation) (op : Operation) :
    ∃ calls, (c.perform op).1.table = c.table.after calls := by
  obtain h | ⟨kind, module, qualname, site, -, h⟩ | ⟨module, name, tm, tn, h⟩ :=
    Compilation.perform_table (c := c) op
  · exact ⟨[], h⟩
  · exact ⟨[.declare kind module qualname site], h⟩
  · exact ⟨[.addAlias module name tm tn], h⟩

namespace Session

/-- Every table was built by calls, and carries the token of its place. -/
def Built (s : Session) : Prop :=
  ∀ (k : Nat) (c : Compilation), s.compilations[k]? = some c →
    ∃ calls, c.table = Table.run (k + 1) calls

theorem Built.act {s : Session} (h : s.Built) (a : Action) : (s.act a).Built := by
  intro k c hc
  obtain hc | ⟨annotatable, -, rfl⟩ | ⟨op, c₀, hc₀, rfl⟩ := act_cases hc
  · exact h k c hc
  · exact ⟨[], rfl⟩
  · obtain ⟨calls, hcalls⟩ := h k c₀ hc₀
    obtain ⟨more, hmore⟩ := c₀.exists_calls_perform op
    refine ⟨calls ++ more, ?_⟩
    rw [hmore, hcalls, Table.run_append]

theorem built_run (actions : List Action) : (run actions).Built := by
  have hafter : ∀ (s : Session), s.Built → (s.after actions).Built := by
    induction actions with
    | nil => exact fun s hs => hs
    | cons a rest ih => exact fun s hs => ih (s.act a) (hs.act a)
  refine hafter {} fun k c hc => ?_
  simp at hc

end Session

namespace Table

/-! ### What a run keeps -/

/-- **Declarations of a run.**  Each entry carries the token and its place, and no two entries
have the same module, name and kind; the sites of an entry are those it was declared at, each
one once and in the order they came; names are bound to live identities only; whatever is called
later, an entry stays what it is and only gets sites behind those it has; and two declarations
anywhere in the run answer the same identity exactly if they agree in module, name and kind.
All tables of a session are such runs, and no identity is live in two of them. -/
theorem run_coherent (token : Int) (calls later : List Call) :
    (∀ (n : Nat) (d : Declaration), (run token calls).entries[n]? = some d →
      d.identity = ⟨token, n⟩) ∧
    ((run token calls).entries.map Declaration.key).Nodup ∧
    (∀ d ∈ (run token calls).entries,
      d.sites = (sitesDeclared d.key calls).eraseDups ∧ d.sites ≠ []) ∧
    (∀ (k : NameKey) (i : Identity), (run token calls).binding? k = some (.declared i) →
      (run token calls).isLive i = true) ∧
    (∀ (n : Nat) (d : Declaration), (run token calls).entries[n]? = some d →
      ∃ d', (run token (calls ++ later)).entries[n]? = some d' ∧ d.Extends d') ∧
    (∀ (kind kind' : Kind) (module qualname module' qualname' : String)
      (site site' : Location),
      ((run token calls).declare kind module qualname site).2 =
          ((run token (calls ++ .declare kind module qualname site :: later)).declare
            kind' module' qualname' site').2 ↔
        (module, qualname, kind) = (module', qualname', kind')) ∧
    (∀ (actions : List Action) (j : Nat) (c : Compilation),
      (Session.run actions).compilations[j]? = some c →
      (∃ made, c.table = run (j + 1) made) ∧
        ∀ (k : Nat) (c' : Compilation) (i : Identity),
          (Session.run actions).compilations[k]? = some c' → j ≠ k →
          c.table.isLive i = true → c'.table.isLive i = false) := by
  have hcoherent := coherent_run token calls
  refine ⟨fun n d hd => ?_, hcoherent.distinct, fun d hd => ?_, fun k i =>
    hcoherent.isLive_of_binding?, fun n d hd => ?_, ?_, fun actions j c hc => ?_⟩
  · obtain ⟨hn, rfl⟩ := List.getElem?_eq_some_iff.mp hd
    rw [hcoherent.numbered n hn, run_token]
  · rw [← hcoherent.sitesAt_eq hd, sitesAt_run]
    refine ⟨rfl, ?_⟩
    rw [← sitesAt_run token, hcoherent.sitesAt_eq hd]
    exact List.cons_ne_nil _ _
  · rw [run_append]
    exact (extends_after (run token calls) later).2 n d hd
  · intro kind kind' module qualname module' qualname' site site'
    -- both answers are identities of entries of the table after the second declaration
    obtain ⟨d, hd, hid, hkey⟩ := (run token calls).declare_entry kind module qualname site
    rw [run_append, after_cons]
    generalize hmid : ((run token calls).call (.declare kind module qualname site)).after later = t
    obtain ⟨e, he, hid', hkey'⟩ := t.declare_entry kind' module' qualname' site'
    have hext : ((run token calls).declare kind module qualname site).1.Extends
        (t.declare kind' module' qualname' site').1 := by
      rw [← hmid]
      exact (extends_after _ later).trans (extends_call _ (.declare kind' module' qualname' site'))
    obtain ⟨d', hd', hlater⟩ := hext.mem hd
    have hboth : (t.declare kind' module' qualname' site').1.Coherent := by
      rw [← hmid]
      exact ((hcoherent.call _).after later).call (.declare kind' module' qualname' site')
    rw [← hid, ← hid', ← hlater.identity, hboth.identity_eq_iff hd' he, hlater.key, hkey, hkey']
  · refine ⟨Session.built_run actions j c hc, fun k c' i hc' hjk hlive => ?_⟩
    rw [Bool.eq_false_iff]
    exact fun hlive' => hjk ((Session.consistent_run actions).place_unique hc hc' hlive hlive')

/-- A function that is declared three times, at two sites, and made a variable in between. -/
def sampleCalls : List Call :=
  [.declare .function "m" "f" ⟨"m.py", 1, 0⟩, .addAlias "m" "g" "m" "f",
    .declare .function "m" "f" ⟨"m.py", 5, 0⟩, .declare .variableDef "m" "f" ⟨"m.py", 6, 0⟩,
    .declare .function "m" "f" ⟨"m.py", 1, 0⟩]

theorem run_coherent_sample :
    ∃ d, (run 1 sampleCalls).entries[0]? = some d ∧ d.identity = ⟨1, 0⟩ ∧
      d.sites = [⟨"m.py", 1, 0⟩, ⟨"m.py", 5, 0⟩] ∧
      (run 1 sampleCalls).binding? ("m", "f") = some (.declared ⟨1, 0⟩) ∧
      (run 1 sampleCalls).isLive ⟨1, 0⟩ = true := by
  obtain ⟨hid, -, hsites, hlive, -⟩ := run_coherent 1 sampleCalls []
  have hbound : (run 1 sampleCalls).binding? ("m", "f") = some (.declared ⟨1, 0⟩) := rfl
  refine ⟨_, rfl, hid 0 _ rfl, ?_, hbound, hlive _ _ hbound⟩
  exact (hsites _ List.mem_cons_self).1

end Table

end Marginalia
