/-
What the search for a name finds.

`Table.Leads` says where a key leads without any bookkeeping: through aliases, to a submodule,
or to a member of what the qualifier leads to; the keys on the way are its trail.  The search
keeps the keys it has met and gives up at one it meets again, so it finds what a key leads to
as long as the trail has no key twice:

* `Table.Leads.unique` — a key leads to one identity at most, along one trail;
* `Table.search_eq_some`, `Table.search_of_leads` — a search that finds something has followed
  a trail without repetitions, and such a trail is followed to its end at any depth that is not
  less than its length;
* `Table.Leads.subset` — a trail stays among finitely many keys, so that the depth a search
  is given suffices (`Table.length_within_le`);
* `Table.resolve?_eq_some_iff` — a name denotes what its key leads to along a trail without
  repetitions; from it follow the rules for names bound to declarations, for aliases, for
  submodules and for members.
-/
import Marginalia.Proofs.DottedName
import Marginalia.Proofs.TableCalls

namespace Marginalia

namespace Table

/-- A key leads to an identity, along the keys of a trail in this order. -/
inductive Leads (t : Table) : NameKey → List NameKey → Identity → Prop
  | declared {key : NameKey} {i : Identity} (bound : t.binding? key = some (.declared i)) :
    Leads t key [key] i
  | sameAs {key target : NameKey} {trail : List NameKey} {i : Identity}
    (bound : t.binding? key = some (.sameAs target)) (rest : Leads t target trail i) :
    Leads t key (key :: trail) i
  | submodule {key : NameKey} {i : Identity} (unbound : t.binding? key = none)
    (plain : Dotted.splitLast? key.2 = none)
    (bound : t.binding? (submoduleKey key) = some (.declared i)) : Leads t key [key] i
  | member {key : NameKey} {head x : String} {trail trail' : List NameKey} {i j : Identity}
    {owner : Declaration} (unbound : t.binding? key = none)
    (dotted : Dotted.splitLast? key.2 = some (head, x)) (first : Leads t (key.1, head) trail i)
    (entry : t.entry? i = some owner) (rest : Leads t (memberKey owner x) trail' j) :
    Leads t key (key :: (trail ++ trail')) j

variable {t : Table} {key k : NameKey} {trail trail' seen seen' : List NameKey} {i j : Identity}

namespace Leads

theorem unique (h : t.Leads key trail i) (h' : t.Leads key trail' j) : trail = trail' ∧ i = j := by
  induction h generalizing trail' j with
  | declared bound => cases h' <;> simp_all
  | sameAs bound rest ih =>
    cases h' with
    | sameAs bound' rest' =>
      rw [bound] at bound'
      cases bound'
      obtain ⟨rfl, rfl⟩ := ih rest'
      exact ⟨rfl, rfl⟩
    | _ => simp_all
  | submodule unbound plain bound => cases h' <;> simp_all
  | member unbound dotted first entry rest ih ih' =>
    cases h' with
    | member unbound' dotted' first' entry' rest' =>
      rw [dotted] at dotted'
      cases dotted'
      obtain ⟨rfl, rfl⟩ := ih first'
      rw [entry] at entry'
      cases entry'
      obtain ⟨rfl, rfl⟩ := ih' rest'
      exact ⟨rfl, rfl⟩
    | _ => simp_all

/-- A key that is met leads somewhere itself, along a part of the trail. -/
theorem of_mem (h : t.Leads key trail i) (hk : k ∈ trail) :
    ∃ trail' j, t.Leads k trail' j ∧ trail' <:+: trail := by
  induction h with
  | declared bound =>
    rw [List.mem_singleton.mp hk]
    exact ⟨_, _, .declared bound, List.infix_rfl⟩
  | sameAs bound rest ih =>
    obtain rfl | hk := List.mem_cons.mp hk
    · exact ⟨_, _, .sameAs bound rest, List.infix_rfl⟩
    · obtain ⟨trail', j, hj, hpart⟩ := ih hk
      exact ⟨trail', j, hj, hpart.trans (List.suffix_cons _ _).isInfix⟩
  | submodule unbound plain bound =>
    rw [List.mem_singleton.mp hk]
    exact ⟨_, _, .submodule unbound plain bound, List.infix_rfl⟩
  | member unbound dotted first entry rest ih ih' =>
    obtain rfl | hk := List.mem_cons.mp hk
    · exact ⟨_, _, .member unbound dotted first entry rest, List.infix_rfl⟩
    · suffices hinside : ∃ trail'' j, t.Leads k trail'' j ∧ trail'' <:+: _ ++ _ by
        obtain ⟨trail'', j, hj, hpart⟩ := hinside
        exact ⟨trail'', j, hj, hpart.trans (List.suffix_cons _ _).isInfix⟩
      obtain hk | hk := List.mem_append.mp hk
      · obtain ⟨trail', j, hj, hpart⟩ := ih hk
        exact ⟨trail', j, hj, hpart.trans (List.prefix_append _ _).isInfix⟩
      · obtain ⟨trail', j, hj, hpart⟩ := ih' hk
        exact ⟨trail', j, hj, hpart.trans (List.suffix_append _ _).isInfix⟩

/-- A key with a longer trail is not met. -/
theorem not_mem_of_length_lt (h : t.Leads key trail i) (hk : t.Leads k trail' j)
    (hlong : trail.length < trail'.length) : k ∉ trail := by
  intro hmem
  obtain ⟨trail'', j', hj', hpart⟩ := h.of_mem hmem
  obtain ⟨rfl, -⟩ := hk.unique hj'
  exact absurd hpart.length_le (Nat.not_le.mpr hlong)

end Leads

/-! ### The search follows the trail -/

theorem search_eq_some {depth : Nat} (h : t.search depth key seen = (some i, seen')) :
    ∃ trail, t.Leads key trail i ∧ trail.Nodup ∧ trail.Disjoint seen ∧
      seen' = trail.reverse ++ seen := by
  -- the keys met so far may be any: the second search of a member goes on with those of the first
  induction depth generalizing key seen i seen' with
  | zero => cases h
  | succ depth ih =>
    rw [search] at h
    split at h
    · cases h
    · rename_i hnew
      dsimp only at h
      split at h
      · rename_i i' hbound
        cases h
        exact ⟨[key], .declared hbound, List.nodup_singleton _, by simpa using hnew, rfl⟩
      · rename_i target hbound
        obtain ⟨trail, hleads, hnodup, hdisjoint, rfl⟩ := ih h
        rw [List.disjoint_cons_right] at hdisjoint
        exact ⟨key :: trail, .sameAs hbound hleads, List.nodup_cons.mpr ⟨hdisjoint.1, hnodup⟩,
          List.disjoint_cons_left.mpr ⟨hnew, hdisjoint.2⟩, by simp⟩
      · rename_i hunbound
        split at h
        · rename_i hplain
          split at h
          · rename_i i' hbound
            cases h
            exact ⟨[key], .submodule hunbound hplain hbound, List.nodup_singleton _,
              by simpa using hnew, rfl⟩
          · cases h
        · rename_i head x hdotted
          split at h
          · cases h
          · rename_i i' seen₁ hfirst
            split at h
            · cases h
            · rename_i owner hentry
              split at h
              · cases h
              · obtain ⟨trail, hleads, hnodup, hdisjoint, rfl⟩ := ih hfirst
                obtain ⟨trail', hleads', hnodup', hdisjoint', rfl⟩ := ih h
                rw [List.disjoint_cons_right] at hdisjoint
                rw [List.disjoint_append_right, List.disjoint_cons_right] at hdisjoint'
                obtain ⟨hfar, hkey', hold'⟩ := hdisjoint'
                refine ⟨key :: (trail ++ trail'), .member hunbound hdotted hleads hentry hleads',
                  List.nodup_cons.mpr ⟨?_, ?_⟩, ?_, by simp⟩
                · simp [hdisjoint.1, hkey']
                · exact hnodup.append hnodup' fun a ha ha' => hfar ha' (List.mem_reverse.mpr ha)
                · simp only [List.disjoint_cons_left, List.disjoint_append_left]
                  exact ⟨hnew, hdisjoint.2, hold'⟩

theorem search_of_leads (h : t.Leads key trail i) (hnodup : trail.Nodup)
    (hdisjoint : trail.Disjoint seen) {depth : Nat} (hdepth : trail.length ≤ depth) :
    t.search depth key seen = (some i, trail.reverse ++ seen) := by
  -- the depth may be any that suffices, as the parts of a trail are shorter than the trail
  induction h generalizing seen depth with
  | declared bound =>
    rw [List.length_singleton] at hdepth
    obtain ⟨depth, rfl⟩ : ∃ n, depth = n + 1 := Nat.exists_eq_succ_of_ne_zero (by omega)
    rw [search, if_neg (by simpa using hdisjoint)]
    simp [bound]
  | @sameAs key target trail i bound rest ih =>
    rw [List.length_cons] at hdepth
    obtain ⟨depth, rfl⟩ : ∃ n, depth = n + 1 := Nat.exists_eq_succ_of_ne_zero (by omega)
    rw [List.nodup_cons] at hnodup
    rw [List.disjoint_cons_left] at hdisjoint
    rw [search, if_neg hdisjoint.1]
    simp only [bound]
    rw [ih hnodup.2 (List.disjoint_cons_right.mpr ⟨hnodup.1, hdisjoint.2⟩) (by omega)]
    simp
  | submodule unbound plain bound =>
    rw [List.length_singleton] at hdepth
    obtain ⟨depth, rfl⟩ : ∃ n, depth = n + 1 := Nat.exists_eq_succ_of_ne_zero (by omega)
    rw [search, if_neg (by simpa using hdisjoint)]
    simp [bound, unbound, plain]
  | @member key head x trail trail' i j owner unbound dotted first entry rest ih ih' =>
    -- the member is no part of its own trail, so it is not the key that is asked for
    have hne : memberKey owner x ≠ key := by
      rintro hkey
      rw [hkey] at rest
      have hlength := congrArg List.length
        (rest.unique (.member unbound dotted first entry (hkey ▸ rest))).1
      simp only [List.length_cons, List.length_append] at hlength
      omega
    rw [List.length_cons, List.length_append] at hdepth
    obtain ⟨depth, rfl⟩ : ∃ n, depth = n + 1 := Nat.exists_eq_succ_of_ne_zero (by omega)
    rw [List.nodup_cons, List.mem_append, not_or, List.nodup_append'] at hnodup
    rw [List.disjoint_cons_left, List.disjoint_append_left] at hdisjoint
    obtain ⟨⟨hkey, hkey'⟩, hnodup, hnodup', hapart⟩ := hnodup
    obtain ⟨hnew, hold, hold'⟩ := hdisjoint
    rw [search, if_neg hnew]
    simp only [unbound, dotted]
    rw [ih hnodup (List.disjoint_cons_right.mpr ⟨hkey, hold⟩) (by omega)]
    simp only [entry, if_neg hne]
    rw [ih' hnodup' ?_ (by omega)]
    · simp
    · rw [List.disjoint_append_right, List.disjoint_cons_right]
      exact ⟨fun a ha ha' => hapart (List.mem_reverse.mp ha') ha, hkey', hold'⟩

/-! ### Finitely many keys -/

/-- The keys of a name and its qualifiers. -/
def withQualifiers (key : NameKey) : List NameKey :=
  (Dotted.qualifiers key.2).map fun name => (key.1, name)

/-- The keys that are spelled out by a key, by the targets of aliases or by declarations. -/
def spelled (t : Table) (key : NameKey) : List NameKey :=
  withQualifiers key ++
    (t.bindings.flatMap fun e => match e.2 with
      | .sameAs target => withQualifiers target
      | .declared _ => []) ++
    t.entries.flatMap fun d => withQualifiers (d.module, d.qualname)

/-- The last part of a key that has several. -/
def lastPart? (key : NameKey) : Option String := (Dotted.splitLast? key.2).map Prod.snd

/-- Every key that a search for a key can meet: those spelled out, and those of members that
are named as they are. -/
def within (t : Table) (key : NameKey) : List NameKey :=
  t.spelled key ++ t.entries.flatMap fun d => ((t.spelled key).filterMap lastPart?).map (memberKey d)

theorem mem_withQualifiers_self (key : NameKey) : key ∈ withQualifiers key :=
  List.mem_map.mpr ⟨key.2, Dotted.mem_qualifiers_self key.2, rfl⟩

theorem mem_spelled_self (t : Table) (key : NameKey) : key ∈ t.spelled key :=
  List.mem_append_left _ (List.mem_append_left _ (mem_withQualifiers_self key))

theorem target_mem_spelled {target : NameKey} (h : t.binding? k = some (.sameAs target)) :
    target ∈ t.spelled key := by
  obtain ⟨before, later, heq, -⟩ := List.lookup_eq_some_iff.mp h
  refine List.mem_append_left _ (List.mem_append_right _ (List.mem_flatMap.mpr ?_))
  exact ⟨(k, .sameAs target), by simp [heq], mem_withQualifiers_self target⟩

theorem owner_mem_spelled {d : Declaration} (hd : d ∈ t.entries) :
    (d.module, d.qualname) ∈ t.spelled key :=
  List.mem_append_right _ (List.mem_flatMap.mpr ⟨d, hd, mem_withQualifiers_self _⟩)

/-- What is spelled out is so with its qualifiers. -/
theorem head_mem_spelled {head x : String} (hk : k ∈ t.spelled key)
    (hdotted : Dotted.splitLast? k.2 = some (head, x)) : (k.1, head) ∈ t.spelled key := by
  have hinside : ∀ {key' : NameKey}, k ∈ withQualifiers key' →
      (k.1, head) ∈ withQualifiers key' := by
    intro key' hmem
    obtain ⟨name, hname, rfl⟩ := List.mem_map.mp hmem
    obtain rfl := (Dotted.splitLast?_eq_some hdotted).1
    exact List.mem_map.mpr ⟨head, Dotted.mem_qualifiers_of_dotted hname, rfl⟩
  simp only [spelled, List.mem_append, List.mem_flatMap] at hk ⊢
  obtain (hk | ⟨e, he, hk⟩) | ⟨d, hd, hk⟩ := hk
  · exact .inl (.inl (hinside hk))
  · refine .inl (.inr ⟨e, he, ?_⟩)
    split at hk
    · exact hinside hk
    · cases hk
  · exact .inr ⟨d, hd, hinside hk⟩

/-- The steps of a member lookup stay among the keys. -/
theorem member_mem_within {head x : String} (hk : k ∈ t.within key)
    (hdotted : Dotted.splitLast? k.2 = some (head, x)) :
    (k.1, head) ∈ t.spelled key ∧ ∀ d ∈ t.entries, memberKey d x ∈ t.within key := by
  suffices hlast : (k.1, head) ∈ t.spelled key ∧ x ∈ (t.spelled key).filterMap lastPart? from
    ⟨hlast.1, fun d hd => List.mem_append_right _
      (List.mem_flatMap.mpr ⟨d, hd, List.mem_map_of_mem hlast.2⟩)⟩
  obtain hk | hk := List.mem_append.mp hk
  · refine ⟨head_mem_spelled hk hdotted, List.mem_filterMap.mpr ⟨k, hk, ?_⟩⟩
    rw [lastPart?, hdotted]
    rfl
  · obtain ⟨d, hd, hk⟩ := List.mem_flatMap.mp hk
    obtain ⟨x', hx', rfl⟩ := List.mem_map.mp hk
    obtain ⟨k', hk', hlast⟩ := List.mem_filterMap.mp hx'
    obtain ⟨⟨head', x''⟩, hdotted', rfl⟩ := Option.map_eq_some_iff.mp hlast
    have hplain := (Dotted.splitLast?_eq_some hdotted').2
    simp only [memberKey] at hdotted ⊢
    -- a member of the module itself has a name of one part
    by_cases hq : d.qualname = ""
    · rw [hq, Dotted.under_empty, Dotted.splitLast?_eq_none_iff.mpr hplain] at hdotted
      cases hdotted
    · rw [Dotted.under_of_ne_empty hq, Dotted.splitLast?_dotted hplain] at hdotted
      cases hdotted
      exact ⟨owner_mem_spelled hd, hx'⟩

theorem entry_mem {d : Declaration} (h : t.entry? i = some d) : d ∈ t.entries :=
  List.mem_of_getElem? h

theorem Leads.subset (h : t.Leads k trail i) (hk : k ∈ t.within key) : trail ⊆ t.within key := by
  induction h with
  | declared bound => simpa using hk
  | sameAs bound rest ih =>
    exact List.cons_subset.mpr ⟨hk, ih (List.mem_append_left _ (target_mem_spelled bound))⟩
  | submodule unbound plain bound => simpa using hk
  | member unbound dotted first entry rest ih ih' =>
    obtain ⟨hhead, hmember⟩ := member_mem_within hk dotted
    refine List.cons_subset.mpr ⟨hk, List.append_subset.mpr ⟨?_, ?_⟩⟩
    · exact ih (List.mem_append_left _ hhead)
    · exact ih' (hmember _ (entry_mem entry))

/-! ### The depth suffices -/

theorem length_withQualifiers (key : NameKey) :
    (withQualifiers key).length = partCount key.2 := by
  rw [withQualifiers, List.length_map, Dotted.length_qualifiers, partCount]

theorem foldl_add_eq {α : Type} (f : α → Nat) (l : List α) (n : Nat) :
    l.foldl (fun n a => n + f a) n = n + (l.map f).sum := by
  induction l generalizing n with
  | nil => simp
  | cons a l ih => rw [List.foldl_cons, ih, List.map_cons, List.sum_cons, Nat.add_assoc]

theorem length_spelled (t : Table) (key : NameKey) :
    (t.spelled key).length = partCount key.2 +
      t.bindings.foldl (fun n e => match e.2 with
        | .sameAs target => n + partCount target.2
        | .declared _ => n) 0 +
      t.entries.foldl (fun n d => n + partCount d.qualname) 0 := by
  have halias : (fun (n : Nat) (e : NameKey × Binding) => match e.2 with
      | .sameAs target => n + partCount target.2
      | .declared _ => n) = fun n e => n + match e.2 with
        | .sameAs target => partCount target.2
        | .declared _ => 0 := by
    funext n e
    split <;> rfl
  rw [halias, foldl_add_eq, foldl_add_eq, Nat.zero_add, Nat.zero_add, spelled,
    List.length_append, List.length_append, length_withQualifiers, List.length_flatMap,
    List.length_flatMap]
  congr 2
  · congr 2
    funext e
    split
    · exact length_withQualifiers _
    · rfl
  · congr 1
    funext d
    exact length_withQualifiers _

theorem keyBound_eq (t : Table) (key : NameKey) :
    t.keyBound key.2 =
      (t.spelled key).length + t.entries.length * (t.spelled key).length := by
  rw [length_spelled]
  rfl

theorem length_within_le (t : Table) (key : NameKey) :
    (t.within key).length ≤ t.keyBound key.2 := by
  have hlast : ((t.spelled key).filterMap lastPart?).length ≤ (t.spelled key).length :=
    List.length_filterMap_le _ _
  have hmembers : (t.entries.flatMap fun d =>
      ((t.spelled key).filterMap lastPart?).map (memberKey d)).length ≤
        t.entries.length * (t.spelled key).length := by
    rw [List.length_flatMap]
    refine (List.sum_le_card_nsmul _ _ fun n hn => ?_).trans_eq
      (by rw [List.length_map, smul_eq_mul])
    obtain ⟨d, -, rfl⟩ := List.mem_map.mp hn
    rw [List.length_map]
    exact hlast
  rw [within, List.length_append, keyBound_eq]
  omega

theorem Leads.length_le (h : t.Leads key trail i) (hnodup : trail.Nodup) :
    trail.length ≤ t.keyBound key.2 :=
  (List.Nodup.subperm hnodup (h.subset
    (List.mem_append_left _ (t.mem_spelled_self key)))).length_le.trans (t.length_within_le key)

/-! ### What a name denotes -/

/-- The keys that the search for a name meets, the latest first. -/
def met (t : Table) (module name : String) : List NameKey :=
  (t.search (t.keyBound name + 1) (module, name) []).2

theorem resolve?_eq_some_iff {module name : String} :
    t.resolve? module name = some i ↔ ∃ trail, t.Leads (module, name) trail i ∧ trail.Nodup := by
  constructor
  · intro h
    obtain ⟨trail, hleads, hnodup, -, -⟩ :=
      search_eq_some (Prod.ext h rfl : _ = (some i, t.met module name))
    exact ⟨trail, hleads, hnodup⟩
  · rintro ⟨trail, hleads, hnodup⟩
    rw [resolve?, search_of_leads hleads hnodup (List.disjoint_nil_right _)
      (Nat.le_succ_of_le (hleads.length_le hnodup))]

theorem met_of_leads {module name : String} (h : t.Leads (module, name) trail i)
    (hnodup : trail.Nodup) : t.met module name = trail.reverse := by
  rw [met, search_of_leads h hnodup (List.disjoint_nil_right _)
    (Nat.le_succ_of_le (h.length_le hnodup)), List.append_nil]

theorem resolve?_of_declared {module name : String}
    (h : t.binding? (module, name) = some (.declared i)) : t.resolve? module name = some i :=
  resolve?_eq_some_iff.mpr ⟨_, .declared h, List.nodup_singleton _⟩

/-- An alias denotes what its target denotes. -/
theorem resolve?_of_sameAs {module name targetModule targetName : String}
    (h : t.binding? (module, name) = some (.sameAs (targetModule, targetName))) :
    t.resolve? module name = t.resolve? targetModule targetName := by
  ext i
  rw [resolve?_eq_some_iff, resolve?_eq_some_iff]
  constructor
  · rintro ⟨trail, hleads, hnodup⟩
    cases hleads with
    | sameAs bound rest =>
      rw [h] at bound
      cases bound
      exact ⟨_, rest, hnodup.of_cons⟩
    | _ => simp_all
  · rintro ⟨trail, hleads, hnodup⟩
    -- the alias is not met again: from there its target would lead on a longer way
    have halias := Leads.sameAs h hleads
    exact ⟨_, halias, List.nodup_cons.mpr
      ⟨hleads.not_mem_of_length_lt halias (by simp), hnodup⟩⟩

theorem resolve?_submodule {module name : String} (hunbound : t.binding? (module, name) = none)
    (hplain : '.' ∉ name.toList) :
    t.resolve? module name = some i ↔
      t.binding? (submoduleKey (module, name)) = some (.declared i) := by
  have hsplit := Dotted.splitLast?_eq_none_iff.mpr hplain
  rw [resolve?_eq_some_iff]
  constructor
  · rintro ⟨trail, hleads, -⟩
    cases hleads with
    | submodule unbound plain bound => exact bound
    | _ => simp_all
  · exact fun hbound => ⟨_, .submodule hunbound hsplit hbound, List.nodup_singleton _⟩

/-- An unbound member is looked up under the name it has in its owner, and found there as long as
the way to it meets no key that was met on the way to the owner. -/
theorem resolve?_member {module head x : String} (hx : '.' ∉ x.toList)
    (hunbound : t.binding? (module, head ++ "." ++ x) = none) :
    t.resolve? module (head ++ "." ++ x) = some j ↔
      ∃ i owner, t.resolve? module head = some i ∧ t.entry? i = some owner ∧
        t.resolve? owner.module (Dotted.under owner.qualname x) = some j ∧
        (t.met module head).Disjoint (t.met owner.module (Dotted.under owner.qualname x)) := by
  have hsplit : Dotted.splitLast? (module, head ++ "." ++ x).2 = some (head, x) :=
    Dotted.splitLast?_dotted hx head
  constructor
  · intro h
    obtain ⟨trail, hleads, hnodup⟩ := resolve?_eq_some_iff.mp h
    cases hleads with
    | member unbound dotted first entry rest =>
      rw [hsplit] at dotted
      cases dotted
      rw [List.nodup_cons, List.nodup_append'] at hnodup
      obtain ⟨-, hnodup, hnodup', hapart⟩ := hnodup
      refine ⟨_, _, resolve?_eq_some_iff.mpr ⟨_, first, hnodup⟩, entry,
        resolve?_eq_some_iff.mpr ⟨_, rest, hnodup'⟩, ?_⟩
      rw [met_of_leads first hnodup, met_of_leads rest hnodup']
      exact fun a ha ha' => hapart (List.mem_reverse.mp ha) (List.mem_reverse.mp ha')
    | _ => simp_all
  · rintro ⟨i, owner, hhead, hentry, hmember, hapart⟩
    obtain ⟨trail, hfirst, hnodup⟩ := resolve?_eq_some_iff.mp hhead
    obtain ⟨trail', hrest, hnodup'⟩ := resolve?_eq_some_iff.mp hmember
    rw [met_of_leads hfirst hnodup, met_of_leads hrest hnodup'] at hapart
    have hwhole := Leads.member hunbound hsplit hfirst hentry hrest
    have hlonger : trail.length < ((module, head ++ "." ++ x) :: (trail ++ trail')).length := by
      simp
    -- neither way meets the key itself, from which it is longer than each of them
    have hkey := hfirst.not_mem_of_length_lt hwhole hlonger
    have hkey' := hrest.not_mem_of_length_lt hwhole (by simp)
    refine resolve?_eq_some_iff.mpr ⟨_, hwhole, List.nodup_cons.mpr ⟨by simp [hkey, hkey'], ?_⟩⟩
    exact hnodup.append hnodup' fun a ha ha' =>
      hapart (List.mem_reverse.mpr ha) (List.mem_reverse.mpr ha')

/-! ### In tables that declarations and aliases build -/

theorem Coherent.entry_of_binding? (h : t.Coherent) (hk : t.binding? k = some (.declared i)) :
    ∃ d, t.get i = .ok d ∧ t.entry? i = some d ∧ d.identity = i ∧ (d.module, d.qualname) = k := by
  obtain ⟨d, hd, rfl, hname⟩ := h.bound k i hk
  obtain ⟨n, hn, rfl⟩ := List.getElem_of_mem hd
  have hentry : t.entry? t.entries[n].identity = some t.entries[n] := by
    unfold entry?
    rw [h.numbered n hn, Int.toNat_natCast, List.getElem?_eq_getElem hn]
  refine ⟨_, ?_, hentry, rfl, hname⟩
  rw [get, h.numbered.isLive hd, if_pos rfl, hentry]

/-- Every way ends at the name of a declaration that is bound to it. -/
theorem Leads.exists_bound (h : t.Leads key trail i) : ∃ k, t.binding? k = some (.declared i) := by
  induction h with
  | declared bound => exact ⟨_, bound⟩
  | sameAs bound rest ih => exact ih
  | submodule unbound plain bound => exact ⟨_, bound⟩
  | member unbound dotted first entry rest ih ih' => exact ih'

/-- What a name denotes is a declaration of the table, whose own name is bound to it. -/
theorem Coherent.entry_of_resolve? (h : t.Coherent) {module name : String}
    (hname : t.resolve? module name = some i) :
    ∃ d, t.get i = .ok d ∧ t.entry? i = some d ∧ d.identity = i ∧
      t.binding? (d.module, d.qualname) = some (.declared i) := by
  obtain ⟨trail, hleads, -⟩ := resolve?_eq_some_iff.mp hname
  obtain ⟨k, hk⟩ := hleads.exists_bound
  obtain ⟨d, hget, hentry, hid, rfl⟩ := h.entry_of_binding? hk
  exact ⟨d, hget, hentry, hid, hk⟩

end Table

end Marginalia
