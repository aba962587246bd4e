/-
Members of members.

A path of members starts from a declaration: the first part is looked up in it, and each further
part in what the parts before it denote (`Table.memberOf?`).  A dotted name spells such a path
behind the name of a declaration.  When nothing is bound under the names that the path has behind
that name, the dotted name is searched for in the same way, part by part.  Only the keys that were
met are remembered from one part to the next, so what the path leads to is found exactly if no two
of the lookups meet the same key.

* `Dotted.behind`, `keysBehind` — a name with parts behind it, and the keys of the names on the way;
* `Table.met_behind` — the keys that the search for such a name meets;
* `Table.resolve?_behind` — what it finds.
-/
import Marginalia.Proofs.NameSearch

namespace Marginalia

namespace Dotted

/-- A name with parts behind it. -/
def behind (name : String) (xs : List String) : String :=
  xs.foldl (fun head x => head ++ "." ++ x) name

@[simp] theorem behind_nil (name : String) : behind name [] = name := rfl

theorem behind_concat (name : String) (xs : List String) (x : String) :
    behind name (xs ++ [x]) = behind name xs ++ "." ++ x := by
  rw [behind, List.foldl_append]
  rfl

theorem behind_append (name : String) (xs ys : List String) :
    behind name (xs ++ ys) = behind (behind name xs) ys := by
  rw [behind, List.foldl_append]
  rfl

end Dotted

/-- The keys of a name with one part behind it, with two parts, and so on. -/
def keysBehind (module : String) : String → List String → List NameKey
  | _, [] => []
  | name, x :: xs => (module, name ++ "." ++ x) :: keysBehind module (name ++ "." ++ x) xs

theorem keysBehind_concat (module name : String) (xs : List String) (x : String) :
    keysBehind module name (xs ++ [x]) =
      keysBehind module name xs ++ [(module, Dotted.behind name (xs ++ [x]))] := by
  induction xs generalizing name with
  | nil => rfl
  | cons y xs ih =>
    rw [List.cons_append, keysBehind, keysBehind, ih]
    rfl

namespace Table

/-- What a part denotes as a member of a declaration. -/
def member? (t : Table) (i : Identity) (x : String) : Option Identity :=
  (t.entry? i).bind fun owner => t.resolve? owner.module (Dotted.under owner.qualname x)

/-- The keys that the lookup of a member meets. -/
def memberMet (t : Table) (i : Identity) (x : String) : List NameKey :=
  match t.entry? i with
  | some owner => t.met owner.module (Dotted.under owner.qualname x)
  | none => []

/-- What a path of members leads to from a declaration. -/
def memberOf? (t : Table) (i : Identity) (xs : List String) : Option Identity :=
  xs.foldlM t.member? i

/-- The keys that each of the lookups along a path of members meets. -/
def membersMet (t : Table) : Identity → List String → List (List NameKey)
  | _, [] => []
  | i, x :: xs =>
    t.memberMet i x :: match t.member? i x with
      | some j => t.membersMet j xs
      | none => []

variable {t : Table} {module name : String} {i j : Identity} {xs : List String}

/-! ### Paths of members -/

@[simp] theorem memberOf?_nil (t : Table) (i : Identity) : t.memberOf? i [] = some i := rfl

theorem memberOf?_cons (t : Table) (i : Identity) (x : String) (xs : List String) :
    t.memberOf? i (x :: xs) = (t.member? i x).bind fun j => t.memberOf? j xs := by
  rw [memberOf?, List.foldlM_cons]
  rfl

theorem memberOf?_concat (t : Table) (i : Identity) (xs : List String) (x : String) :
    t.memberOf? i (xs ++ [x]) = (t.memberOf? i xs).bind fun j => t.member? j x := by
  rw [memberOf?, List.foldlM_append]
  simp [memberOf?]

theorem membersMet_concat (h : t.memberOf? i xs = some j) (x : String) :
    t.membersMet i (xs ++ [x]) = t.membersMet i xs ++ [t.memberMet j x] := by
  induction xs generalizing i with
  | nil =>
    rw [memberOf?_nil] at h
    cases h
    rw [List.nil_append, membersMet, membersMet, List.nil_append]
    cases t.member? j x <;> rfl
  | cons y xs ih =>
    rw [memberOf?_cons, Option.bind_eq_some_iff] at h
    obtain ⟨k, hk, hrest⟩ := h
    rw [List.cons_append, membersMet, membersMet, hk]
    dsimp only
    rw [ih hrest, List.cons_append]

theorem member?_eq_some_iff {x : String} :
    t.member? i x = some j ↔
      ∃ owner, t.entry? i = some owner ∧
        t.resolve? owner.module (Dotted.under owner.qualname x) = some j :=
  Option.bind_eq_some_iff

theorem memberMet_of_entry {owner : Declaration} (h : t.entry? i = some owner) (x : String) :
    t.memberMet i x = t.met owner.module (Dotted.under owner.qualname x) := by
  rw [memberMet, h]

/-! ### The search for a name with parts behind it -/

/-- An unbound member is searched for in its owner: the keys that this meets come in front of
those met on the way to the owner, and its own key is the first of all. -/
theorem met_member {head x : String} (hx : '.' ∉ x.toList)
    (hunbound : t.binding? (module, head ++ "." ++ x) = none)
    (hhead : t.resolve? module head = some i)
    (hname : t.resolve? module (head ++ "." ++ x) = some j) :
    t.met module (head ++ "." ++ x) =
      t.memberMet i x ++ t.met module head ++ [(module, head ++ "." ++ x)] := by
  have hsplit : Dotted.splitLast? (module, head ++ "." ++ x).2 = some (head, x) :=
    Dotted.splitLast?_dotted hx head
  obtain ⟨trail₀, hleads₀, hnodup₀⟩ := resolve?_eq_some_iff.mp hhead
  obtain ⟨trail, hleads, hnodup⟩ := resolve?_eq_some_iff.mp hname
  rw [met_of_leads hleads hnodup, met_of_leads hleads₀ hnodup₀]
  cases hleads with
  | member unbound dotted first entry rest =>
    rw [hsplit] at dotted
    cases dotted
    obtain ⟨rfl, rfl⟩ := hleads₀.unique first
    rw [List.nodup_cons, List.nodup_append'] at hnodup
    obtain ⟨-, -, hnodup', -⟩ := hnodup
    rw [memberMet_of_entry entry, met_of_leads rest hnodup']
    simp
  | _ => simp_all

theorem Leads.key_mem {k : NameKey} {trail : List NameKey} (h : t.Leads k trail i) : k ∈ trail := by
  cases h <;> exact List.mem_cons_self

/-- Where nothing is bound behind a name, the way of a name behind it leads over the name. -/
theorem Leads.over_name {k : NameKey} {trail : List NameKey} (hplain : ∀ x ∈ xs, '.' ∉ x.toList)
    (hfree : ∀ k ∈ keysBehind module name xs, t.binding? k = none)
    (hk : k ∈ keysBehind module name xs) (h : t.Leads k trail i) : (module, name) ∈ trail := by
  induction xs generalizing name with
  | nil => cases hk
  | cons x xs ih =>
    have hunbound := hfree _ List.mem_cons_self
    have hsplit : Dotted.splitLast? (module, name ++ "." ++ x).2 = some (name, x) :=
      Dotted.splitLast?_dotted (hplain x List.mem_cons_self) name
    have hnext : ∀ {trail j}, t.Leads (module, name ++ "." ++ x) trail j →
        (module, name) ∈ trail := by
      intro trail j hj
      cases hj with
      | member unbound dotted first entry rest =>
        rw [hsplit] at dotted
        cases dotted
        have hhead := first.key_mem
        simp [hhead]
      | _ => simp_all
    rcases List.mem_cons.mp hk with rfl | hk
    · exact hnext h
    · have hover := ih (fun y hy => hplain y (List.mem_cons_of_mem x hy))
        (fun k hk => hfree k (List.mem_cons_of_mem _ hk)) hk
      obtain ⟨trail', j, hj, hpart⟩ := h.of_mem hover
      exact hpart.subset (hnext hj)

/-- The search for a name with parts behind it meets what the lookups meet, the latest one first,
and the keys of the names on the way. -/
theorem met_behind (hplain : ∀ x ∈ xs, '.' ∉ x.toList)
    (hfree : ∀ k ∈ keysBehind module name xs, t.binding? k = none)
    (hname : t.resolve? module name = some i)
    (h : t.resolve? module (Dotted.behind name xs) = some j) :
    t.memberOf? i xs = some j ∧
      t.met module (Dotted.behind name xs) =
        (t.met module name :: t.membersMet i xs).reverse.flatten ++ keysBehind module name xs := by
  induction xs using List.reverseRecOn generalizing j with
  | nil =>
    rw [Dotted.behind_nil, hname] at h
    cases h
    simp [membersMet, keysBehind]
  | append_singleton xs x ih =>
    rw [keysBehind_concat] at hfree
    have hx := hplain x (by simp)
    have hunbound := hfree _ (List.mem_append_right _ List.mem_cons_self)
    rw [Dotted.behind_concat] at h hunbound
    obtain ⟨o, owner, hhead, hentry, hrest, -⟩ := (resolve?_member hx hunbound).mp h
    obtain ⟨hpath, hmet⟩ := ih (fun y hy => hplain y (List.mem_append_left _ hy))
      (fun k hk => hfree k (List.mem_append_left _ hk)) hhead
    constructor
    · rw [memberOf?_concat, hpath]
      exact member?_eq_some_iff.mpr ⟨owner, hentry, hrest⟩
    · rw [keysBehind_concat, membersMet_concat hpath, Dotted.behind_concat,
        met_member hx hunbound hhead h, hmet]
      simp

/-- **Members of members.**  When nothing is bound behind a name along a path of members, then the
name with the path behind it denotes what the path leads to from the declaration of the name, and
is found exactly if the lookup of the name and those of the members meet no key twice. -/
theorem resolve?_behind (hplain : ∀ x ∈ xs, '.' ∉ x.toList)
    (hfree : ∀ k ∈ keysBehind module name xs, t.binding? k = none) :
    t.resolve? module (Dotted.behind name xs) = some j ↔
      ∃ i, t.resolve? module name = some i ∧ t.memberOf? i xs = some j ∧
        (t.met module name :: t.membersMet i xs).Pairwise List.Disjoint := by
  induction xs using List.reverseRecOn generalizing j with
  | nil => simp [membersMet]
  | append_singleton xs x ih =>
    have hx := hplain x (by simp)
    have hplain' : ∀ y ∈ xs, '.' ∉ y.toList := fun y hy => hplain y (List.mem_append_left _ hy)
    rw [keysBehind_concat] at hfree
    have hfree' : ∀ k ∈ keysBehind module name xs, t.binding? k = none :=
      fun k hk => hfree k (List.mem_append_left _ hk)
    have hunbound := hfree _ (List.mem_append_right _ List.mem_cons_self)
    rw [Dotted.behind_concat] at hunbound ⊢
    -- the last part is a member of what the parts in front of it denote
    rw [resolve?_member hx hunbound]
    constructor
    · rintro ⟨o, owner, hhead, hentry, hrest, hapart⟩
      obtain ⟨i, hname, hpath, hpairwise⟩ := (ih hplain' hfree').mp hhead
      obtain ⟨-, hmet⟩ := met_behind hplain' hfree' hname hhead
      rw [← memberMet_of_entry hentry, hmet] at hapart
      refine ⟨i, hname, ?_, ?_⟩
      · rw [memberOf?_concat, hpath]
        exact member?_eq_some_iff.mpr ⟨owner, hentry, hrest⟩
      · rw [membersMet_concat hpath, ← List.cons_append, List.pairwise_append]
        refine ⟨hpairwise, List.pairwise_singleton _ _, ?_⟩
        intro l hl l' hl' k hk hk'
        rw [List.mem_singleton] at hl'
        subst hl'
        have hmem : k ∈ (t.met module name :: t.membersMet i xs).reverse.flatten :=
          List.mem_flatten.mpr ⟨l, List.mem_reverse.mpr hl, hk⟩
        exact hapart (List.mem_append_left _ hmem) hk'
    · rintro ⟨i, hname, hpath, hpairwise⟩
      rw [memberOf?_concat, Option.bind_eq_some_iff] at hpath
      obtain ⟨o, hpath, hmember⟩ := hpath
      rw [membersMet_concat hpath, ← List.cons_append, List.pairwise_append] at hpairwise
      obtain ⟨hpairwise, -, hapart⟩ := hpairwise
      have hhead := (ih hplain' hfree').mpr ⟨i, hname, hpath, hpairwise⟩
      obtain ⟨owner, hentry, hrest⟩ := member?_eq_some_iff.mp hmember
      obtain ⟨-, hmet⟩ := met_behind hplain' hfree' hname hhead
      have hlast : (t.met module name).Disjoint (t.memberMet o x) :=
        hapart _ List.mem_cons_self _ List.mem_cons_self
      refine ⟨o, owner, hhead, hentry, hrest, ?_⟩
      rw [← memberMet_of_entry hentry, hmet]
      intro k hk hk'
      rcases List.mem_append.mp hk with hk | hk
      · obtain ⟨l, hl, hkl⟩ := List.mem_flatten.mp hk
        exact hapart l (List.mem_reverse.mp hl) _ List.mem_cons_self hkl hk'
      · -- where the last lookup meets a name on the way, it goes on to the name itself
        obtain ⟨trail, hleads, hnodup⟩ := resolve?_eq_some_iff.mp hrest
        obtain ⟨trail₀, hleads₀, hnodup₀⟩ := resolve?_eq_some_iff.mp hname
        rw [memberMet_of_entry hentry, met_of_leads hleads hnodup] at hk' hlast
        rw [met_of_leads hleads₀ hnodup₀] at hlast
        obtain ⟨trail', j', hleads', hpart⟩ := hleads.of_mem (List.mem_reverse.mp hk')
        have hover := hpart.subset (hleads'.over_name hplain' hfree' hk)
        exact hlast (List.mem_reverse.mpr hleads₀.key_mem) (List.mem_reverse.mpr hover)

end Table

end Marginalia
