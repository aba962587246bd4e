/-
The identities that a table has issued.

An identity is live in a table when it carries the table's token and a place that the
table has filled.  Entries are added at the end and never taken away, so that

* `Table.declare_cases` — a declaration either adds a site to an entry that is there or
  adds one entry, at the next free place;
* `Table.Numbered` — each entry carries the identity of its own place, which every
  declaration keeps (`Table.declare_numbered`);
* `Table.Grows.isLive` — an identity that was live once stays live.
-/
import Mathlib.Tactic
import Marginalia.Declaration

namespace Marginalia

namespace Declaration

@[simp] theorem addSite_identity (d : Declaration) (l : Location) :
    (d.addSite l).identity = d.identity := by
  unfold addSite
  split <;> rfl

end Declaration

namespace Table

variable {t t' t'' : Table} {i : Identity}

theorem isLive_iff :
    t.isLive i = true ↔ i.table = t.token ∧ 0 ≤ i.index ∧ i.index < t.entries.length := by
  simp [isLive, and_assoc]

theorem get_of_isLive (h : t.isLive i = true) : ∃ d, t.get i = .ok d := by
  obtain ⟨-, hlow, hhigh⟩ := isLive_iff.mp h
  have hplace : i.index.toNat < t.entries.length := by omega
  refine ⟨t.entries[i.index.toNat], ?_⟩
  rw [get, if_pos h, entry?, List.getElem?_eq_getElem hplace]

theorem get_of_not_isLive (h : t.isLive i = false) : t.get i = .error ⟨.notLive i, none⟩ := by
  rw [get, h]
  rfl

/-- What begins by asking for a declaration goes on only while its identity is live. -/
theorem get_bind {α : Type} (t : Table) (i : Identity) (x : Except AnnotationError α) :
    (t.get i >>= fun _ => x) = if t.isLive i then x else .error ⟨.notLive i, none⟩ := by
  cases hlive : t.isLive i with
  | true =>
    obtain ⟨d, hd⟩ := get_of_isLive hlive
    rw [hd]
    rfl
  | false =>
    rw [get_of_not_isLive hlive]
    rfl

/-! ### What declaring and naming do to a table -/

section Steps

variable (t : Table) (kind : Kind) (module qualname : String) (site : Location)

@[simp] theorem declare_token : (t.declare kind module qualname site).1.token = t.token := by
  unfold declare
  split <;> rfl

/-- A declaration meets an entry of its kind and name, or adds one at the end. -/
theorem declare_cases :
    (∃ d ∈ t.entries, (t.declare kind module qualname site).2 = d.identity ∧
      (t.declare kind module qualname site).1.entries =
        t.entries.map fun e => if e.hasKey kind module qualname then e.addSite site else e) ∨
    ((t.declare kind module qualname site).2 = ⟨t.token, t.entries.length⟩ ∧
      (t.declare kind module qualname site).1.entries = t.entries ++
        [⟨⟨t.token, t.entries.length⟩, kind, module, qualname, site, []⟩]) := by
  unfold declare
  split
  · rename_i d hfound
    exact .inl ⟨d, List.mem_of_find?_eq_some hfound, rfl, rfl⟩
  · exact .inr ⟨rfl, rfl⟩

end Steps

/-! ### Every entry carries its own place -/

/-- The identity of an entry is the table's token and the entry's place. -/
def Numbered (t : Table) : Prop :=
  ∀ (n : Nat) (h : n < t.entries.length), t.entries[n].identity = ⟨t.token, n⟩

theorem numbered_empty (token : Int) : Numbered { token } := by
  intro n h
  exact absurd h (Nat.not_lt_zero n)

theorem Numbered.isLive (h : t.Numbered) {d : Declaration} (hd : d ∈ t.entries) :
    t.isLive d.identity = true := by
  obtain ⟨n, hn, rfl⟩ := List.getElem_of_mem hd
  rw [h n hn, isLive_iff]
  exact ⟨rfl, Int.natCast_nonneg n, Int.ofNat_lt.mpr hn⟩

theorem addAlias_numbered (h : t.Numbered) (module name target name' : String) :
    (t.addAlias module name target name').Numbered := h

theorem declare_numbered (h : t.Numbered) (kind : Kind) (module qualname : String)
    (site : Location) : (t.declare kind module qualname site).1.Numbered := by
  intro n hn
  rw [declare_token]
  obtain ⟨-, -, -, hentries⟩ | ⟨-, hentries⟩ := t.declare_cases kind module qualname site
  · simp only [hentries, List.getElem_map]
    rw [hentries, List.length_map] at hn
    split
    · rw [Declaration.addSite_identity]
      exact h n hn
    · exact h n hn
  · simp only [hentries]
    rw [hentries, List.length_append, List.length_singleton] at hn
    -- the entries that were there keep their places, and the new one takes the place it was
    -- numbered with
    rcases Nat.lt_succ_iff_lt_or_eq.mp hn with hold | rfl
    · rw [List.getElem_append_left hold]
      exact h n hold
    · simp

/-! ### Tables only grow -/

/-- A later state of a table: the token is the same and no entry is lost. -/
def Grows (t t' : Table) : Prop :=
  t'.token = t.token ∧ t.entries.length ≤ t'.entries.length

theorem Grows.refl (t : Table) : t.Grows t := ⟨rfl, Nat.le_refl _⟩

theorem Grows.trans (h : t.Grows t') (h' : t'.Grows t'') : t.Grows t'' :=
  ⟨h'.1.trans h.1, h.2.trans h'.2⟩

theorem Grows.isLive (h : t.Grows t') (hi : t.isLive i = true) : t'.isLive i = true := by
  obtain ⟨htoken, hlow, hhigh⟩ := isLive_iff.mp hi
  refine isLive_iff.mpr ⟨htoken.trans h.1.symm, hlow, ?_⟩
  have := h.2
  omega

theorem grows_addAlias (t : Table) (module name target name' : String) :
    t.Grows (t.addAlias module name target name') := ⟨rfl, Nat.le_refl _⟩

theorem grows_declare (t : Table) (kind : Kind) (module qualname : String) (site : Location) :
    t.Grows (t.declare kind module qualname site).1 := by
  refine ⟨declare_token .., ?_⟩
  obtain ⟨-, -, -, hentries⟩ | ⟨-, hentries⟩ := t.declare_cases kind module qualname site
  · rw [hentries, List.length_map]
  · rw [hentries, List.length_append]
    exact Nat.le_add_right _ _

/-- What a declaration answers is live from then on. -/
theorem declare_isLive (h : t.Numbered) (kind : Kind) (module qualname : String)
    (site : Location) :
    (t.declare kind module qualname site).1.isLive (t.declare kind module qualname site).2 =
      true := by
  obtain ⟨d, hd, hid, -⟩ | ⟨hid, hentries⟩ := t.declare_cases kind module qualname site
  · rw [hid]
    exact (t.grows_declare kind module qualname site).isLive (h.isLive hd)
  · rw [hid, isLive_iff, declare_token, hentries]
    simp

end Table

end Marginalia
