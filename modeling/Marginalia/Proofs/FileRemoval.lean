/-
A project without one of its files.

When a file that is listed is taken out of a tree, the others are listed as before: the listing
loses this one file and keeps its order.

* `Path.before_trans`, `Path.before_total`, `Path.before_antisymm` — paths are ordered;
* `Node.without` — a tree without what stands under a path;
* `Node.filesOfAll_without` — what is found in it;
* `Node.nodup_filesOfAll` — each path is found once;
* `Node.sources_without` — what is listed before and behind a file is listed without it.
-/
import Mathlib.Data.List.Sort
import Mathlib.Data.String.Basic
import Marginalia.Proofs.ProjectTree

namespace Marginalia

/-! ### The order of paths -/

namespace Path

theorem before_cons (n m : String) (p q : Path) :
    Path.before (n :: p) (m :: q) = true ↔ n < m ∨ n = m ∧ p.before q = true := by
  rw [before]
  by_cases h : n = m
  · simp [h]
  · simp [h]

theorem before_total : ∀ p q : Path, (p.before q || q.before p) = true
  | [], _ => by simp [before]
  | _ :: _, [] => by simp [before]
  | n :: p, m :: q => by
    have ih := before_total p q
    rw [Bool.or_eq_true] at ih ⊢
    rw [before_cons, before_cons]
    obtain h | rfl | h := lt_trichotomy n m
    · exact .inl (.inl h)
    · exact ih.imp (fun h => .inr ⟨rfl, h⟩) fun h => .inr ⟨rfl, h⟩
    · exact .inr (.inl h)

theorem before_trans : ∀ {p q r : Path}, p.before q = true → q.before r = true →
    p.before r = true
  | [], _, _, _, _ => by simp [before]
  | _ :: _, [], _, h, _ => by simp [before] at h
  | _ :: _, _ :: _, [], _, h => by simp [before] at h
  | n :: p, m :: q, k :: r, h, h' => by
    rw [before_cons] at h h' ⊢
    obtain h | ⟨rfl, h⟩ := h
    · obtain h' | ⟨rfl, -⟩ := h'
      · exact .inl (h.trans h')
      · exact .inl h
    · exact h'.imp id fun h' => ⟨h'.1, before_trans h h'.2⟩

theorem before_antisymm : ∀ {p q : Path}, p.before q = true → q.before p = true → p = q
  | [], [], _, _ => rfl
  | [], _ :: _, _, h => by simp [before] at h
  | _ :: _, [], h, _ => by simp [before] at h
  | n :: p, m :: q, h, h' => by
    rw [before_cons] at h h'
    obtain h | ⟨rfl, h⟩ := h
    · obtain h' | ⟨rfl, -⟩ := h'
      · exact absurd h' h.asymm
      · exact absurd h (lt_irrefl _)
    · obtain h' | ⟨-, h'⟩ := h'
      · exact absurd h' (lt_irrefl _)
      · rw [before_antisymm h h']

end Path

/-! ### Taking a file out -/

namespace Node

/-- A tree without what stands under a path. -/
def without : Path → Node → Node
  | name :: rest, folder es => folder (es.flatMap fun e =>
      if e.1 != name then [e] else if rest.isEmpty then [] else [(name, without rest e.2)])
  | _, n => n

variable {suffix : String} {skip : Skip}

mutual

/-- What is found under a name has it behind the folder. -/
theorem path_of_mem_filesOf {at_ : Path} {name : String} : ∀ {n : Node} {e : Path × FileContent},
    e ∈ filesOf suffix skip at_ name n → ∃ rest, e.1 = at_ ++ name :: rest
  | file content, e, h => by
    rw [filesOf] at h
    split_ifs at h
    · cases h
    · rw [List.mem_singleton.mp h]
      exact ⟨[], rfl⟩
  | folder es, e, h => by
    rw [filesOf] at h
    split_ifs at h
    · cases h
    · obtain ⟨m, -, rest, hrest⟩ := path_of_mem_filesOfAll h
      exact ⟨m :: rest, by rw [hrest, List.append_assoc]; rfl⟩

theorem path_of_mem_filesOfAll {at_ : Path} :
    ∀ {es : List (String × Node)} {e : Path × FileContent}, e ∈ filesOfAll suffix skip at_ es →
      ∃ m ∈ es.map Prod.fst, ∃ rest, e.1 = at_ ++ m :: rest
  | [], e, h => by
    rw [filesOfAll] at h
    cases h
  | (m, n) :: es, e, h => by
    rw [filesOfAll] at h
    obtain h | h := List.mem_append.mp h
    · exact ⟨m, List.mem_cons_self, path_of_mem_filesOf h⟩
    · obtain ⟨m', hm', hrest⟩ := path_of_mem_filesOfAll h
      exact ⟨m', List.mem_cons_of_mem _ hm', hrest⟩

end

mutual

/-- Each path is found once. -/
theorem nodup_filesOf {at_ : Path} {name : String} :
    ∀ n : Node, n.Named → ((filesOf suffix skip at_ name n).map Prod.fst).Nodup
  | file content, _ => by
    rw [filesOf]
    split_ifs <;> simp
  | folder es, h => by
    rw [filesOf]
    split_ifs
    · simp
    · exact nodup_filesOfAll es h.1 h.2

theorem nodup_filesOfAll {at_ : Path} : ∀ es : List (String × Node), (es.map Prod.fst).Nodup →
    AllNamed es → ((filesOfAll suffix skip at_ es).map Prod.fst).Nodup
  | [], _, _ => by simp [filesOfAll]
  | (name, n) :: es, hnodup, hnamed => by
    rw [List.map_cons, List.nodup_cons] at hnodup
    rw [filesOfAll, List.map_append, List.nodup_append]
    refine ⟨nodup_filesOf n hnamed.2.1, nodup_filesOfAll es hnodup.2 hnamed.2.2, ?_⟩
    -- the path of a file tells under which entry it was found
    rintro p hp q hq rfl
    obtain ⟨e, he, rfl⟩ := List.mem_map.mp hp
    obtain ⟨e', he', heq⟩ := List.mem_map.mp hq
    obtain ⟨rest, hrest⟩ := path_of_mem_filesOf he
    obtain ⟨m, hm, rest', hrest'⟩ := path_of_mem_filesOfAll he'
    rw [heq, hrest, List.append_cancel_left_eq, List.cons.injEq] at hrest'
    exact hnodup.1 (hrest'.1 ▸ hm)

end

theorem filesOfAll_eq (at_ : Path) (es : List (String × Node)) :
    filesOfAll suffix skip at_ es = es.flatMap fun e => filesOf suffix skip at_ e.1 e.2 := by
  induction es with
  | nil => rfl
  | cons e es ih => rw [filesOfAll, ih, List.flatMap_cons]

variable {at_ : Path} {name : String} {rest : Path} {n : Node} {es : List (String × Node)}
  {content : FileContent}

/-- Below another entry, nothing is found under a path. -/
theorem filter_filesOf_of_ne {m : String} (h : m ≠ name) :
    (filesOf suffix skip at_ m n).filter (fun e => e.1 != at_ ++ name :: rest) =
      filesOf suffix skip at_ m n := by
  rw [List.filter_eq_self]
  intro e he
  obtain ⟨rest', hrest⟩ := path_of_mem_filesOf he
  rw [hrest, bne_iff_ne, ne_eq, List.append_cancel_left_eq, List.cons.injEq]
  exact fun heq => h heq.1

/-- A file is all that is found under its name. -/
theorem filter_filesOf_self (h : (at_ ++ [name], content) ∈ filesOf suffix skip at_ name n) :
    (filesOf suffix skip at_ name n).filter (fun e => e.1 != at_ ++ [name]) = [] := by
  cases n with
  | file c =>
    rw [filesOf]
    split_ifs <;> simp
  | folder inner =>
    rw [filesOf] at h
    split_ifs at h
    · cases h
    · obtain ⟨m, -, rest, hrest⟩ := path_of_mem_filesOfAll h
      simp at hrest

/-- What is found under a path is found below the entry of its first name. -/
theorem mem_filesOf_of_mem (hnodup : (es.map Prod.fst).Nodup) (hn : (name, n) ∈ es)
    (h : (at_ ++ name :: rest, content) ∈ filesOfAll suffix skip at_ es) :
    (at_ ++ name :: rest, content) ∈ filesOf suffix skip at_ name n := by
  rw [filesOfAll_eq] at h
  obtain ⟨⟨m, k⟩, hmem, hk⟩ := List.mem_flatMap.mp h
  obtain ⟨rest', hrest⟩ := path_of_mem_filesOf hk
  rw [List.append_cancel_left_eq, List.cons.injEq] at hrest
  obtain ⟨rfl, -⟩ := hrest
  cases List.inj_on_of_nodup_map hnodup hmem hn rfl
  exact hk

theorem without_folder (p : Path) (es : List (String × Node)) :
    without p (folder es) = folder (without p (folder es)).entries := by
  cases p <;> rfl

/-- Without a file, the others are found as before. -/
theorem filesOfAll_without {p : Path} (hp : p ≠ []) (hnodup : (es.map Prod.fst).Nodup)
    (hnamed : AllNamed es) (h : (at_ ++ p, content) ∈ filesOfAll suffix skip at_ es) :
    filesOfAll suffix skip at_ (without p (folder es)).entries =
      (filesOfAll suffix skip at_ es).filter fun e => e.1 != at_ ++ p := by
  induction p generalizing at_ es with
  | nil => exact absurd rfl hp
  | cons name rest ih =>
    rw [without, entries, filesOfAll_eq, filesOfAll_eq, List.flatMap_assoc, List.filter_flatMap]
    refine List.flatMap_congr fun e he => ?_
    obtain ⟨m, n⟩ := e
    by_cases hm : m = name
    · subst hm
      have hfound := mem_filesOf_of_mem hnodup he h
      rw [if_neg (by simp)]
      cases rest with
      | nil =>
        rw [if_pos List.isEmpty_nil, List.flatMap_nil]
        exact (filter_filesOf_self hfound).symm
      | cons r rest =>
        rw [if_neg (by simp), List.flatMap_singleton]
        cases n with
        | file c =>
          rw [filesOf] at hfound
          split_ifs at hfound <;> simp at hfound
        | folder inner =>
          obtain ⟨-, hnodup', hnamed'⟩ := allNamed_iff.mp hnamed _ he
          rw [without_folder, filesOf, filesOf]
          rw [filesOf] at hfound
          split_ifs at hfound ⊢
          · cases hfound
          · rw [List.append_cons at_ m (r :: rest)] at hfound ⊢
            exact ih (List.cons_ne_nil r rest) hnodup' hnamed' hfound
    · rw [if_pos (bne_iff_ne.mpr hm), List.flatMap_singleton]
      exact (filter_filesOf_of_ne hm).symm

/-! ### Listing -/

variable {tree : Node} {p : Path}

theorem nodup_sources (htree : tree.Named) :
    ((tree.sources suffix skip).map Prod.fst).Nodup := by
  have hperm := (List.mergeSort_perm (filesOfAll suffix skip [] tree.entries)
    fun a b => Path.before a.1 b.1).map Prod.fst
  rw [sources, hperm.nodup_iff]
  cases tree with
  | file c => simp [entries, filesOfAll]
  | folder es => exact nodup_filesOfAll es htree.1 htree.2

/-- Sorted files stand in the order of their paths. -/
theorem pairwise_mergeSort_before (fs : List (Path × FileContent)) :
    (fs.mergeSort fun a b => a.1.before b.1).Pairwise fun a b => a.1.before b.1 = true := by
  have htrans : ∀ a b c : Path × FileContent, a.1.before b.1 = true → b.1.before c.1 = true →
      a.1.before c.1 = true := fun _ _ _ => Path.before_trans
  have htotal : ∀ a b : Path × FileContent, (a.1.before b.1 || b.1.before a.1) = true :=
    fun a b => Path.before_total a.1 b.1
  exact List.pairwise_mergeSort htrans htotal fs

theorem pairwise_sources (tree : Node) :
    (tree.sources suffix skip).Pairwise fun a b => a.1.before b.1 = true :=
  pairwise_mergeSort_before _

/-- Without a file that is listed, the others are listed as before. -/
theorem sources_without (htree : tree.Named) (h : (p, content) ∈ tree.sources suffix skip) :
    (tree.without p).sources suffix skip =
      (tree.sources suffix skip).filter fun e => e.1 != p := by
  have hfound : (p, content) ∈ filesOfAll suffix skip [] tree.entries := by
    rwa [sources, List.mem_mergeSort] at h
  cases tree with
  | file c => simp [entries, filesOfAll] at hfound
  | folder es =>
    have hp : p ≠ [] := by
      rintro rfl
      obtain ⟨m, -, rest, hrest⟩ := path_of_mem_filesOfAll hfound
      cases hrest
    have hperm : ((without p (folder es)).sources suffix skip).Perm
        (((folder es).sources suffix skip).filter fun e => e.1 != p) := by
      rw [sources, sources]
      refine (List.mergeSort_perm _ _).trans ?_
      rw [filesOfAll_without hp htree.1 htree.2 hfound]
      exact ((List.mergeSort_perm _ _).filter _).symm
    -- both are sorted, and no path is there twice
    refine hperm.eq_of_pairwise (fun a b ha hb hab hba => ?_) (pairwise_sources _)
      ((pairwise_sources _).filter _)
    exact List.inj_on_of_nodup_map (nodup_sources htree)
      (List.mem_of_mem_filter (hperm.mem_iff.mp ha)) (List.mem_of_mem_filter hb)
      (Path.before_antisymm hab hba)

/-- The files that are listed before a file and behind it are those that are listed without it. -/
theorem exists_sources_without (htree : tree.Named)
    (h : (p, content) ∈ tree.sources suffix skip) :
    ∃ earlier later, tree.sources suffix skip = earlier ++ (p, content) :: later ∧
      (tree.without p).sources suffix skip = earlier ++ later ∧
      (∀ e ∈ earlier, e.1.before p = true ∧ e.1 ≠ p) ∧
      ∀ e ∈ later, p.before e.1 = true ∧ e.1 ≠ p := by
  have hwithout := sources_without htree h
  have hnodup : ((tree.sources suffix skip).map Prod.fst).Nodup := nodup_sources htree
  have hsorted : (tree.sources suffix skip).Pairwise fun a b => a.1.before b.1 = true :=
    pairwise_sources tree
  obtain ⟨earlier, later, hsources⟩ := List.append_of_mem h
  rw [hsources, List.map_append, List.map_cons, List.nodup_middle, List.nodup_cons,
    List.mem_append] at hnodup
  have hearlier : ∀ e ∈ earlier, e.1 ≠ p := fun e he heq =>
    hnodup.1 (.inl (List.mem_map.mpr ⟨e, he, heq⟩))
  have hlater : ∀ e ∈ later, e.1 ≠ p := fun e he heq =>
    hnodup.1 (.inr (List.mem_map.mpr ⟨e, he, heq⟩))
  rw [hsources, List.pairwise_append, List.pairwise_cons] at hsorted
  refine ⟨earlier, later, hsources, ?_, ?_, ?_⟩
  · rw [hwithout, hsources, List.filter_append, List.filter_cons_of_neg (by simp)]
    congr 1
    · exact List.filter_eq_self.mpr fun e he => bne_iff_ne.mpr (hearlier e he)
    · exact List.filter_eq_self.mpr fun e he => bne_iff_ne.mpr (hlater e he)
  · exact fun e he => ⟨hsorted.2.2 e he _ List.mem_cons_self, hearlier e he⟩
  · exact fun e he => ⟨hsorted.2.1.1 e he, hlater e he⟩

end Node

end Marginalia
