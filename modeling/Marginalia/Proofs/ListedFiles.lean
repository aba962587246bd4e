/-
The files of a project, by their paths.

Files are looked for folder by folder.  A folder is taken from a list, its children are seen in
the order of their names, files are noted and folders go to the end of the list.  What was noted,
and what is below the folders still in the list, stays the same up to its order from one step to
the next; so the walk ends with everything that is below the root.  A file is below the root
when it is found under its path and each folder on the way may be entered.

* `Walk.ahead_child`, `Walk.ahead_step` — a step loses nothing and finds nothing twice;
* `Walk.found_run` — what a walk has found at its end;
* `mem_filesOfAll_iff_find?` — when a file is found below a folder, by its path;
* `sources_exactly` — what is listed, and in which order.
-/
import Marginalia.Proofs.FileRemoval

namespace Marginalia

/-! ### The order of names -/

/-- Paths stand in the order of their names, the first name first. -/
theorem Path.before_iff_lt_or_eq : ∀ {p q : Path}, p.before q = true ↔ p < q ∨ p = q
  | [], [] => by simp [before]
  | [], _ :: _ => by simp [before]
  | _ :: _, [] => by simp [before]
  | n :: p, m :: q => by
    rw [before_cons, before_iff_lt_or_eq, List.cons_lt_cons_iff, List.cons.injEq]
    tauto

namespace Node

variable {suffix : String} {skip : Skip}

/-! ### The walk -/

/-- A walk under way: the files it has found, and the folders that it has not looked into yet. -/
structure Walk where
  found : List (Path × FileContent)
  pending : List Folder

/-- The children of a folder in the order of their names. -/
def children (f : Folder) : List (String × Node) := f.2.mergeSort fun e e' => decide (e.1 ≤ e'.1)

namespace Walk

/-- The walk sees a child of a folder: it passes over it, or notes a file, or puts a folder behind
those it has not looked into. -/
def child (suffix : String) (skip : Skip) (at_ : Path) (w : Walk) (e : String × Node) : Walk :=
  match e.2 with
  | file content =>
    if skip (at_ ++ [e.1]) false || suffixOf e.1 != suffix then w
    else { w with found := w.found ++ [(at_ ++ [e.1], content)] }
  | folder es =>
    if e.1 == historyFolder || skip (at_ ++ [e.1]) true then w
    else { w with pending := w.pending ++ [(at_ ++ [e.1], es)] }

/-- The walk looks into a folder. -/
def enter (suffix : String) (skip : Skip) (f : Folder) (w : Walk) : Walk :=
  (children f).foldl (child suffix skip f.1) w

/-- The size of what the walk has not looked into yet. -/
def measure (w : Walk) : Nat := pendingSize w.pending

theorem measure_child (at_ : Path) (w : Walk) (e : String × Node) :
    (child suffix skip at_ w e).measure ≤ w.measure + e.2.size := by
  obtain ⟨name, n⟩ := e
  cases n with
  | file content =>
    simp only [child]
    split_ifs <;> simp [measure]
  | folder es =>
    simp only [child]
    split_ifs
    · omega
    · simp [measure, pendingSize_append, pendingSize, size]

theorem sizeOfAll_eq (es : List (String × Node)) :
    sizeOfAll es = (es.map fun e => e.2.size).sum := by
  induction es with
  | nil => rfl
  | cons e es ih => rw [sizeOfAll, ih, List.map_cons, List.sum_cons]

theorem measure_foldl_child (at_ : Path) (es : List (String × Node)) (w : Walk) :
    (es.foldl (child suffix skip at_) w).measure ≤ w.measure + sizeOfAll es := by
  induction es generalizing w with
  | nil => exact Nat.le_add_right _ _
  | cons e es ih =>
    have hfirst : (child suffix skip at_ w e).measure ≤ w.measure + e.2.size :=
      measure_child at_ w e
    have hrest := ih (child suffix skip at_ w e)
    rw [List.foldl_cons, sizeOfAll]
    omega

theorem measure_enter (f : Folder) (w : Walk) :
    (w.enter suffix skip f).measure ≤ w.measure + sizeOfAll f.2 := by
  have hsize : sizeOfAll (children f) = sizeOfAll f.2 := by
    rw [sizeOfAll_eq, sizeOfAll_eq]
    exact ((List.mergeSort_perm _ _).map _).sum_eq
  rw [← hsize]
  exact measure_foldl_child f.1 (children f) w

/-- The walk goes on until it has looked into every folder. -/
def run (suffix : String) (skip : Skip) : Walk → List (Path × FileContent)
  | ⟨found, []⟩ => found
  | ⟨found, f :: pending⟩ => run suffix skip (enter suffix skip f ⟨found, pending⟩)
termination_by w => w.measure
decreasing_by
  have h : (enter suffix skip f ⟨found, pending⟩).measure ≤ _ := measure_enter f ⟨found, pending⟩
  simp only [measure, pendingSize] at h ⊢
  omega

/-- What a walk has found, and what it will find in the folders it has not looked into. -/
def ahead (suffix : String) (skip : Skip) (w : Walk) : List (Path × FileContent) :=
  w.found ++ w.pending.flatMap fun f => filesOfAll suffix skip f.1 f.2

/-- A child adds what is found under its name. -/
theorem ahead_child (at_ : Path) (w : Walk) (e : String × Node) :
    ((child suffix skip at_ w e).ahead suffix skip).Perm
      (w.ahead suffix skip ++ filesOf suffix skip at_ e.1 e.2) := by
  obtain ⟨name, n⟩ := e
  cases n with
  | file content =>
    simp only [child, filesOf]
    split_ifs
    · rw [List.append_nil]
    · rw [ahead, ahead, List.append_assoc, List.append_assoc]
      exact List.perm_append_comm.append_left _
  | folder es =>
    simp only [child, filesOf]
    split_ifs
    · rw [List.append_nil]
    · rw [ahead, ahead, List.flatMap_append, List.flatMap_singleton, List.append_assoc]

/-- Children add what is found under their names. -/
theorem ahead_foldl_child (at_ : Path) (es : List (String × Node)) (w : Walk) :
    ((es.foldl (child suffix skip at_) w).ahead suffix skip).Perm
      (w.ahead suffix skip ++ filesOfAll suffix skip at_ es) := by
  induction es generalizing w with
  | nil => simp [filesOfAll]
  | cons e es ih =>
    rw [List.foldl_cons, filesOfAll, ← List.append_assoc]
    exact (ih _).trans ((ahead_child at_ w e).append_right _)

/-- Looking into a folder adds what is found below it, whatever the order of its children. -/
theorem ahead_enter (f : Folder) (w : Walk) :
    ((w.enter suffix skip f).ahead suffix skip).Perm
      (w.ahead suffix skip ++ filesOfAll suffix skip f.1 f.2) := by
  refine (ahead_foldl_child f.1 (children f) w).trans (List.Perm.append_left _ ?_)
  rw [filesOfAll_eq, filesOfAll_eq]
  exact (List.mergeSort_perm _ _).flatMap_right _

/-- A step of the walk loses nothing and finds nothing twice. -/
theorem ahead_step (found : List (Path × FileContent)) (f : Folder) (pending : List Folder) :
    ((enter suffix skip f ⟨found, pending⟩).ahead suffix skip).Perm
      (ahead suffix skip ⟨found, f :: pending⟩) := by
  refine (ahead_enter f _).trans ?_
  rw [ahead, ahead, List.flatMap_cons, List.append_assoc]
  exact List.perm_append_comm.append_left _

/-- At its end a walk has found what was ahead of it. -/
theorem found_run (w : Walk) : (w.run suffix skip).Perm (w.ahead suffix skip) := by
  induction w using run.induct suffix skip with
  | case1 found => simp [run, ahead]
  | case2 found f pending ih =>
    rw [run]
    exact ih.trans (ahead_step found f pending)

end Walk

/-- The files that a walk through a tree finds, in the order in which it comes to them. -/
def found (suffix : String) (skip : Skip) (tree : Node) : List (Path × FileContent) :=
  Walk.run suffix skip ⟨[], [([], tree.entries)]⟩

theorem found_perm (tree : Node) :
    (tree.found suffix skip).Perm (filesOfAll suffix skip [] tree.entries) := by
  refine (Walk.found_run _).trans ?_
  rw [Walk.ahead, List.flatMap_singleton, List.nil_append]

/-! ### What stands under a path -/

/-- Whether a listing gets down to a path: no folder on the way is passed over. -/
def OpenTo (skip : Skip) (p : Path) : Prop :=
  ∀ d name, d ++ [name] <+: p → d ++ [name] ≠ p →
    name ≠ historyFolder ∧ skip (d ++ [name]) true = false

theorem openTo_singleton (name : String) : OpenTo skip [name] := by
  intro d m hprefix hne
  obtain ⟨rest, hrest⟩ := hprefix
  cases d with
  | nil =>
    have hlength := congrArg List.length hrest
    have hnil : rest = [] := List.eq_nil_of_length_eq_zero (by simpa using hlength)
    exact absurd (by simpa [hnil] using hrest) hne
  | cons k d => simp at hrest

/-- The way down leads through the first folder, and on from there. -/
theorem openTo_cons_iff {name : String} {p : Path} (hp : p ≠ []) :
    OpenTo skip (name :: p) ↔ (name ≠ historyFolder ∧ skip [name] true = false) ∧
      OpenTo (fun q => skip (name :: q)) p := by
  constructor
  · intro h
    refine ⟨h [] name ⟨p, rfl⟩ (by simpa using hp.symm), fun d m hprefix hne => ?_⟩
    exact h (name :: d) m (List.prefix_cons_inj name |>.mpr hprefix) (by simpa using hne)
  · rintro ⟨hfirst, hrest⟩ d m hprefix hne
    cases d with
    | nil =>
      obtain ⟨rest, hrest'⟩ := hprefix
      obtain rfl : m = name := (List.cons.inj hrest').1
      exact hfirst
    | cons k d =>
      rw [List.cons_append] at hprefix hne ⊢
      obtain ⟨rfl, hbelow⟩ := List.cons_prefix_cons.mp hprefix
      exact hrest d m hbelow (by simpa using hne)

variable {at_ p : Path} {content : FileContent} {es : List (String × Node)}

theorem mem_iff_lookup {name : String} {n : Node} (hnodup : (es.map Prod.fst).Nodup) :
    (name, n) ∈ es ↔ es.lookup name = some n := by
  induction es with
  | nil => simp
  | cons e es ih =>
    obtain ⟨m, k⟩ := e
    rw [List.map_cons, List.nodup_cons] at hnodup
    rw [List.mem_cons, ih hnodup.2, List.lookup_cons]
    by_cases hm : name = m
    · subst hm
      have hnone : es.lookup name ≠ some n := fun h =>
        hnodup.1 (List.mem_map.mpr ⟨_, (ih hnodup.2).mpr h, rfl⟩)
      simp [hnone, eq_comm]
    · have hother : (name == m) = false := beq_eq_false_iff_ne.mpr hm
      simp [hm, hother]

/-- What is found under a path is found below the entry with its first name. -/
theorem mem_filesOfAll_cons_iff {name : String} (hnodup : (es.map Prod.fst).Nodup) :
    (at_ ++ name :: p, content) ∈ filesOfAll suffix skip at_ es ↔
      ∃ n, es.lookup name = some n ∧
        (at_ ++ name :: p, content) ∈ filesOf suffix skip at_ name n := by
  constructor
  · intro h
    obtain ⟨m, hm, rest, hrest⟩ := path_of_mem_filesOfAll h
    rw [List.append_cancel_left_eq, List.cons.injEq] at hrest
    obtain ⟨⟨m, n⟩, hn, rfl⟩ := List.mem_map.mp hm
    obtain rfl : name = m := hrest.1
    exact ⟨n, (mem_iff_lookup hnodup).mp hn, mem_filesOf_of_mem hnodup hn h⟩
  · rintro ⟨n, hn, h⟩
    rw [filesOfAll_eq]
    exact List.mem_flatMap.mpr ⟨(name, n), (mem_iff_lookup hnodup).mpr hn, h⟩

/-- A file is found right under its name when it has the suffix and is not passed over. -/
theorem mem_filesOf_name_iff {name : String} {n : Node} :
    (at_ ++ [name], content) ∈ filesOf suffix skip at_ name n ↔
      n = file content ∧ suffixOf name = suffix ∧ skip (at_ ++ [name]) false = false := by
  cases n with
  | file c =>
    rw [filesOf]
    by_cases h : suffixOf name = suffix ∧ skip (at_ ++ [name]) false = false
    · rw [if_neg (by simp [h])]
      simp [h, eq_comm]
    · have hover : (skip (at_ ++ [name]) false || suffixOf name != suffix) = true := by
        by_contra hnot
        simp only [Bool.or_eq_true, bne_iff_ne, not_or, Bool.not_eq_true, not_not] at hnot
        exact h ⟨hnot.2, hnot.1⟩
      rw [if_pos hover]
      simp [h]
  | folder inner =>
    rw [filesOf]
    split_ifs with hover
    · simp
    · simp only [false_and, iff_false]
      intro h
      -- what is found in a folder has a name below that of the folder
      obtain ⟨k, -, rest, hrest⟩ := path_of_mem_filesOfAll h
      simp at hrest

/-- Anything further down is found in a folder that is not passed over. -/
theorem mem_filesOf_below_iff {name : String} {n : Node} (hp : p ≠ []) :
    (at_ ++ name :: p, content) ∈ filesOf suffix skip at_ name n ↔
      ∃ inner, n = folder inner ∧ (name ≠ historyFolder ∧ skip (at_ ++ [name]) true = false) ∧
        (at_ ++ [name] ++ p, content) ∈ filesOfAll suffix skip (at_ ++ [name]) inner := by
  rw [List.append_cons]
  cases n with
  | file c =>
    rw [filesOf]
    split_ifs <;> simp [hp]
  | folder inner =>
    rw [filesOf]
    split_ifs with hover
    · simp only [Bool.or_eq_true, beq_iff_eq] at hover
      simp only [List.not_mem_nil, folder.injEq, false_iff, not_exists, not_and]
      rintro _ rfl ⟨hname, hskip⟩
      simp [hname, hskip] at hover
    · simp only [Bool.or_eq_true, beq_iff_eq, not_or, Bool.not_eq_true] at hover
      simp [hover]

/-- What is found below a folder is what stands there as a file with the suffix, is not passed
over, and can be got down to. -/
theorem mem_filesOfAll_iff_find? (hnodup : (es.map Prod.fst).Nodup) (hnamed : AllNamed es) :
    (at_ ++ p, content) ∈ filesOfAll suffix skip at_ es ↔
      (folder es).find? p = some (file content) ∧
        (∃ name, p.getLast? = some name ∧ suffixOf name = suffix) ∧
        skip (at_ ++ p) false = false ∧ OpenTo (fun q => skip (at_ ++ q)) p := by
  induction p generalizing at_ es with
  | nil =>
    simp only [List.getLast?_nil, reduceCtorEq, false_and, exists_false, and_false, iff_false]
    intro h
    obtain ⟨m, -, rest, hrest⟩ := path_of_mem_filesOfAll h
    simp at hrest
  | cons name p ih =>
    rw [mem_filesOfAll_cons_iff hnodup, find?]
    cases hn : es.lookup name with
    | none => simp
    | some n =>
      rw [Option.bind_some]
      by_cases hp : p = []
      · subst hp
        have hopen : OpenTo (fun q => skip (at_ ++ q)) [name] := openTo_singleton name
        simp only [Option.some.injEq, exists_eq_left', mem_filesOf_name_iff, find?,
          List.getLast?_singleton, hopen, and_true]
      · simp only [Option.some.injEq, exists_eq_left', mem_filesOf_below_iff hp,
          openTo_cons_iff hp, List.getLast?_cons_of_ne_nil hp]
        -- down the path, where each folder has entries with names of their own
        have hbelow : ∀ inner, n = folder inner → (inner.map Prod.fst).Nodup ∧ AllNamed inner := by
          rintro inner rfl
          exact (allNamed_iff.mp hnamed _ ((mem_iff_lookup hnodup).mpr hn)).2
        constructor
        · rintro ⟨inner, rfl, hfirst, h⟩
          obtain ⟨hnodup', hnamed'⟩ := hbelow inner rfl
          obtain ⟨hfind, hsuffix, hskip, hopen⟩ := (ih hnodup' hnamed').mp h
          simp only [List.append_assoc, List.singleton_append] at hskip hopen
          exact ⟨hfind, hsuffix, hskip, hfirst, hopen⟩
        · rintro ⟨hfind, hsuffix, hskip, hfirst, hopen⟩
          cases n with
          | file c =>
            obtain ⟨m, q, rfl⟩ := List.exists_cons_of_ne_nil hp
            cases hfind
          | folder inner =>
            obtain ⟨hnodup', hnamed'⟩ := hbelow inner rfl
            refine ⟨inner, rfl, hfirst, (ih hnodup' hnamed').mpr ⟨hfind, hsuffix, ?_⟩⟩
            simp only [List.append_assoc, List.singleton_append]
            exact ⟨hskip, hopen⟩

/-! ### What is listed -/

variable {tree : Node}

theorem mem_sources_iff_find? (htree : tree.Named) :
    (p, content) ∈ tree.sources suffix skip ↔
      tree.find? p = some (file content) ∧
        (∃ name, p.getLast? = some name ∧ suffixOf name = suffix) ∧
        skip p false = false ∧ OpenTo skip p := by
  rw [sources, List.mem_mergeSort]
  cases tree with
  | file c =>
    cases p with
    | nil => simp [entries, filesOfAll]
    | cons name p => simp [entries, filesOfAll, find?]
  | folder es => exact mem_filesOfAll_iff_find? htree.1 htree.2

/-- What a walk has found, sorted, is the listing. -/
theorem mergeSort_found (htree : tree.Named) :
    ((tree.found suffix skip).mergeSort fun a b => a.1.before b.1) = tree.sources suffix skip := by
  have hperm : ((tree.found suffix skip).mergeSort fun a b => a.1.before b.1).Perm
      (tree.sources suffix skip) :=
    ((List.mergeSort_perm _ _).trans (found_perm tree)).trans (List.mergeSort_perm _ _).symm
  -- both are sorted and list the same, and no two files have the same path
  refine hperm.eq_of_pairwise (fun a b ha hb hab hba => ?_) (pairwise_mergeSort_before _)
    (pairwise_sources tree)
  exact List.inj_on_of_nodup_map (nodup_sources htree) (hperm.mem_iff.mp ha) hb
    (Path.before_antisymm hab hba)

theorem pairwise_lt_sources (htree : tree.Named) :
    ((tree.sources suffix skip).map Prod.fst).Pairwise (· < ·) := by
  have hsorted : ((tree.sources suffix skip).map Prod.fst).Pairwise
      fun p q => p.before q = true :=
    List.pairwise_map.mpr (pairwise_sources tree)
  refine (hsorted.and (nodup_sources htree)).imp fun h => ?_
  exact (Path.before_iff_lt_or_eq.mp h.1).resolve_right h.2

/-- **The files of a project.**  Whatever is passed over, what the walk through a tree finds is
listed strictly in the order of paths, name by name; and a path is listed, with its bytes, exactly
when a file stands under it whose name has the suffix, which is not passed over, and no folder on
the way to it, the root left out, is named like that of the history or is passed over. -/
theorem sources_exactly (htree : tree.Named) (suffix : String) (skip : Skip) :
    ((tree.found suffix skip).mergeSort fun a b => a.1.before b.1) = tree.sources suffix skip ∧
      ((tree.sources suffix skip).map Prod.fst).Pairwise (· < ·) ∧
      ∀ p content, (p, content) ∈ tree.sources suffix skip ↔
        tree.find? p = some (file content) ∧
          (∃ name, p.getLast? = some name ∧ suffixOf name = suffix) ∧
          skip p false = false ∧
          ∀ d name, d ++ [name] <+: p → d ++ [name] ≠ p →
            name ≠ historyFolder ∧ skip (d ++ [name]) true = false :=
  ⟨mergeSort_found htree, pairwise_lt_sources htree, fun _ _ => mem_sources_iff_find? htree⟩

/-- A project with a folder of results, one of the history, and files at different depths. -/
def layered : Node :=
  folder [(".git", folder [("hook.py", file (.ok []))]), ("a", folder [("b", folder [("z.py", file (.ok []))])]),
    ("build", folder [("gen.py", file (.ok []))]), ("m.py", file (.ok [])), ("notes.txt", file (.ok []))]

/-- Passes over folders of results. -/
def skipResults : Skip := skipIgnored (Matcher.ofLines .documented ["build/"]).toOption

/-- A file two folders down is listed, one in a folder of results is not, nor is one in the folder
of the history. -/
theorem sources_exactly_layered :
    layered.Named ∧ (["a", "b", "z.py"], .ok []) ∈ layered.sources ".py" skipResults ∧
      (["build", "gen.py"], .ok []) ∉ layered.sources ".py" skipResults ∧
      ([".git", "hook.py"], .ok []) ∉ layered.sources ".py" skipResults := by
  have htree : layered.Named := by decide +kernel
  obtain ⟨-, -, hlisted⟩ := sources_exactly htree ".py" skipResults
  refine ⟨htree,
    (hlisted _ _).mpr ⟨rfl, ⟨_, rfl, by decide +kernel⟩, by decide +kernel, ?_⟩, ?_, ?_⟩
  · have hopen : OpenTo skipResults ["a", "b", "z.py"] := by
      rw [openTo_cons_iff (List.cons_ne_nil _ _), openTo_cons_iff (List.cons_ne_nil _ _)]
      exact ⟨by decide +kernel, by decide +kernel, openTo_singleton "z.py"⟩
    exact hopen
  · intro h
    obtain ⟨-, hskip⟩ := ((hlisted _ _).mp h).2.2.2 [] "build" ⟨["gen.py"], rfl⟩ (by decide)
    revert hskip
    decide +kernel
  · intro h
    obtain ⟨hname, -⟩ := ((hlisted _ _).mp h).2.2.2 [] ".git" ⟨["hook.py"], rfl⟩ (by decide)
    exact hname rfl

end Node

end Marginalia
