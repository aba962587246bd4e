/-
The folders whose ignore files are read, and those that are listed.

Loading goes through the folders level by level: it reads the ignore file of the first folder that
is waiting and puts the folders right below it that are not ignored by then behind the others.
Listing asks the finished rules.  The two enter the same folders when each line is about what is
below its folder: a folder is never below one that is still waiting, so what is read later does not
change what was decided about it.

* `Loading` — the course of loading; `Loading.load_eq` — it is what loading does;
* `Loading.apart` — of the folders that are waiting, none is below another;
* `Node.loaded_as_listed` — loading enters the folders that listing enters, once each;
* `Node.loaded_not_listed` — without the condition on lines it enters others.
-/
import Marginalia.Proofs.PatternScope

namespace Marginalia

open Node

/-! ### Ignore files -/

namespace Folder

/-- The lines of the ignore file in a folder, if there is one. -/
def writtenLines (f : Folder) : Except ReadFault (List String) :=
  match f.2.lookup ignoreFile with
  | some (.file content) => (textOfContent content).map Lines.split
  | _ => .ok []

/-- Those lines, each with the path of the folder. -/
def ignoreLines (f : Folder) : List String :=
  (f.writtenLines.toOption.getD []).map fun l => Rule.rebased f.1 l.toList

/-- Whether the ignore file of a folder can be read and its lines are patterns. -/
def Readable (f : Folder) : Prop :=
  ∃ ls, f.writtenLines = .ok ls ∧ ∀ l ∈ ls, ∃ r, Rule.ofLine l = .ok r

/-- Whether they are patterns about what is below the folder, too. -/
def Tidy (f : Folder) : Prop :=
  f.Readable ∧ ∀ ls, f.writtenLines = .ok ls → ∀ l ∈ ls, Rule.Scoped f.1 l.toList

instance (f : Folder) : Decidable f.Readable :=
  match h : f.writtenLines with
  | .error _ => isFalse fun ⟨_, hls, _⟩ => by cases h.symm.trans hls
  | .ok ls => decidable_of_iff (∀ l ∈ ls, (Rule.ofLine l).toOption.isSome = true) (by
      have hread (l : String) :
          (Rule.ofLine l).toOption.isSome = true ↔ ∃ r, Rule.ofLine l = .ok r := by
        cases Rule.ofLine l <;> simp [Except.toOption]
      simp [Readable, h, hread])

instance (f : Folder) : Decidable f.Tidy :=
  decidable_of_iff
    (f.Readable ∧ ∀ l ∈ f.writtenLines.toOption.getD [], Rule.Scoped f.1 l.toList) (by
      refine and_congr_right ?_
      rintro ⟨ls, hls, -⟩
      simp [hls, Except.toOption])

/-- Whether neither of two folders is below the other. -/
def Apart (f g : Folder) : Prop := ¬ f.1 <+: g.1 ∧ ¬ g.1 <+: f.1

end Folder

namespace Rule

theorem ofLines_append {a b : List String} {rs ss : List Rule} (ha : ofLines a = .ok rs)
    (hb : ofLines b = .ok ss) : ofLines (a ++ b) = .ok (rs ++ ss) := by
  induction a generalizing rs with
  | nil =>
    cases ha
    exact hb
  | cons l a ih =>
    rw [ofLines] at ha
    rw [List.cons_append, ofLines]
    cases hl : ofLine l with
    | error e => rw [hl] at ha; cases ha
    | ok r =>
      cases hrest : ofLines a with
      | error e => rw [hl, hrest] at ha; cases ha
      | ok rest =>
        rw [hl, hrest] at ha
        cases ha
        rw [ih hrest, List.append_assoc]
        rfl

/-- Whether what some rules hit is below a folder of a list. -/
def HitBelow (folders : List Folder) (rules : List Rule) : Prop :=
  ∀ r ∈ rules, ∀ p : Path, p.Named → p ≠ [] → (r.hit? p.folderText).isSome →
    ∃ f ∈ folders, f.1 <+: p ∧ f.1 ≠ p

/-- The rules on the lines of a tidy ignore file hit what is below its folder. -/
theorem exists_ofLines {f : Folder} (hf : f.1.Named) {ls : List String}
    (hls : ∀ l ∈ ls, (∃ r, ofLine l = .ok r) ∧ Scoped f.1 l.toList) :
    ∃ rs, ofLines (ls.map fun l => rebased f.1 l.toList) = .ok rs ∧ HitBelow [f] rs := by
  induction ls with
  | nil => exact ⟨[], rfl, by simp [HitBelow]⟩
  | cons l ls ih =>
    rw [List.forall_mem_cons] at hls
    obtain ⟨⟨r, hr⟩, hscoped⟩ := hls.1
    obtain ⟨rs, hrs, hbelow⟩ := ih hls.2
    obtain ⟨r', hr', hbelow'⟩ := scoped_rebased hf hscoped
      (by rw [String.ofList_toList]; exact hr)
    refine ⟨r'.toList ++ rs, by rw [List.map_cons, ofLines, hr', hrs]; rfl, ?_⟩
    intro rule hrule p hp hne hhit
    obtain hrule | hrule := List.mem_append.mp hrule
    · exact ⟨f, List.mem_singleton_self f,
        hbelow' rule (Option.mem_toList.mp hrule) p hp hne hhit⟩
    · exact hbelow rule hrule p hp hne hhit

/-- Rules that do not hit a path have no say about it. -/
theorem verdict?_append {rules later : List Rule} {path : List Char}
    (h : ∀ r ∈ later, ¬ (r.hit? path).isSome) :
    verdict? (rules ++ later) path = verdict? rules path := by
  have hlater (hit : Hit) : later.reverse.find? (fun r => r.hit? path == some hit) = none := by
    rw [List.find?_eq_none]
    intro r hr
    rw [Option.not_isSome_iff_eq_none.mp (h r (List.mem_reverse.mp hr))]
    simp
  simp only [verdict?, List.reverse_append, List.find?_append, hlater, Option.none_or]

end Rule

/-! ### The course of loading -/

/-- The course of loading a tree: the folders whose ignore files have been read, those that are
waiting, and the matcher so far. -/
inductive Loading (reader : RuleReader) (tree : Node) :
    List Folder → List Folder → Matcher → Prop
  | start {m : Matcher} :
      Matcher.ofLines reader [] = .ok m → Loading reader tree [] [([], tree.entries)] m
  | next {visited rest : List Folder} {f : Folder} {m m' : Matcher} :
      Loading reader tree visited (f :: rest) m → withRulesOf reader f.1 f.2 m = .ok m' →
      Loading reader tree (visited ++ [f]) (rest ++ foldersIn m' f.1 f.2) m'

section

variable {reader : RuleReader} {rules : List Rule} {m m' : Matcher} {f g : Folder}

/-- The lines of a folder are put behind those before, and all of them are read. -/
theorem withRulesOf_eq (hreader : reader.AsDocumented) (hm : m.GoesBy rules) :
    withRulesOf reader f.1 f.2 m = match f.writtenLines with
      | .error e => .error (.unread e)
      | .ok _ => match Rule.ofLines (m.lines ++ f.ignoreLines) with
        | .error e => .error (.pattern e)
        | .ok rules => .ok (.ofRules (m.lines ++ f.ignoreLines) rules) := by
  rw [withRulesOf]
  split
  · rename_i content hentry
    have hlines : f.writtenLines = (textOfContent content).map Lines.split := by
      rw [Folder.writtenLines, hentry]
    cases ht : textOfContent content with
    | error e =>
      rw [hlines, ht]
      rfl
    | ok t =>
      have hadd : (m.add (Lines.split t) f.1.text).lines = m.lines ++ f.ignoreLines := by
        rw [Folder.ignoreLines, hlines, ht]
        rfl
      dsimp only
      rw [hlines, ht, Matcher.extend, hadd, hreader.ofLines_eq]
      cases Rule.ofLines (m.lines ++ f.ignoreLines) <;> rfl
  · rename_i hentry
    -- nothing is read again, and reading it again would give the same rules
    have hlines : f.writtenLines = .ok [] := by
      rw [Folder.writtenLines]
      split
      · rename_i content hfile
        exact absurd hfile (hentry content)
      · rfl
    have hempty : f.ignoreLines = [] := by
      rw [Folder.ignoreLines, hlines]
      rfl
    rw [hlines, hempty, List.append_nil, hm.read]
    exact congrArg Except.ok hm.eq_ofRules

/-- The rules of a tidy folder can be read, and hit what is below it. -/
theorem exists_withRulesOf (hreader : reader.AsDocumented) (hf : f.1.Named) (htidy : f.Tidy)
    (hm : m.GoesBy rules) :
    ∃ m' later, withRulesOf reader f.1 f.2 m = .ok m' ∧ m'.GoesBy (rules ++ later) ∧
      Rule.HitBelow [f] later := by
  obtain ⟨⟨ls, hls, hread⟩, hscoped⟩ := htidy
  obtain ⟨later, hlater, hbelow⟩ :=
    Rule.exists_ofLines hf fun l hl => ⟨hread l hl, hscoped ls hls l hl⟩
  have hlines : f.ignoreLines = ls.map fun l => Rule.rebased f.1 l.toList := by
    rw [Folder.ignoreLines, hls]
    rfl
  have hall : Rule.ofLines (m.lines ++ f.ignoreLines) = .ok (rules ++ later) := by
    rw [hlines]
    exact Rule.ofLines_append hm.read hlater
  refine ⟨.ofRules (m.lines ++ f.ignoreLines) (rules ++ later), later, ?_, ⟨hall, rfl⟩, hbelow⟩
  rw [withRulesOf_eq hreader hm, hls]
  dsimp only
  rw [hall]

/-- The folders that are entered right below another one. -/
theorem mem_foldersIn_iff : g ∈ foldersIn m f.1 f.2 ↔
    ∃ name inner, g = (f.1 ++ [name], inner) ∧ (name, Node.folder inner) ∈ f.2 ∧
      name ≠ historyFolder ∧ m.ignores (f.1 ++ [name]).text true = false := by
  rw [foldersIn, List.mem_filterMap]
  constructor
  · rintro ⟨⟨name, n⟩, hmem, hg⟩
    cases n with
    | file _ => cases hg
    | folder inner =>
      dsimp only at hg
      split at hg
      · cases hg
      · rename_i hskip
        cases hg
        rw [Bool.or_eq_true, not_or, beq_iff_eq, Bool.not_eq_true] at hskip
        exact ⟨name, inner, rfl, hmem, hskip⟩
  · rintro ⟨name, inner, rfl, hmem, hname, hignored⟩
    refine ⟨_, hmem, ?_⟩
    dsimp only
    rw [if_neg (by simp [hname, hignored])]

/-- The folders right below a folder are below it and not above. -/
theorem below_of_mem_foldersIn (hg : g ∈ foldersIn m f.1 f.2) : f.1 <+: g.1 ∧ ¬ g.1 <+: f.1 := by
  obtain ⟨name, inner, rfl, -⟩ := mem_foldersIn_iff.mp hg
  refine ⟨List.prefix_append f.1 [name], fun h => ?_⟩
  have hlength := h.length_le
  simp at hlength

/-! ### Folders that are waiting -/

/-- Folders that can wait together: entries have names, and none of the folders is below
another. -/
structure Waiting (queue : List Folder) : Prop where
  path : ∀ f ∈ queue, f.1.Named
  entries : ∀ f ∈ queue, (Node.folder f.2).Named
  apart : queue.Pairwise Folder.Apart

theorem Waiting.named {queue : List Folder} (h : Waiting queue) {name : String} {n : Node}
    (hf : f ∈ queue) (hentry : (name, n) ∈ f.2) : Path.Named (f.1 ++ [name]) ∧ n.Named := by
  have hnamed := h.entries f hf
  rw [Node.Named, allNamed_iff] at hnamed
  obtain ⟨hname, hn⟩ := hnamed.2 _ hentry
  exact ⟨(h.path f hf).concat hname, hn⟩

/-- The paths of the folders that are entered are among those of the entries, in their order. -/
theorem paths_foldersIn (m : Matcher) (at_ : Path) (es : List (String × Node)) :
    ((foldersIn m at_ es).map Prod.fst).Sublist (es.map fun e => at_ ++ [e.1]) := by
  induction es with
  | nil => exact List.Sublist.slnil
  | cons e es ih =>
    obtain ⟨name, n⟩ := e
    rw [foldersIn, List.map_cons]
    cases n with
    | file content => exact ih.cons (at_ ++ [name])
    | folder inner =>
      simp only [List.filterMap_cons]
      by_cases hpassed : (name == historyFolder || m.ignores (at_ ++ [name]).text true) = true
      · rw [if_pos hpassed]
        exact ih.cons (at_ ++ [name])
      · rw [if_neg hpassed]
        exact ih.cons_cons (at_ ++ [name])

/-- The entries of a folder have different names, so of those that are entered none is below
another. -/
theorem apart_foldersIn (hf : (Node.folder f.2).Named) :
    (foldersIn m f.1 f.2).Pairwise Folder.Apart := by
  rw [Node.Named] at hf
  have hpaths : (f.2.map fun e => f.1 ++ [e.1]).Pairwise fun p q => ¬ p <+: q ∧ ¬ q <+: p := by
    refine List.pairwise_map.mpr ((List.pairwise_map.mp hf.1).imp ?_)
    intro e e' hne
    rw [List.prefix_append_right_inj, List.prefix_append_right_inj]
    simpa using ⟨hne, Ne.symm hne⟩
  have hentered := hpaths.sublist (paths_foldersIn m f.1 f.2)
  rwa [List.pairwise_map] at hentered

/-- The folders below the first one can wait behind the others. -/
theorem Waiting.next {rest : List Folder} (h : Waiting (f :: rest)) (m : Matcher) :
    Waiting (rest ++ foldersIn m f.1 f.2) := by
  obtain ⟨hfirst, hrest⟩ := List.pairwise_cons.mp h.apart
  refine ⟨?_, ?_, List.pairwise_append.mpr ⟨hrest, apart_foldersIn (h.entries f ?_), ?_⟩⟩
  · intro g hg
    obtain hg | hg := List.mem_append.mp hg
    · exact h.path g (List.mem_cons_of_mem f hg)
    · obtain ⟨name, inner, rfl, hentry, -⟩ := mem_foldersIn_iff.mp hg
      exact (h.named List.mem_cons_self hentry).1
  · intro g hg
    obtain hg | hg := List.mem_append.mp hg
    · exact h.entries g (List.mem_cons_of_mem f hg)
    · obtain ⟨name, inner, rfl, hentry, -⟩ := mem_foldersIn_iff.mp hg
      exact (h.named List.mem_cons_self hentry).2
  · exact List.mem_cons_self
  · intro g hg g' hg'
    obtain ⟨hbelow, hnot⟩ := below_of_mem_foldersIn hg'
    obtain ⟨name, inner, rfl, -⟩ := mem_foldersIn_iff.mp hg'
    refine ⟨fun habove => ?_, fun hunder => (hfirst g hg).1 (hbelow.trans hunder)⟩
    obtain heq | habove := List.prefix_concat_iff.mp habove
    · exact (hfirst g hg).1 (heq ▸ hbelow)
    · exact (hfirst g hg).2 habove

end

section

variable {reader : RuleReader} {rules : List Rule} {tree : Node} {visited queue : List Folder}
  {m : Matcher}

/-- It is what loading does. -/
theorem Loading.load_eq (h : Loading reader tree visited queue m) :
    tree.load reader = loadFrom reader queue m := by
  induction h with
  | start hstart => rw [load, hstart]
  | next _ hrules ih => rw [ih, loadFrom, hrules]

/-- The lines so far are those of the folders that have been read, in that order, and the matcher
goes by the rules on them. -/
theorem Loading.goesBy (hreader : reader.AsDocumented) (h : Loading reader tree visited queue m) :
    m.lines = visited.flatMap Folder.ignoreLines ∧ ∃ rules, m.GoesBy rules := by
  induction h with
  | start hstart =>
    rw [hreader.ofLines_eq] at hstart
    cases hstart
    exact ⟨rfl, [], rfl, rfl⟩
  | next _ hrules ih =>
    obtain ⟨hlines, rules, hread⟩ := ih
    rw [withRulesOf_eq hreader hread] at hrules
    split at hrules
    · cases hrules
    · split at hrules
      · cases hrules
      · rename_i rules' hrules'
        cases hrules
        exact ⟨by rw [List.flatMap_append, List.flatMap_singleton, ← hlines]; rfl,
          rules', hrules', rfl⟩

theorem Loading.waiting (htree : tree.Named) (h : Loading reader tree visited queue m) :
    Waiting queue := by
  induction h with
  | start _ =>
    refine ⟨?_, ?_, List.pairwise_singleton _ _⟩
    · simp [Path.Named]
    · rw [List.forall_mem_singleton]
      cases tree with
      | file _ => exact ⟨List.nodup_nil, trivial⟩
      | folder es => exact htree
  | next _ _ ih => exact ih.next _

variable {f : Folder} {rest : List Folder} {m' : Matcher}

/-- Loading comes to folders of the tree. -/
theorem Loading.mem_entered (h : Loading reader tree visited queue m) :
    ∀ f ∈ queue, f ∈ tree.entered (skipIgnored none) := by
  induction h with
  | start _ =>
    intro f hf
    rw [List.mem_singleton.mp hf]
    exact List.mem_cons_self
  | next _ _ ih =>
    intro g hg
    obtain hg | hg := List.mem_append.mp hg
    · exact ih g (List.mem_cons_of_mem _ hg)
    · obtain ⟨name, inner, rfl, hentry, hname, -⟩ := mem_foldersIn_iff.mp hg
      exact mem_entered_below (ih _ List.mem_cons_self) hentry hname rfl

/-- What is read below folders that are waiting does not change which folders right below the first
one are entered. -/
theorem foldersIn_of_hitBelow {later : List Rule} (hwaiting : Waiting (f :: rest))
    (hm : m.GoesBy rules) (hm' : m'.GoesBy (rules ++ later))
    (hlater : Rule.HitBelow (rest ++ foldersIn m f.1 f.2) later) :
    foldersIn m' f.1 f.2 = foldersIn m f.1 f.2 := by
  have hfirst := (List.pairwise_cons.mp hwaiting.apart).1
  have hsame : ∀ e ∈ f.2,
      m'.ignores (f.1 ++ [e.1]).text true = m.ignores (f.1 ++ [e.1]).text true := by
    rintro ⟨name, n⟩ hentry
    obtain ⟨hname, -⟩ := hwaiting.named List.mem_cons_self hentry
    have hne : f.1 ++ [name] ≠ [] := by simp
    rw [hm'.ignores_folder hname hne, hm.ignores_folder hname hne, Rule.verdict?_append]
    intro r hr hhit
    -- a folder with a rule on the entry would be the folder itself or above it
    obtain ⟨g, hg, habove, hother⟩ := hlater r hr _ hname hne hhit
    have hprefix := (List.prefix_concat_iff.mp habove).resolve_left hother
    obtain hg | hg := List.mem_append.mp hg
    · exact (hfirst g hg).2 hprefix
    · exact (below_of_mem_foldersIn hg).2 hprefix
  refine List.filterMap_congr ?_
  rintro ⟨name, n⟩ hentry
  dsimp only
  rw [hsame _ hentry]

/-- What is read below the folders right below one is read below that one. -/
theorem Rule.HitBelow.behind {here later : List Rule} (hhere : Rule.HitBelow [f] here)
    (hlater : Rule.HitBelow (rest ++ foldersIn m f.1 f.2) later) :
    Rule.HitBelow (f :: rest) (here ++ later) := by
  intro r hr p hp hne hhit
  obtain hr | hr := List.mem_append.mp hr
  · obtain ⟨g, hg, hprefix⟩ := hhere r hr p hp hne hhit
    exact ⟨g, List.mem_cons.mpr (.inl (List.mem_singleton.mp hg)), hprefix⟩
  · obtain ⟨g, hg, hprefix, hother⟩ := hlater r hr p hp hne hhit
    obtain hg | hg := List.mem_append.mp hg
    · exact ⟨g, List.mem_cons_of_mem f hg, hprefix, hother⟩
    · obtain ⟨hbelow, hnot⟩ := below_of_mem_foldersIn hg
      refine ⟨f, List.mem_cons_self, hbelow.trans hprefix, ?_⟩
      rintro rfl
      exact hnot hprefix

/-- Loading comes to its end when the folders that it comes to are tidy; the folders that are read
from some point on are those that are listed for the folders that are waiting then. -/
theorem Loading.ends (hreader : reader.AsDocumented) (htree : tree.Named)
    (htidy : ∀ {visited f rest m}, Loading reader tree visited (f :: rest) m → f.Tidy)
    (h : Loading reader tree visited queue m) (hm : m.GoesBy rules) :
    ∃ visited' m' later, Loading reader tree visited' [] m' ∧ m'.GoesBy (rules ++ later) ∧
      Rule.HitBelow queue later ∧
      visited'.Perm (visited ++ queue.flatMap (enteredFrom (skipIgnored (some m')))) := by
  induction queue, m using loadFrom.induct reader generalizing visited rules with
  | case1 m =>
    refine ⟨visited, m, [], h, ?_, by simp [Rule.HitBelow], by simp⟩
    rwa [List.append_nil]
  | case2 m at_ es rest e herror =>
    obtain ⟨m', later, hok, -⟩ := exists_withRulesOf hreader
      ((h.waiting htree).path _ List.mem_cons_self) (htidy h) hm
    cases herror.symm.trans hok
  | case3 m at_ es rest m₁ hok ih =>
    have hwaiting := h.waiting htree
    obtain ⟨m₂, here, hhere, hm₂, hbelow⟩ := exists_withRulesOf hreader
      (hwaiting.path _ List.mem_cons_self) (htidy h) hm
    cases hok.symm.trans hhere
    obtain ⟨visited', m', later, hend, hm', hlater, hperm⟩ := ih (h.next hok) hm₂
    -- rules that are read later have no say about the entries of the folder that is read now
    have hsame := foldersIn_of_hitBelow hwaiting hm₂ hm' hlater
    refine ⟨visited', m', here ++ later, hend, by rwa [← List.append_assoc], ?_, ?_⟩
    · exact hbelow.behind hlater
    · have hfirst : enteredFrom (skipIgnored (some m')) (at_, es) =
          (at_, es) :: (foldersIn m₁ at_ es).flatMap (enteredFrom (skipIgnored (some m'))) := by
        rw [enteredFrom, enteredBelow_eq, hsame]
      rw [List.flatMap_cons, hfirst]
      refine hperm.trans ?_
      rw [List.flatMap_append, List.append_assoc, List.singleton_append]
      exact (List.perm_append_comm.cons _).append_left visited

end

namespace Node

/-- **Loaded as listed.**  The reader of ignore files goes by the documented rules.  When the lines
of the ignore files that loading comes to are patterns about what is below their folders, loading
comes to an end.  The folders whose ignore files it has read are then those that a listing under its
rules enters, once each; the lines of the rules are theirs and no others, and the files that are
listed are the ones right in them. -/
theorem loaded_as_listed {reader : RuleReader} (hreader : reader.AsDocumented) {tree : Node}
    (htree : tree.Named)
    (htidy : ∀ {visited f rest m}, Loading reader tree visited (f :: rest) m → f.Tidy) :
    ∃ visited m, Loading reader tree visited [] m ∧ tree.load reader = .ok m ∧
      visited.Perm (tree.entered (skipIgnored (some m))) ∧
      m.lines = visited.flatMap Folder.ignoreLines ∧
      ∀ suffix p content, (p, content) ∈ tree.sources suffix (skipIgnored (some m)) ↔
        ∃ f ∈ visited, ListedIn suffix (skipIgnored (some m)) f p content := by
  have hstart : Matcher.ofLines reader [] = .ok (.ofRules [] []) := hreader.ofLines_eq []
  obtain ⟨visited, m, -, hend, -, -, hperm⟩ :=
    (Loading.start hstart).ends hreader htree htidy ⟨rfl, rfl⟩
  rw [List.nil_append, List.flatMap_singleton] at hperm
  refine ⟨visited, m, hend, by rw [hend.load_eq, loadFrom], hperm, (hend.goesBy hreader).1, ?_⟩
  intro suffix p content
  rw [mem_sources_iff]
  constructor
  · rintro ⟨f, hf, h⟩
    exact ⟨f, hperm.mem_iff.mpr hf, h⟩
  · rintro ⟨f, hf, h⟩
    exact ⟨f, hperm.mem_iff.mp hf, h⟩

/-- A project with a folder that is ignored from the root and one that is ignored from a package;
both have ignore files that would take everything back in. -/
def sampleTree : Node :=
  folder [(".gitignore", file (.ok <| Utf8.encode "build/\n*.log\n")),
    ("build", folder [(".gitignore", file (.ok <| Utf8.encode "!*\n"))]),
    ("pkg", folder [(".gitignore", file (.ok <| Utf8.encode "gen\n!keep.py\n")),
      ("gen", folder [(".gitignore", file (.ok <| Utf8.encode "!*\n")), ("a.py", file (.ok []))]),
      ("keep.py", file (.ok [])),
      ("sub", folder [(".gitignore", file (.ok <| Utf8.encode "# nothing\n")),
        ("b.py", file (.ok []))])])]

/-- Of its five folders, three are loaded and listed. -/
theorem loaded_as_listed_sample :
    sampleTree.Named ∧ (∀ f ∈ sampleTree.entered (skipIgnored none), f.Tidy) ∧
      ∃ visited m, Loading .documented sampleTree visited [] m ∧
        sampleTree.load .documented = .ok m ∧
        visited.Perm (sampleTree.entered (skipIgnored (some m))) ∧
        (visited.map Prod.fst).Perm [[], ["pkg"], ["pkg", "sub"]] := by
  have hnamed : sampleTree.Named := by decide +kernel
  have htidy : ∀ f ∈ sampleTree.entered (skipIgnored none), f.Tidy := by decide +kernel
  obtain ⟨visited, m, hend, hload, hperm, -⟩ :=
    loaded_as_listed RuleReader.documented_asDocumented hnamed fun h =>
      htidy _ (h.mem_entered _ List.mem_cons_self)
  have hrules : (sampleTree.load .documented).toOption.getD (.ofRules [] []) = m := by
    rw [hload]
    rfl
  have hpaths : (sampleTree.entered (skipIgnored (some m))).map Prod.fst =
      [[], ["pkg"], ["pkg", "sub"]] := by
    rw [← hrules]
    decide +kernel
  exact ⟨hnamed, htidy, visited, m, hend, hload, hperm, hpaths ▸ hperm.map Prod.fst⟩

/-- A folder whose own ignore file passes over everything in it but for some files. -/
def strayFolder : Folder :=
  (["d"], [(".gitignore", file (.ok <| Utf8.encode "**\n!*.py\n")), ("a.py", file (.ok []))])

/-- A tree with that folder alone. -/
def strayTree : Node := folder [("d", folder strayFolder.2)]

/-- A line of asterisks only is also about its own folder: that folder is loaded, and its rules
count, but it is not listed. -/
theorem loaded_not_listed :
    strayTree.Named ∧ (∀ f ∈ strayTree.entered (skipIgnored none), f.Readable) ∧
      ∃ visited m, Loading .documented strayTree visited [] m ∧
        strayTree.load .documented = .ok m ∧
        m.lines = ["d/**/**", "!d/**/*.py"] ∧ visited.map Prod.fst = [[], ["d"]] ∧
        (strayTree.entered (skipIgnored (some m))).map Prod.fst = [[]] := by
  have hroot : withRulesOf .documented [] strayTree.entries (.ofRules [] []) =
      .ok (.ofRules [] []) := rfl
  have hread : (withRulesOf .documented strayFolder.1 strayFolder.2
      (.ofRules [] [])).toOption.isSome = true := by
    decide +kernel
  obtain ⟨m, hm⟩ : ∃ m, withRulesOf .documented strayFolder.1 strayFolder.2 (.ofRules [] []) =
      .ok m := by
    cases h : withRulesOf .documented strayFolder.1 strayFolder.2 (.ofRules [] []) with
    | error e => rw [h] at hread; cases hread
    | ok m => exact ⟨m, rfl⟩
  have hrules : (withRulesOf .documented strayFolder.1 strayFolder.2
      (.ofRules [] [])).toOption.getD (.ofRules [] []) = m := by
    rw [hm]
    rfl
  have hfirst : Loading .documented strayTree [([], strayTree.entries)] [strayFolder]
      (.ofRules [] []) :=
    (Loading.start rfl).next (f := ([], strayTree.entries)) hroot
  have hend : Loading .documented strayTree [([], strayTree.entries), strayFolder] [] m :=
    hfirst.next hm
  refine ⟨by decide +kernel, by decide +kernel, _, m, hend, ?_, ?_, rfl, ?_⟩
  · rw [hend.load_eq, loadFrom]
  · rw [← hrules]
    decide +kernel
  · rw [← hrules]
    decide +kernel

end Node

end Marginalia
