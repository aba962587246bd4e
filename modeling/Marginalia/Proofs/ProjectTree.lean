/-
Folders of a project and what is found in them.

Entries of a folder have names of their own, without slashes.  The folders that a listing enters
are those that are not passed over, below folders that are entered; the files that it lists are
the ones right in them.

* `Node.mem_sources_iff` — the files that are listed, by the folders that are entered;
* `Node.enteredBelow_eq` — a folder is entered for each entry that is not passed over;
* `Path.prefix_of_folderText` — the writing of folders, each name with a slash behind it, tells
  which folder is above which;
* `Matcher.ignores_written` — a matcher decides on a file or a folder by its writing;
* `RuleReader.AsDocumented` — a reader that goes by the documented rules.
-/
import Mathlib.Tactic
import Marginalia.Tree

namespace Marginalia

/-! ### Names and paths -/

/-- What entries of a folder can be named. -/
structure IsName (name : String) : Prop where
  ne_empty : name ≠ ""
  ne_here : name ≠ "."
  ne_above : name ≠ ".."
  noSlash : '/' ∉ name.toList

instance (name : String) : Decidable (IsName name) :=
  decidable_of_iff (name ≠ "" ∧ name ≠ "." ∧ name ≠ ".." ∧ '/' ∉ name.toList)
    ⟨fun h => ⟨h.1, h.2.1, h.2.2.1, h.2.2.2⟩,
      fun h => ⟨h.ne_empty, h.ne_here, h.ne_above, h.noSlash⟩⟩

theorem IsName.toList_ne_nil {name : String} (h : IsName name) : name.toList ≠ [] :=
  fun hempty => h.ne_empty (String.toList_eq_nil_iff.mp hempty)

namespace Path

variable {p q : Path}

/-- Whether a path is made of names of entries. -/
def Named (p : Path) : Prop := ∀ n ∈ p, IsName n

instance (p : Path) : Decidable p.Named := inferInstanceAs (Decidable (∀ n ∈ p, IsName n))

theorem Named.append (hp : p.Named) (hq : q.Named) : Path.Named (p ++ q) :=
  List.forall_mem_append.mpr ⟨hp, hq⟩

theorem Named.concat (hp : p.Named) {n : String} (hn : IsName n) : Path.Named (p ++ [n]) :=
  hp.append (List.forall_mem_singleton.mpr hn)

/-- A folder in writing, as rules look at it: a slash behind each name. -/
def folderText (p : Path) : List Char := p.flatMap fun n => n.toList ++ ['/']

theorem folderText_nil : folderText [] = [] := rfl

theorem folderText_cons (n : String) (p : Path) :
    folderText (n :: p) = n.toList ++ '/' :: folderText p := by
  simp [folderText]

/-- The slashes between names, and the one behind the last. -/
theorem folderText_eq (n : String) (p : Path) :
    folderText (n :: p) =
      n.toList ++ ((p.map String.toList).flatMap fun s => '/' :: s) ++ ['/'] := by
  induction p generalizing n with
  | nil => simp [folderText_cons, folderText_nil]
  | cons m p ih =>
    rw [folderText_cons, ih]
    simp

theorem text_toList (p : Path) : p.text.toList = ['/'].intercalate (p.map String.toList) := by
  rw [text, String.toList_intercalate]
  rfl

theorem text_cons_cons (n m : String) (p : Path) :
    (text (n :: m :: p)).toList = n.toList ++ '/' :: (text (m :: p)).toList := by
  simp [text_toList]

theorem text_ne_nil (hp : p.Named) (hne : p ≠ []) : p.text.toList ≠ [] := by
  obtain ⟨n, q, rfl⟩ := List.exists_cons_of_ne_nil hne
  have hn := (hp n List.mem_cons_self).toList_ne_nil
  cases q with
  | nil => simpa [text_toList] using hn
  | cons m q => simp [text_cons_cons, hn]

/-- The writing of a folder, and a slash behind it. -/
theorem text_slash (hp : p ≠ []) : p.text.toList ++ ['/'] = p.folderText := by
  induction p with
  | nil => exact absurd rfl hp
  | cons n p ih =>
    cases p with
    | nil => simp [text_toList, folderText]
    | cons m p =>
      rw [text_cons_cons, folderText_cons, List.append_assoc, List.cons_append,
        ih (List.cons_ne_nil m p)]

/-- The first slash ends the same name on both sides. -/
theorem slash_inj {a b x y : List Char} (ha : '/' ∉ a) (hb : '/' ∉ b)
    (h : a ++ '/' :: x = b ++ '/' :: y) : a = b ∧ x = y := by
  -- one of the names starts with the other, and what is left of it has no slash
  obtain ⟨cs, hcs, hrest⟩ | ⟨cs, hcs, hrest⟩ := List.append_eq_append_iff.mp h <;>
    cases cs with
    | nil => simp_all
    | cons c cs =>
      rw [List.cons_append, List.cons.injEq] at hrest
      simp [hcs, ← hrest.1] at ha hb

/-- When the writing of a folder starts that of another one, the other is found below it. -/
theorem prefix_of_folderText (hp : p.Named) (hq : q.Named)
    (h : p.folderText <+: q.folderText) : p <+: q := by
  induction p generalizing q with
  | nil => exact List.nil_prefix
  | cons n p ih =>
    obtain ⟨rest, hrest⟩ := h
    cases q with
    | nil => simp [folderText_cons, folderText_nil] at hrest
    | cons m q =>
      rw [folderText_cons, folderText_cons, List.append_assoc, List.cons_append] at hrest
      obtain ⟨hname, hbelow⟩ := slash_inj (hp n List.mem_cons_self).noSlash
        (hq m List.mem_cons_self).noSlash hrest
      rw [String.toList_inj.mp hname, List.prefix_cons_inj]
      exact ih (fun x hx => hp x (List.mem_cons_of_mem n hx))
        (fun x hx => hq x (List.mem_cons_of_mem m hx)) ⟨rest, hbelow⟩

/-- The writing of a folder starts with the first character of a name and not with a dot and a
slash. -/
theorem folderText_start {n : String} (hn : IsName n) (p : Path) :
    ∃ c cs, folderText (n :: p) = c :: cs ∧ c ≠ '/' ∧ (c = '.' → ∀ ds, cs ≠ '/' :: ds) := by
  obtain ⟨c, cs, hcs⟩ := List.exists_cons_of_ne_nil hn.toList_ne_nil
  have hslash : '/' ∉ c :: cs := hcs ▸ hn.noSlash
  refine ⟨c, cs ++ '/' :: folderText p, by rw [folderText_cons, hcs]; rfl, ?_, ?_⟩
  · rintro rfl
    exact hslash List.mem_cons_self
  · rintro rfl ds hds
    cases cs with
    | nil => exact hn.ne_here (String.toList_inj.mp (by rw [hcs]; rfl))
    | cons d cs =>
      rw [List.cons_append, List.cons.injEq] at hds
      exact hslash (by rw [hds.1]; simp)

end Path

/-! ### What a matcher says about a folder -/

/-- Nothing is taken off a text that neither starts nor ends with a slash. -/
theorem Search.strip_of_ends {cs : List Char} (hstart : cs.head? ≠ some '/')
    (hend : cs.getLast? ≠ some '/') : Search.strip (· == '/') cs = cs := by
  have hdrop : ∀ ds : List Char, ds.head? ≠ some '/' → ds.dropWhile (· == '/') = ds := by
    intro ds hds
    cases ds with
    | nil => rfl
    | cons d ds =>
      refine List.dropWhile_cons_of_neg fun hd => hds ?_
      rw [eq_of_beq hd]
      rfl
  rw [Search.strip, hdrop cs hstart, hdrop cs.reverse (by rwa [List.head?_reverse]),
    List.reverse_reverse]

theorem Path.text_ends {p : Path} (hp : p.Named) (hne : p ≠ []) :
    p.text.toList.head? ≠ some '/' ∧ p.text.toList.getLast? ≠ some '/' := by
  induction p with
  | nil => exact absurd rfl hne
  | cons n p ih =>
    have hn := hp n List.mem_cons_self
    obtain ⟨c, cs, hcs⟩ := List.exists_cons_of_ne_nil hn.toList_ne_nil
    have hc : c ≠ '/' := by
      rintro rfl
      exact hn.noSlash (by rw [hcs]; exact List.mem_cons_self)
    cases p with
    | nil =>
      have htext : (Path.text [n]).toList = n.toList := by simp [Path.text_toList]
      rw [htext]
      refine ⟨by simpa [hcs] using hc, fun hlast => hn.noSlash (List.mem_of_getLast? hlast)⟩
    | cons m p =>
      have hbelow : Path.Named (m :: p) := fun x hx => hp x (List.mem_cons_of_mem n hx)
      obtain ⟨-, hlast⟩ := ih hbelow (List.cons_ne_nil m p)
      have hnonempty := Path.text_ne_nil hbelow (List.cons_ne_nil m p)
      rw [Path.text_cons_cons]
      refine ⟨by simpa [hcs] using hc, ?_⟩
      rwa [List.getLast?_append_of_ne_nil _ (List.cons_ne_nil _ _),
        List.getLast?_cons_of_ne_nil hnonempty]

/-- A path in writing, as rules look at it: a folder ends with a slash. -/
def Path.written (p : Path) : Bool → List Char
  | true => p.folderText
  | false => p.text.toList

/-- Nothing is taken off the writing of a path before it is looked up. -/
theorem RuleReader.lookupForm_written {p : Path} (hp : p.Named) (hne : p ≠ [])
    (isFolder : Bool) : lookupForm (p.written isFolder) = p.written isFolder := by
  obtain ⟨n, q, rfl⟩ := List.exists_cons_of_ne_nil hne
  obtain ⟨c, cs, hcs, hc, hdot⟩ := Path.folderText_start (hp n List.mem_cons_self) q
  -- a file is written like a folder, but for the slash at the end
  obtain ⟨behind, hbehind⟩ : ∃ behind,
      Path.written (n :: q) isFolder ++ behind = Path.folderText (n :: q) := by
    cases isFolder with
    | true => exact ⟨[], List.append_nil _⟩
    | false => exact ⟨['/'], Path.text_slash hne⟩
  rw [hcs] at hbehind
  unfold lookupForm
  split
  · rename_i heq
    rw [heq, List.cons_append, List.cons.injEq] at hbehind
    exact absurd hbehind.1.symm hc
  · rename_i heq
    rw [heq, List.cons_append, List.cons.injEq, List.cons_append] at hbehind
    exact absurd hbehind.2.symm (hdot hbehind.1.symm _)
  · rfl

namespace Matcher

variable {m : Matcher} {rules : List Rule}

/-- The matcher that says of paths what the rules on its lines do. -/
def ofRules (lines : List String) (rules : List Rule) : Matcher :=
  ⟨lines, fun path => Rule.verdict? rules (RuleReader.lookupForm path)⟩

/-- Whether a matcher goes by the rules on its lines. -/
structure GoesBy (m : Matcher) (rules : List Rule) : Prop where
  read : Rule.ofLines m.lines = .ok rules
  eq_ofRules : m = ofRules m.lines rules

/-- A matcher decides on a path by its writing. -/
theorem ignores_written (m : Matcher) {p : Path} (hp : p.Named) (hne : p ≠ []) (isFolder : Bool) :
    m.ignores p.text isFolder = (m.verdict (p.written isFolder)).getD false := by
  obtain ⟨hstart, hend⟩ := Path.text_ends hp hne
  rw [ignores, Search.strip_of_ends hstart hend, if_neg (by simpa using Path.text_ne_nil hp hne)]
  cases isFolder with
  | true => rw [if_pos rfl, Path.text_slash hne, ← Path.written]
  | false => rw [if_neg Bool.false_ne_true, ← Path.written]

/-- Rules decide on a path by its writing. -/
theorem verdict_ofRules (lines : List String) (rules : List Rule) {p : Path} (hp : p.Named)
    (hne : p ≠ []) (isFolder : Bool) :
    (ofRules lines rules).verdict (p.written isFolder) =
      Rule.verdict? rules (p.written isFolder) := by
  show Rule.verdict? rules (RuleReader.lookupForm _) = _
  rw [RuleReader.lookupForm_written hp hne]

theorem GoesBy.ignores_folder (h : m.GoesBy rules) {p : Path} (hp : p.Named) (hne : p ≠ []) :
    m.ignores p.text true = (Rule.verdict? rules p.folderText).getD false := by
  rw [ignores_written m hp hne, h.eq_ofRules, verdict_ofRules m.lines rules hp hne]
  rfl

end Matcher

/-- A reader of ignore files goes by the documented rules. -/
structure RuleReader.AsDocumented (reader : RuleReader) : Prop where
  read_eq : ∀ lines, reader.read lines = RuleReader.documented.read lines

theorem RuleReader.documented_asDocumented : RuleReader.documented.AsDocumented := ⟨fun _ => rfl⟩

/-- Lines are read as the rules on them. -/
theorem RuleReader.AsDocumented.ofLines_eq {reader : RuleReader} (h : reader.AsDocumented)
    (lines : List String) :
    Matcher.ofLines reader lines = (Rule.ofLines lines).map (Matcher.ofRules lines) := by
  rw [Matcher.ofLines, h.read_eq]
  dsimp only [documented]
  cases Rule.ofLines lines <;> rfl

/-! ### Trees -/

/-- A folder: where it is, and its entries. -/
abbrev Folder := Path × List (String × Node)

namespace Node

mutual

/-- Whether the entries of each folder have names of their own. -/
def Named : Node → Prop
  | file _ => True
  | folder es => (es.map Prod.fst).Nodup ∧ AllNamed es

/-- Whether entries are named, and what is below them is. -/
def AllNamed : List (String × Node) → Prop
  | [] => True
  | (name, n) :: es => IsName name ∧ n.Named ∧ AllNamed es

end

mutual

/-- Whether the entries of each folder have names of their own can be looked up. -/
def decidableNamed : (n : Node) → Decidable n.Named
  | file _ => isTrue trivial
  | folder es => @instDecidableAnd _ _ inferInstance (decidableAllNamed es)

def decidableAllNamed : (es : List (String × Node)) → Decidable (AllNamed es)
  | [] => isTrue trivial
  | (_, n) :: es =>
    @instDecidableAnd _ _ inferInstance
      (@instDecidableAnd _ _ (decidableNamed n) (decidableAllNamed es))

end

instance (n : Node) : Decidable n.Named := decidableNamed n

theorem allNamed_iff {es : List (String × Node)} :
    AllNamed es ↔ ∀ e ∈ es, IsName e.1 ∧ e.2.Named := by
  induction es with
  | nil => simp [AllNamed]
  | cons e es ih => rw [AllNamed, ih, List.forall_mem_cons, and_assoc]

variable {suffix : String} {skip : Skip}

mutual

/-- The folders that are entered when a node is listed, under its name in a folder. -/
def enteredAt (skip : Skip) (at_ : Path) (name : String) : Node → List Folder
  | file _ => []
  | folder es =>
    if name == historyFolder || skip (at_ ++ [name]) true then []
    else (at_ ++ [name], es) :: enteredBelow skip (at_ ++ [name]) es

/-- The folders that are entered when the entries of a folder are listed. -/
def enteredBelow (skip : Skip) (at_ : Path) : List (String × Node) → List Folder
  | [] => []
  | (name, n) :: es => enteredAt skip at_ name n ++ enteredBelow skip at_ es

end

/-- The folders that are entered when a folder is listed: itself, and others below. -/
def enteredFrom (skip : Skip) (f : Folder) : List Folder := f :: enteredBelow skip f.1 f.2

/-- The folders of a tree that are entered when it is listed. -/
def entered (skip : Skip) (tree : Node) : List Folder := enteredFrom skip ([], tree.entries)

/-- A file right in a folder that is listed. -/
def ListedIn (suffix : String) (skip : Skip) (f : Folder) (p : Path) (content : FileContent) :
    Prop :=
  ∃ name, (name, file content) ∈ f.2 ∧ p = f.1 ++ [name] ∧ skip p false = false ∧
    suffixOf name = suffix

mutual

/-- The files that are listed under a name. -/
theorem mem_filesOf_iff {at_ p : Path} {name : String} {content : FileContent} :
    ∀ n : Node, (p, content) ∈ filesOf suffix skip at_ name n ↔
      (n = file content ∧ p = at_ ++ [name] ∧ skip p false = false ∧ suffixOf name = suffix) ∨
        ∃ f ∈ enteredAt skip at_ name n, ListedIn suffix skip f p content
  | file content' => by
    rw [filesOf]
    split_ifs with hskip
    · simp only [enteredAt, List.not_mem_nil, false_and, exists_false, or_false, false_iff]
      rintro ⟨-, rfl, hpassed, hsuffix⟩
      simp [hpassed, hsuffix] at hskip
    · simp only [Bool.or_eq_true, not_or, Bool.not_eq_true, bne_eq_false_iff_eq] at hskip
      simp only [List.mem_singleton, Prod.mk.injEq, enteredAt, List.not_mem_nil, false_and,
        exists_false, or_false, file.injEq]
      constructor
      · rintro ⟨rfl, rfl⟩
        exact ⟨rfl, rfl, hskip⟩
      · rintro ⟨rfl, rfl, -⟩
        exact ⟨rfl, rfl⟩
  | folder es => by
    rw [filesOf, enteredAt]
    split_ifs with hskip
    · simp
    · rw [mem_filesOfAll_iff es, enteredFrom]
      simp

/-- The files that are listed for the entries of a folder: those in it, and those in folders that
are entered below. -/
theorem mem_filesOfAll_iff {at_ p : Path} {content : FileContent} :
    ∀ es : List (String × Node), (p, content) ∈ filesOfAll suffix skip at_ es ↔
      ∃ f ∈ enteredFrom skip (at_, es), ListedIn suffix skip f p content
  | [] => by simp [filesOfAll, enteredFrom, enteredBelow, ListedIn]
  | (name, n) :: es => by
    rw [filesOfAll, List.mem_append, mem_filesOf_iff n, mem_filesOfAll_iff es]
    simp only [enteredFrom, enteredBelow, List.exists_mem_cons_iff, List.mem_append,
      or_and_right, exists_or]
    -- a file right in the folder is the first entry or among the others
    have hhere : ListedIn suffix skip (at_, (name, n) :: es) p content ↔
        (n = file content ∧ p = at_ ++ [name] ∧ skip p false = false ∧ suffixOf name = suffix) ∨
          ListedIn suffix skip (at_, es) p content := by
      simp only [ListedIn, List.mem_cons, Prod.mk.injEq, or_and_right, exists_or]
      refine or_congr_left ⟨?_, ?_⟩
      · rintro ⟨_, ⟨rfl, rfl⟩, h⟩
        exact ⟨rfl, h⟩
      · rintro ⟨rfl, h⟩
        exact ⟨name, ⟨rfl, rfl⟩, h⟩
    rw [hhere]
    exact or_or_or_comm

end

/-- The files of a tree that are listed are those right in folders that are entered. -/
theorem mem_sources_iff {tree : Node} {p : Path} {content : FileContent} :
    (p, content) ∈ tree.sources suffix skip ↔
      ∃ f ∈ tree.entered skip, ListedIn suffix skip f p content := by
  rw [sources, List.mem_mergeSort, mem_filesOfAll_iff]
  rfl

mutual

theorem enteredFrom_subset_enteredAt {at_ : Path} {name : String} {f : Folder} :
    ∀ n : Node, f ∈ enteredAt skip at_ name n → enteredFrom skip f ⊆ enteredAt skip at_ name n
  | file _ => by simp [enteredAt]
  | folder es => by
    rw [enteredAt]
    split_ifs
    · simp
    · intro hf
      obtain rfl | hf := List.mem_cons.mp hf
      · exact fun _ h => h
      · exact List.subset_cons_of_subset _ (enteredFrom_subset es hf)

/-- What is entered below a folder that is entered is entered itself. -/
theorem enteredFrom_subset {at_ : Path} {f : Folder} :
    ∀ es : List (String × Node), f ∈ enteredBelow skip at_ es →
      enteredFrom skip f ⊆ enteredBelow skip at_ es
  | [] => by simp [enteredBelow]
  | (name, n) :: es => by
    rw [enteredBelow]
    intro hf
    obtain hf | hf := List.mem_append.mp hf
    · exact List.subset_append_of_subset_left _ (enteredFrom_subset_enteredAt n hf)
    · exact List.subset_append_of_subset_right _ (enteredFrom_subset es hf)

end

theorem mem_enteredBelow {at_ : Path} {name : String} {inner es : List (String × Node)}
    (h : (name, folder inner) ∈ es) (hname : name ≠ historyFolder)
    (hskip : skip (at_ ++ [name]) true = false) :
    (at_ ++ [name], inner) ∈ enteredBelow skip at_ es := by
  induction es with
  | nil => cases h
  | cons e es ih =>
    rw [enteredBelow, List.mem_append]
    obtain rfl | h := List.mem_cons.mp h
    · left
      rw [enteredAt, if_neg (by simp [hname, hskip])]
      exact List.mem_cons_self
    · exact .inr (ih h)

/-- A folder right below one that is entered is entered unless it is passed over. -/
theorem mem_entered_below {tree : Node} {f : Folder} (hf : f ∈ tree.entered skip) {name : String}
    {inner : List (String × Node)} (h : (name, folder inner) ∈ f.2)
    (hname : name ≠ historyFolder) (hskip : skip (f.1 ++ [name]) true = false) :
    (f.1 ++ [name], inner) ∈ tree.entered skip := by
  have hbelow := mem_enteredBelow h hname hskip
  obtain rfl | hf := List.mem_cons.mp hf
  · exact List.mem_cons_of_mem _ hbelow
  · exact List.mem_cons_of_mem _ (enteredFrom_subset _ hf (List.mem_cons_of_mem f hbelow))

/-- The folders that are entered below a folder: for each entry that is a folder and is not
ignored, that folder and what is entered below it. -/
theorem enteredBelow_eq (m : Matcher) (at_ : Path) (es : List (String × Node)) :
    enteredBelow (skipIgnored (some m)) at_ es =
      (foldersIn m at_ es).flatMap (enteredFrom (skipIgnored (some m))) := by
  induction es with
  | nil => rfl
  | cons e es ih =>
    obtain ⟨name, n⟩ := e
    cases n with
    | file content => simpa [enteredBelow, enteredAt, foldersIn] using ih
    | folder inner =>
      rw [enteredBelow, enteredAt, ih]
      simp only [foldersIn, List.filterMap_cons]
      by_cases hskip : name == historyFolder || m.ignores (at_ ++ [name]).text true
      · rw [if_pos hskip]
        simp [skipIgnored, hskip]
      · rw [if_neg hskip]
        simp [skipIgnored, hskip, enteredFrom]

end Node

end Marginalia
