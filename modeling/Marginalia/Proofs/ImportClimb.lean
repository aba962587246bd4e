/-
Relative imports that climb.

The first dot of a relative import stands for the innermost package around the module, and each
further one climbs to the package around that.  The packages that are left are a beginning of the
packages of the module, so only their number matters.  It falls dot by dot until none is left.  The
next dot climbs past the outermost package, and the steps that are missing are then counted from the
innermost one again: all packages but one are left, and with further dots their number falls a
second time.

* `ModuleName.kept`, `ModuleName.length_kept` — the packages that are left, and their number;
* `ModuleName.ClimbsBack` — the pairs of levels of which the higher one does not leave less;
* `ModuleName.kept_ne_nil_iff` — the levels behind the last package that leave some;
* `Elaboration.climbing_import` — climbing further leaves less, but for these pairs, and an import
  that has climbed out of all packages asks for something in one of them at these levels only;
* `Elaboration.climbing_import_returns` — in `a.b.c` an import of three dots has left both packages,
  and one of four dots is in `a` again.
-/
import Marginalia.Proofs.RelativeImports
import Marginalia.Proofs.SiteElaboration
import Marginalia.Proofs.TableCalls

namespace Marginalia

/-- A name is that of a package, or of something in it. -/
def Dotted.IsIn (package name : String) : Prop := name = package ∨ ∃ x, name = package ++ "." ++ x

namespace ModuleName

variable {m : ModuleName} {l l' level : Nat}

/-- The packages that are left when a relative import has climbed. -/
def kept (m : ModuleName) (level : Nat) : List String := climb m.packages (level - 1)

/-- The names of the packages around a module, the outermost first. -/
def ancestors (m : ModuleName) : List String :=
  (List.range m.packages.length).map fun k => Dotted.join (m.packages.take (k + 1))

/-- The lower one of two levels climbs to a package or to the root, and the higher one climbs past
it and leaves as many packages or more. -/
def ClimbsBack (m : ModuleName) (l l' : Nat) : Prop :=
  l ≤ m.packages.length + 1 ∧ m.packages.length + 1 < l' ∧ l' ≤ m.packages.length + l ∧
    l' ≤ 2 * m.packages.length

instance (m : ModuleName) (l l' : Nat) : Decidable (m.ClimbsBack l l') :=
  inferInstanceAs (Decidable (_ ∧ _))

/-! ### How many packages are left -/

theorem exists_kept_eq_take (m : ModuleName) (level : Nat) :
    ∃ k, m.kept level = m.packages.take k := by
  unfold kept climb
  dsimp only
  split
  · exact ⟨_, rfl⟩
  · exact ⟨_, rfl⟩

/-- What is left is a beginning of the packages, so it is known by its length. -/
theorem kept_eq_take (m : ModuleName) (level : Nat) :
    m.kept level = m.packages.take (m.kept level).length := by
  obtain ⟨k, hk⟩ := exists_kept_eq_take m level
  rw [hk, List.length_take]
  by_cases h : k ≤ m.packages.length
  · rw [min_eq_left h]
  · have hall : m.packages.length ≤ k := by omega
    rw [min_eq_right hall, List.take_length, List.take_of_length_le hall]

/-- Up to the root every dot leaves one package less; the first one behind it starts anew. -/
theorem length_kept (h : 1 ≤ level) :
    (m.kept level).length =
      if level ≤ m.packages.length + 1 then m.packages.length + 1 - level
      else 2 * m.packages.length + 1 - level := by
  unfold kept climb
  dsimp only
  by_cases hroot : level ≤ m.packages.length + 1
  · rw [if_pos (by omega), if_pos hroot, List.length_take]
    omega
  · rw [if_neg (by omega), if_neg hroot, List.length_take]
    omega

theorem kept_isPrefix_iff :
    m.kept l' <+: m.kept l ↔ (m.kept l').length ≤ (m.kept l).length := by
  constructor
  · exact List.IsPrefix.length_le
  · intro hle
    rw [kept_eq_take m l', kept_eq_take m l]
    exact List.take_prefix_take_left hle

/-- Of two levels the higher one leaves less, unless the import climbs back in between. -/
theorem kept_descends_iff (hl : 1 ≤ l) (hlevels : l < l') :
    (m.kept l' <+: m.kept l ∧ (m.kept l = [] ∨ (m.kept l').length < (m.kept l).length)) ↔
      ¬ m.ClimbsBack l l' := by
  have hl' : 1 ≤ l' := by omega
  -- beginnings of one list are told apart by their lengths, so that only numbers are left
  rw [kept_isPrefix_iff, ← List.length_eq_zero_iff, length_kept hl, length_kept hl', ClimbsBack]
  split <;> split <;> omega

/-- An import that has climbed to the root or past it is in a package again at some levels. -/
theorem kept_ne_nil_iff (h : m.packages.length < level) :
    m.kept level ≠ [] ↔ m.packages.length + 1 < level ∧ level ≤ 2 * m.packages.length := by
  rw [← List.length_pos_iff, length_kept (by omega)]
  split <;> omega

/-! ### What is asked for -/

theorem mem_ancestors_of_kept (h : m.kept level ≠ []) :
    Dotted.join (m.kept level) ∈ m.ancestors := by
  have hpos : 0 < (m.kept level).length := List.length_pos_iff.mpr h
  have hle : (m.kept level).length ≤ m.packages.length := by
    have htake := congrArg List.length (kept_eq_take m level)
    rw [List.length_take] at htake
    omega
  refine List.mem_map.mpr ⟨(m.kept level).length - 1, List.mem_range.mpr (by omega), ?_⟩
  rw [Nat.sub_add_cancel hpos, ← kept_eq_take]

/-- Without a package left, the name behind the dots is asked for as it stands. -/
theorem importBase_of_kept_nil (module : Option String) (hlevel : 1 ≤ level)
    (h : m.kept level = []) : m.importBase module level = module.getD "" := by
  unfold kept at h
  rw [importBase, if_neg (by omega), h]
  dsimp only
  by_cases hnamed : module.getD "" = ""
  · rw [hnamed]
    rfl
  · rw [if_neg (by simpa using hnamed), List.nil_append, Dotted.join_singleton]

/-- With some left, it is asked for in the innermost of them. -/
theorem importBase_of_kept_ne_nil (module : Option String) (hlevel : 1 ≤ level)
    (h : m.kept level ≠ []) :
    Dotted.IsIn (Dotted.join (m.kept level)) (m.importBase module level) := by
  unfold kept at h ⊢
  rw [importBase, if_neg (by omega)]
  dsimp only
  by_cases hnamed : module.getD "" = ""
  · rw [hnamed]
    exact .inl rfl
  · rw [if_neg (by simpa using hnamed)]
    exact .inr ⟨_, Dotted.join_append_singleton h _⟩

end ModuleName

namespace Elaboration

open ModuleName

/-- The names of an import are bound to what has them in the module that is asked for. -/
theorem table_importNames (m : ModuleSetting) (b : Body) (base : String)
    (names : List ImportedName) (s : Findings) :
    (outcome (importNames m b base names) s).2.compilation.table =
      s.compilation.table.after ((names.filter fun i => i.name != "*").map fun i =>
        .addAlias m.name.dotted (Dotted.under b.qualifier (i.boundAs.getD i.name)) base
          i.name) := by
  induction names generalizing s with
  | nil => rfl
  | cons i rest ih =>
    rw [importNames, List.filter_cons]
    by_cases hall : (i.name != "*") = true
    · rw [if_pos hall, if_pos hall, List.map_cons, Table.after_cons]
      exact ih _
    · rw [if_neg hall, if_neg hall]
      exact ih s

/-- **Climbing further.**  Of two levels of relative imports in a module, the higher one leaves a
beginning of the packages that the lower one leaves, and less than that unless nothing was left,
exactly if it does not climb back.  An import binds each of its names to what has this name in the
module that it asks for.  When it has climbed to the root or past it, at the levels from the second
one behind the last package up to twice the number of packages this is one of the packages around
the module or something in them, and at all others it is what is written behind the dots. -/
theorem climbing_import (m : ModuleSetting) (b : Body) (p : Place) (module : Option String)
    (names : List ImportedName) (s : Findings) {l l' : Nat} (hl : 1 ≤ l) (hlevels : l < l') :
    ((m.name.kept l' <+: m.name.kept l ∧
        (m.name.kept l = [] ∨ (m.name.kept l').length < (m.name.kept l).length)) ↔
      ¬ m.name.ClimbsBack l l') ∧
    ∀ level, m.name.packages.length < level →
      (outcome (statement m b (.importNames p module names level)) s).2.compilation.table =
        s.compilation.table.after ((names.filter fun i => i.name != "*").map fun i =>
          .addAlias m.name.dotted (Dotted.under b.qualifier (i.boundAs.getD i.name))
            (m.name.importBase module level) i.name) ∧
      if m.name.packages.length + 1 < level ∧ level ≤ 2 * m.name.packages.length then
        ∃ a ∈ m.name.ancestors, Dotted.IsIn a (m.name.importBase module level)
      else m.name.importBase module level = module.getD "" := by
  refine ⟨kept_descends_iff hl hlevels, fun level hout => ?_⟩
  have hlevel : 1 ≤ level := by omega
  -- the names are bound under any base; the levels only decide which one it is
  refine ⟨?_, ?_⟩
  · rw [statement]
    exact table_importNames m b _ names s
  · split
    · rename_i hback
      have hkept : m.name.kept level ≠ [] := (kept_ne_nil_iff hout).mpr hback
      exact ⟨_, mem_ancestors_of_kept hkept, importBase_of_kept_ne_nil module hlevel hkept⟩
    · rename_i hstays
      have hkept : m.name.kept level = [] :=
        not_ne_iff.mp fun h => hstays ((kept_ne_nil_iff hout).mp h)
      exact importBase_of_kept_nil module hlevel hkept

/-- A module two packages deep. -/
def nestedModule : ModuleSetting := { sampleModule with name := ⟨"a.b.c", false⟩ }

/-- An import of four dots, which is one more than lead to the root. -/
def fourDots : Statement := .importNames ⟨1, 0⟩ none [⟨"f", none⟩] 4

/-- Two dots lead to `a` and three out of it, and four are in `a` again. -/
theorem climbing_import_nested :
    1 ≤ 2 ∧ 2 < 3 ∧ nestedModule.name.kept 2 = ["a"] ∧
      nestedModule.name.kept 3 <+: nestedModule.name.kept 2 ∧
      (nestedModule.name.kept 3).length < (nestedModule.name.kept 2).length ∧
      (outcome (statement nestedModule {} fourDots) sampleFindings).2.compilation.table.binding?
        ("a.b.c", "f") = some (.sameAs ("a", "f")) ∧
      ∃ a ∈ nestedModule.name.ancestors, Dotted.IsIn a "a" := by
  have hlow : nestedModule.name.kept 2 = ["a"] := by decide
  have hdepth : nestedModule.name.packages.length = 2 := by decide
  have hbase : nestedModule.name.importBase none 4 = "a" := by decide
  obtain ⟨hdescends, hout⟩ := climbing_import nestedModule {} ⟨1, 0⟩ none [⟨"f", none⟩]
    sampleFindings one_le_two (Nat.lt_succ_self 2)
  obtain ⟨hbegins, hless⟩ := hdescends.mpr (by decide)
  obtain ⟨htable, hback⟩ := hout 4 (by rw [hdepth]; decide)
  rw [hdepth, if_pos (by decide), hbase] at hback
  rw [hbase] at htable
  refine ⟨one_le_two, Nat.lt_succ_self 2, hlow, hbegins, hless.resolve_left (by rw [hlow]; simp),
    ?_, hback⟩
  rw [fourDots, htable]
  rfl

/-- In `a.b.c` three dots leave no package, and four dots leave `a`. -/
theorem climbing_import_returns :
    ¬ ∀ (m : ModuleName) (l l' : Nat), 1 ≤ l → l < l' →
      m.kept l' <+: m.kept l ∧ (m.kept l = [] ∨ (m.kept l').length < (m.kept l).length) := by
  intro hclaim
  -- four dots leave `a`, which is no beginning of the nothing that three dots leave
  have hbegins := (hclaim ⟨"a.b.c", false⟩ 3 4 (by decide) (by decide)).1
  have hnone : kept ⟨"a.b.c", false⟩ 3 = [] := by decide
  have hback : kept ⟨"a.b.c", false⟩ 4 = ["a"] := by decide
  rw [hnone, hback] at hbegins
  exact absurd hbegins (by decide)

end Elaboration

end Marginalia
