/-
Relative imports and the layout of the files.

Two functions say which module is which.  `Analyzer.moduleOf` reads the name of a module off the
path of its file, and `ModuleName.importBase` puts together the name of the module that an import
with dots in front asks for.  They have to agree: an import that climbs some folders up and then
names a module has to ask for the module of the file in that place.

* `Analyzer.moduleOf_sourcePath` — the module of a file from the parts of its path;
* `ModuleName.relativePath` — the path that a relative import leads to;
* `ModuleName.importBase_below` — what a relative import asks for, unless it stands in the package
  that the root is itself;
* `ModuleName.importBase_root` — and what it asks for there;
* `Analyzer.relative_import_agrees` — the two agree, but for imports in the package that the root
  is, and imports of the file that makes a folder a package;
* `Analyzer.relative_import_misses` — a root that is a package and imports a module beside it.
-/
import Marginalia.Project
import Marginalia.Proofs.DottedName

namespace Marginalia

/-! ### Parts of dotted names -/

/-- A text that can be a part of a dotted name. -/
def Dotted.IsPart (p : String) : Prop := p ≠ "" ∧ '.' ∉ p.toList

instance (p : String) : Decidable (Dotted.IsPart p) :=
  inferInstanceAs (Decidable (p ≠ "" ∧ '.' ∉ p.toList))

namespace Dotted

variable {ps : List String}

theorem ne_empty_of_parts {name : String} (h : ∀ p ∈ parts name, IsPart p) : name ≠ "" := by
  rintro rfl
  have hnone : "" ∈ parts "" := by decide
  exact (h "" hnone).1 rfl

theorem isEmpty_join (hne : ps ≠ []) (hps : ∀ p ∈ ps, IsPart p) : (join ps).isEmpty = false := by
  have hparts : ∀ p ∈ parts (join ps), IsPart p := by
    rwa [parts_join hne fun p hp => (hps p hp).2]
  simpa using ne_empty_of_parts hparts

end Dotted

/-! ### The module of a file -/

namespace ModuleName

variable {root file S : String} {dirs ps : List String} {level : Nat}

theorem ofPath_of_getLast?_ne (hne : ps ≠ []) (hps : ∀ p ∈ ps, Dotted.IsPart p)
    (hlast : ps.getLast? ≠ some packageFile) : ofPath root ps = ⟨Dotted.join ps, false⟩ := by
  have hplain : (ps.getLast? == some packageFile) = false := by simpa using hlast
  simp [ofPath, hplain, Dotted.isEmpty_join hne hps]

theorem ofPath_package (hps : ∀ p ∈ ps, Dotted.IsPart p) :
    ofPath root (ps ++ [packageFile]) = ⟨if ps = [] then root else Dotted.join ps, true⟩ := by
  have hlast : ((ps ++ [packageFile]).getLast? == some packageFile) = true := by simp
  rw [ofPath, hlast, if_pos rfl, List.dropLast_concat]
  by_cases hne : ps = []
  · rw [hne]
    rfl
  · rw [if_neg hne, Dotted.isEmpty_join hne hps]
    rfl

/-- The packages around a file that is not the root itself are the folders it stands in. -/
theorem packages_ofPath (hdirs : ∀ d ∈ dirs, Dotted.IsPart d) (hfile : Dotted.IsPart file)
    (hbelow : dirs ≠ [] ∨ file ≠ packageFile) :
    packages (ofPath root (dirs ++ [file])) = dirs := by
  by_cases hpackage : file = packageFile
  · have hne : dirs ≠ [] := hbelow.resolve_right (not_not_intro hpackage)
    rw [hpackage, ofPath_package hdirs, if_neg hne]
    simp [packages, Dotted.isEmpty_join hne hdirs, Dotted.parts_join hne fun d hd => (hdirs d hd).2]
  · have hne : dirs ++ [file] ≠ [] := List.append_ne_nil_of_right_ne_nil dirs (List.cons_ne_nil _ _)
    have hall : ∀ p ∈ dirs ++ [file], Dotted.IsPart p := by
      intro p hp
      rcases List.mem_append.mp hp with hp | hp
      · exact hdirs p hp
      · rwa [List.mem_singleton.mp hp]
    rw [ofPath_of_getLast?_ne hne hall (by simpa using hpackage)]
    simp [packages, Dotted.isEmpty_join hne hall, Dotted.parts_join hne fun p hp => (hall p hp).2]

/-! ### What a relative import asks for -/

/-- The path that a relative import of a name leads to from a file in some folders: a dot stands for
the folder of the file, and each further one for the folder around. -/
def relativePath (dirs : List String) (level : Nat) (S : String) : List String :=
  dirs.take (dirs.length + 1 - level) ++ Dotted.parts S

theorem relativePath_ne_nil (dirs : List String) (level : Nat) (S : String) :
    relativePath dirs level S ≠ [] :=
  List.append_ne_nil_of_right_ne_nil _ (Dotted.parts_ne_nil S)

theorem relativePath_here (S : String) : relativePath [] level S = Dotted.parts S := by
  rw [relativePath, List.take_nil, List.nil_append]

theorem isPart_relativePath (hdirs : ∀ d ∈ dirs, Dotted.IsPart d)
    (hS : ∀ p ∈ Dotted.parts S, Dotted.IsPart p) (level : Nat) :
    ∀ p ∈ relativePath dirs level S, Dotted.IsPart p := by
  intro p hp
  rcases List.mem_append.mp hp with hp | hp
  · exact hdirs p (List.mem_of_mem_take hp)
  · exact hS p hp

theorem climb_of_le {packages : List String} {steps : Nat} (h : steps ≤ packages.length) :
    climb packages steps = packages.take (packages.length - steps) := by
  rw [climb, if_pos h]

/-- An import asks for the module below the folder it climbs to. -/
theorem importBase_below (hdirs : ∀ d ∈ dirs, Dotted.IsPart d) (hfile : Dotted.IsPart file)
    (hbelow : dirs ≠ [] ∨ file ≠ packageFile) (hS : S ≠ "") (hlevel : 1 ≤ level)
    (hclimb : level ≤ dirs.length + 1) :
    (ofPath root (dirs ++ [file])).importBase (some S) level =
      Dotted.join (relativePath dirs level S) := by
  have hsteps : level - 1 ≤ dirs.length := by omega
  have hdepth : dirs.length - (level - 1) = dirs.length + 1 - level := by omega
  have hnamed : S.isEmpty = false := by simpa using hS
  rw [importBase, if_neg (by omega), packages_ofPath hdirs hfile hbelow, climb_of_le hsteps,
    hdepth, Option.getD_some, hnamed]
  -- the name is put behind the folders as it is, dots included
  exact Dotted.join_concat _ S

/-- In the package that the root is, an import asks for a module below the name of the root. -/
theorem importBase_root (root : String) (hS : S ≠ "") :
    (ofPath root [packageFile]).importBase (some S) 1 = Dotted.under root S := by
  have hmodule : ofPath root [packageFile] = ⟨root, true⟩ := by
    have hnone : ∀ p ∈ ([] : List String), Dotted.IsPart p := by simp
    exact ofPath_package hnone
  have hnamed : S.isEmpty = false := by simpa using hS
  rw [hmodule, importBase, if_neg one_ne_zero, climb_of_le (Nat.zero_le _), Nat.sub_zero,
    List.take_length, Option.getD_some, hnamed]
  by_cases hroot : root = ""
  · rw [hroot, Dotted.under_empty]
    exact Dotted.join_singleton S
  · have hparts : packages ⟨root, true⟩ = Dotted.parts root := by simp [packages, hroot]
    rw [hparts, Dotted.under_of_ne_empty hroot]
    exact (Dotted.join_append_singleton (Dotted.parts_ne_nil root) S).trans
      (by rw [Dotted.join_parts])

/-! ### What there is -/

/-- A relative import of a module finds it, but for those in the package that the root is. -/
theorem importBase_eq_iff (hdirs : ∀ d ∈ dirs, Dotted.IsPart d) (hfile : Dotted.IsPart file)
    (hS : ∀ p ∈ Dotted.parts S, Dotted.IsPart p) (hlevel : 1 ≤ level)
    (hclimb : level ≤ dirs.length + 1) (hlast : (Dotted.parts S).getLast? ≠ some packageFile) :
    (ofPath root (dirs ++ [file])).importBase (some S) level =
        (ofPath root (relativePath dirs level S)).dotted ↔
      ¬(dirs = [] ∧ file = packageFile ∧ root ≠ "") := by
  have hSne : S ≠ "" := Dotted.ne_empty_of_parts hS
  have hplain : (relativePath dirs level S).getLast? ≠ some packageFile := by
    rwa [relativePath, List.getLast?_append_of_ne_nil _ (Dotted.parts_ne_nil S)]
  rw [ofPath_of_getLast?_ne (relativePath_ne_nil dirs level S)
    (isPart_relativePath hdirs hS level) hplain]
  by_cases hroot : dirs = [] ∧ file = packageFile
  · -- the name of the root stands in front of what is asked for, not of what there is
    obtain ⟨rfl, rfl⟩ := hroot
    obtain rfl : level = 1 := le_antisymm hclimb hlevel
    rw [List.nil_append, importBase_root root hSne, relativePath_here, Dotted.join_parts,
      Dotted.under_eq_right_iff]
    simp
  · have hbelow : dirs ≠ [] ∨ file ≠ packageFile := not_and_or.mp hroot
    rw [importBase_below hdirs hfile hbelow hSne hlevel hclimb]
    exact iff_of_true rfl fun hboth => hroot ⟨hboth.1, hboth.2.1⟩

/-- The file that makes a folder a package goes by the name of the folder, so nothing is found
under its own. -/
theorem importBase_ne_of_packageFile (hdirs : ∀ d ∈ dirs, Dotted.IsPart d)
    (hfile : Dotted.IsPart file) (hS : ∀ p ∈ Dotted.parts S, Dotted.IsPart p) (hlevel : 1 ≤ level)
    (hclimb : level ≤ dirs.length + 1) (hlast : (Dotted.parts S).getLast? = some packageFile)
    (hrootName : root ≠ packageFile) :
    (ofPath root (dirs ++ [file])).importBase (some S) level ≠
      (ofPath root (relativePath dirs level S)).dotted := by
  have hSne : S ≠ "" := Dotted.ne_empty_of_parts hS
  obtain ⟨ys, hys⟩ := List.getLast?_eq_some_iff.mp hlast
  have hpath : relativePath dirs level S =
      (dirs.take (dirs.length + 1 - level) ++ ys) ++ [packageFile] := by
    rw [relativePath, hys, List.append_assoc]
  have hfolders : ∀ p ∈ dirs.take (dirs.length + 1 - level) ++ ys, Dotted.IsPart p := by
    intro p hp
    refine isPart_relativePath hdirs hS level p ?_
    rw [hpath]
    exact List.mem_append_left _ hp
  by_cases hroot : dirs = [] ∧ file = packageFile
  · obtain ⟨rfl, rfl⟩ := hroot
    obtain rfl : level = 1 := le_antisymm hclimb hlevel
    rw [List.take_nil, List.nil_append] at hpath hfolders
    rw [hpath, ofPath_package hfolders, List.nil_append, importBase_root root hSne]
    by_cases hne : ys = []
    · rw [if_pos hne]
      exact Dotted.under_ne_left hSne root
    · -- what is asked for is longer than the name that is found
      intro hsame
      rw [if_neg hne] at hsame
      have hlonger := Dotted.length_lt_join_append hne packageFile
      rw [← hys, Dotted.join_parts] at hlonger
      have hunder := Dotted.length_le_under root S
      rw [hsame] at hunder
      exact absurd hunder (not_le.mpr hlonger)
  · have hbelow : dirs ≠ [] ∨ file ≠ packageFile := not_and_or.mp hroot
    rw [importBase_below hdirs hfile hbelow hSne hlevel hclimb, hpath, ofPath_package hfolders]
    by_cases hne : dirs.take (dirs.length + 1 - level) ++ ys = []
    · -- the root goes by a name of its own
      rw [if_pos hne, hne, List.nil_append, Dotted.join_singleton]
      exact hrootName.symm
    · intro hsame
      rw [if_neg hne] at hsame
      have hlonger := Dotted.length_lt_join_append hne packageFile
      rw [hsame] at hlonger
      exact lt_irrefl _ hlonger

end ModuleName

namespace Analyzer

open ModuleName

/-- The source file that a path of parts names below the root. -/
def sourcePath (ps : List String) : Path :=
  ps.dropLast ++ (ps.getLast?.map (· ++ sourceSuffix)).toList

theorem moduleOf_sourcePath (root : String) (ps : List String) :
    moduleOf root (sourcePath ps) = ofPath root ps := by
  rcases List.eq_nil_or_concat ps with rfl | ⟨dirs, file, rfl⟩
  · rfl
  · have hpath : sourcePath (dirs ++ [file]) = dirs ++ [file ++ sourceSuffix] := by
      simp [sourcePath]
    have hstem : String.ofList ((file ++ sourceSuffix).toList.take
        ((file ++ sourceSuffix).length - sourceSuffix.length)) = file := by
      rw [String.length_append, Nat.add_sub_cancel, String.toList_append, ← String.length_toList,
        List.take_left, String.ofList_toList]
    rw [List.concat_eq_append, hpath, moduleOf, List.dropLast_concat, List.getLast?_concat]
    exact congrArg (fun name => ofPath root (dirs ++ [name])) hstem

/-- **Relative imports follow the files.**  Take a file in some folders below the root, and in it
a relative import that names something and climbs no further than to the root.  Unless the name ends
in that of the file that makes a folder a package, the import asks for the module of the file that
has this name below the folder it climbs to, exactly if the file it stands in is not the one that
makes the root a package, or if the root has no name.  When the name ends so, the import asks for a
name that the file there does not go by. -/
theorem relative_import_agrees {root file S : String} {dirs : List String} {level : Nat}
    (hdirs : ∀ d ∈ dirs, Dotted.IsPart d) (hfile : Dotted.IsPart file)
    (hS : ∀ p ∈ Dotted.parts S, Dotted.IsPart p) (hlevel : 1 ≤ level)
    (hclimb : level ≤ dirs.length + 1) :
    ((Dotted.parts S).getLast? ≠ some packageFile →
      ((moduleOf root (sourcePath (dirs ++ [file]))).importBase (some S) level =
          (moduleOf root (sourcePath (relativePath dirs level S))).dotted ↔
        ¬(dirs = [] ∧ file = packageFile ∧ root ≠ ""))) ∧
    ((Dotted.parts S).getLast? = some packageFile → root ≠ packageFile →
      (moduleOf root (sourcePath (dirs ++ [file]))).importBase (some S) level ≠
        (moduleOf root (sourcePath (relativePath dirs level S))).dotted) := by
  rw [moduleOf_sourcePath, moduleOf_sourcePath]
  exact ⟨importBase_eq_iff hdirs hfile hS hlevel hclimb,
    importBase_ne_of_packageFile hdirs hfile hS hlevel hclimb⟩

/-- In `a/b/m.py`, an import of two dots asks for the module of `a/c/d.py` by its name, and for that
of `a/c/__init__.py` by another one than it has. -/
theorem relative_import_agrees_nested :
    (∀ d ∈ ["a", "b"], Dotted.IsPart d) ∧ Dotted.IsPart "m" ∧
      (∀ p ∈ Dotted.parts "c.d", Dotted.IsPart p) ∧
      (∀ p ∈ Dotted.parts "c.__init__", Dotted.IsPart p) ∧
      (moduleOf "project" ["a", "b", "m.py"]).importBase (some "c.d") 2 =
        (moduleOf "project" ["a", "c", "d.py"]).dotted ∧
      (moduleOf "project" ["a", "b", "m.py"]).importBase (some "c.__init__") 2 ≠
        (moduleOf "project" ["a", "c", "__init__.py"]).dotted := by
  have hdirs : ∀ d ∈ ["a", "b"], Dotted.IsPart d := by decide
  have hfile : Dotted.IsPart "m" := by decide
  have hmodule : ∀ p ∈ Dotted.parts "c.d", Dotted.IsPart p := by decide
  have hpackage : ∀ p ∈ Dotted.parts "c.__init__", Dotted.IsPart p := by decide
  have hroot : "project" ≠ packageFile := by decide
  have hfound := ((@relative_import_agrees "project" "m" "c.d" ["a", "b"] 2 hdirs hfile hmodule
    one_le_two (by decide)).1 (by decide)).mpr (by decide)
  have hmissed := (relative_import_agrees hdirs hfile hpackage one_le_two (by decide)).2
    (by decide) hroot
  exact ⟨hdirs, hfile, hmodule, hpackage, hfound, hmissed⟩

/-- A root that is a package does not find the module beside its own file. -/
theorem relative_import_misses :
    ¬ ∀ (root file S : String) (dirs : List String) (level : Nat),
      (∀ d ∈ dirs, Dotted.IsPart d) → Dotted.IsPart file →
      (∀ p ∈ Dotted.parts S, Dotted.IsPart p) → 1 ≤ level → level ≤ dirs.length + 1 →
        (moduleOf root (sourcePath (dirs ++ [file]))).importBase (some S) level =
          (moduleOf root (sourcePath (relativePath dirs level S))).dotted := by
  intro hagree
  have hsame := hagree "project" packageFile "s" [] 1 (by simp) (by decide) (by decide) le_rfl
    le_rfl
  have hasked : (moduleOf "project" (sourcePath ([] ++ [packageFile]))).importBase (some "s") 1 =
      "project.s" := by decide
  have hthere : (moduleOf "project" (sourcePath (Dotted.parts "s"))).dotted = "s" := by decide
  have hname : "project.s" = "s" := hasked.symm.trans (hsame.trans hthere)
  revert hname
  decide

end Analyzer

end Marginalia
