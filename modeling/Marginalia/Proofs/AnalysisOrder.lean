/-
Two modules analysed in either order.

Annotations are evaluated with the names of their own module, so the order in which two modules
are analysed hardly matters to what is recorded.  It does where an assignment spells a name that
the other module declares: the name becomes another name once the declaration is known, and has a
value before.  It does where a function of the host looks at what was declared, and where one
module changes an object of the host that the other one looks at.

* `ModuleSource`, `Analyzer.after` — a module, and what its analysis leaves behind;
* `Analyzer.ChoosesAlike` — each assignment of a module makes another name on both of two tables
  or on neither;
* `Analyzer.analysed_in_either_order` — two modules in either order;
* `Analyzer.analysed_in_either_order_not` — a name that the other module declares, a function
  that counts declarations, and a list that both modules share.
-/
import Marginalia.Proofs.RenumberedElaboration

namespace Marginalia

namespace Analyzer

/-! ### One module behind different others -/

/-- A module: its name, its file, and what was read from its text. -/
structure ModuleSource where
  name : ModuleName
  file : String
  read : Except SourceFault (List Statement)

/-- What the analysis of a module leaves behind. -/
def after (f : Analyzer) (M : ModuleSource) (c : Compilation) : Compilation :=
  (f.elaborate M.name M.file M.read c).2

/-- Each assignment of a module makes another name on both of two tables or on neither. -/
def ChoosesAlike (f : Analyzer) (M : ModuleSource) (t t' : Table) : Prop :=
  ∀ body, M.read = .ok body →
    Elaboration.allSameChoices (f.module M.name M.file) t t'
      (Elaboration.moduleSteps (f.module M.name M.file) body) = true

/-- What two compilations say about a declaration of a module that is analysed in both. -/
structure SaysSame (x x' : Standing) : Prop where
  declared : x'.declared = x.declared
  visited : x'.visited = x.visited
  records : List.Forall₂ SameContent x.records x'.records

/-- The pairing of two runs that are to record the same, whatever they report. -/
def recordingPair (z : Shift) (c c' : Compilation) : Pairing where
  shift := z
  records _ := List.Forall₂ SameContent
  reports _ _ := True
  start := c.about
  start' := c'.about
  recorded h lvs hstored := by
    refine List.rel_append h ?_
    rw [List.map_map, List.forall₂_map_left_iff, List.forall₂_map_right_iff, List.forall₂_same]
    exact fun lv hlv => recordedAs_renumber z (hstored lv hlv)
  reported _ _ := trivial

variable {f : Analyzer} {M : ModuleSource} {c c' : Compilation} {limit : Nat}

/-- What the analysis of a module leaves behind, in two compilations. -/
structure LeavesAlike (f : Analyzer) (M : ModuleSource) (c c' : Compilation) : Prop where
  sound : (f.after M c).Sound
  own : ∀ key : DeclarationKey, key.1 = M.name.dotted →
    SaysSame ((f.after M c).about key) ((f.after M c').about key)
  apart : ∀ key : DeclarationKey, key.1 ≠ M.name.dotted → (f.after M c).about key = c.about key

theorem after_of_error {fault : SourceFault} (hread : M.read = .error fault) (c : Compilation) :
    f.after M c = c := by
  rw [after, hread]
  rfl

theorem after_of_ok {body : List Statement} (hread : M.read = .ok body) (c : Compilation) :
    f.after M c =
      (outcome (Elaboration.runAll (f.module M.name M.file)
        (Elaboration.moduleSteps (f.module M.name M.file) body))
          { compilation := c }).2.compilation.forget c.created := by
  rw [after, hread, elaborate_compilation, Elaboration.wholeModule_eq]

theorem goesOn_after (hhost : f.host.Detached limit) (M : ModuleSource) (c : Compilation) :
    c.GoesOn (f.after M c) := by
  cases hread : M.read with
  | error fault =>
    rw [after_of_error hread]
    exact ⟨rfl, le_rfl⟩
  | ok body =>
    rw [after_of_ok hread]
    have hgoes := Host.MakesOnly.goesOn_runAll (m := f.module M.name M.file) hhost.makes
      (Elaboration.moduleSteps (f.module M.name M.file) body) { compilation := c }
    exact ⟨hgoes.annotatable, hgoes.created⟩

/-- A module that is analysed in two compilations which say the same about it, and in which no
object is changed that outlasts a module. -/
theorem leavesAlike (hhost : f.host.Detached limit) (hsound : c.Sound) (hsound' : c'.Sound)
    (hchanged : c.changed = []) (hchanged' : c'.changed = [])
    (hkinds : c'.annotatable = c.annotatable) (hcreated : c'.created ≤ c.created)
    (hlimit : (f.after M c).created ≤ limit) (hchoices : f.ChoosesAlike M c.table c'.table)
    (hown : ∀ key : DeclarationKey, key.1 = M.name.dotted → SaysSame (c.about key) (c'.about key)) :
    f.LeavesAlike M c c' := by
  cases hread : M.read with
  | error fault =>
    constructor <;> simp only [after_of_error hread]
    · exact hsound
    · exact hown
    · exact fun _ _ => trivial
  | ok body =>
    have hstart : c.created ≤ limit := (goesOn_after hhost M c).created.trans hlimit
    -- objects to come are numbered as those behind the other, earlier state
    obtain ⟨z, hz⟩ : ∃ z, z = Shift.back c.created c'.created limit hcreated hstart := ⟨_, rfl⟩
    have hinvariant : f.host.Invariant z := by
      subst hz
      exact hhost _ Shift.back_below
    have hbeside : (recordingPair z c c').Beside (f.module M.name M.file).name.dotted c c' :=
      { sound := hsound
        sound' := hsound'
        annotatable := hkinds
        abreast := ⟨⟨0, by subst hz; exact ⟨rfl, rfl⟩⟩, by rw [hchanged, hchanged']; rfl⟩
        own := fun key hkey => ⟨(hown key hkey).declared, (hown key hkey).visited,
          (hown key hkey).records⟩
        apart := fun _ _ => ⟨rfl, rfl⟩ }
    rw [after_of_ok hread] at hlimit
    have hbegun : (recordingPair z c c').Alongside (f.module M.name M.file).name.dotted
        { compilation := c } { compilation := c' } :=
      ⟨rfl, trivial, hbeside⟩
    obtain ⟨hafter, -⟩ := Pairing.alongside_runAll (m := f.module M.name M.file)
      (P := recordingPair z c c') hinvariant _ hbegun (hchoices body hread)
      (by subst hz; exact hlimit)
    constructor <;> simp only [after_of_ok hread]
    · exact hafter.beside.sound.made _ _
    · exact fun key hkey => ⟨(hafter.beside.own key hkey).declared,
        (hafter.beside.own key hkey).visited, (hafter.beside.own key hkey).records⟩
    · exact fun key hkey => (hafter.beside.apart key hkey).1

/-! ### Two modules -/

theorem SaysSame.records_same {key : DeclarationKey} (h : SaysSame (c.about key) (c'.about key)) :
    (c.identityAt? key = none ↔ c'.identityAt? key = none) ∧
      List.Forall₂ Record.Same (c.recordsAt key) (c'.recordsAt key) := by
  have hdeclared : (c'.identityAt? key ≠ none) = (c.identityAt? key ≠ none) := h.declared
  have hrecords : List.Forall₂ SameContent ((c.recordsAt key).map Record.content)
      ((c'.recordsAt key).map Record.content) := h.records
  rw [List.forall₂_map_left_iff, List.forall₂_map_right_iff] at hrecords
  exact ⟨not_iff_not.mp hdeclared.symm.to_iff, hrecords.imp fun _ _ h => h.same⟩

theorem SaysSame.symm {x x' : Standing} (h : SaysSame x x') : SaysSame x' x :=
  ⟨h.declared.symm, h.visited.symm, h.records.flip.imp fun _ _ h => h.symm⟩

/-- Fresh compilations say nothing about any declaration. -/
theorem saysSame_empty (token token' : Int) (kinds kinds' : List Kind) (key : DeclarationKey) :
    SaysSame ((Compilation.empty token kinds).about key)
      ((Compilation.empty token' kinds').about key) := by
  rw [Compilation.about_empty, Compilation.about_empty]
  exact ⟨rfl, rfl, .nil⟩

/-- **Two modules in either order.**  Two modules of different names, analysed in one order in one
fresh compilation and in the other order in another one, declare the same and give every
declaration the same records, provided that each assignment makes another name in both orders or in
neither, that neither module on its own changes an object which outlasts it, and that calls are
answered from their arguments alone. -/
theorem analysed_in_either_order {A B : ModuleSource} {token token' : Int} {kinds : List Kind}
    (hnames : A.name.dotted ≠ B.name.dotted) (hhost : f.host.Detached limit)
    (hA : f.ChoosesAlike A (f.after B (.empty token' kinds)).table
      (Compilation.empty token kinds).table)
    (hB : f.ChoosesAlike B (f.after A (.empty token kinds)).table
      (Compilation.empty token' kinds).table)
    (hchanged : (f.after A (.empty token kinds)).changed = [])
    (hchanged' : (f.after B (.empty token' kinds)).changed = [])
    (hlimit : (f.after B (f.after A (.empty token kinds))).created ≤ limit)
    (hlimit' : (f.after A (f.after B (.empty token' kinds))).created ≤ limit) :
    (∀ key : DeclarationKey,
      ((f.after B (f.after A (.empty token kinds))).identityAt? key = none ↔
        (f.after A (f.after B (.empty token' kinds))).identityAt? key = none) ∧
      List.Forall₂ Record.Same ((f.after B (f.after A (.empty token kinds))).recordsAt key)
        ((f.after A (f.after B (.empty token' kinds))).recordsAt key)) ∧
    ∀ text text', f.readSource text = A.read → f.readSource text' = B.read →
      (f.analyzeText B.name B.file text'
          (f.analyzeText A.name A.file text (.empty token kinds)).2).2 =
        f.after B (f.after A (.empty token kinds)) ∧
      (f.analyzeText A.name A.file text
          (f.analyzeText B.name B.file text' (.empty token' kinds)).2).2 =
        f.after A (f.after B (.empty token' kinds)) := by
  constructor
  · have hempty := Compilation.sound_empty token kinds
    have hempty' := Compilation.sound_empty token' kinds
    have hgoes := goesOn_after hhost A (.empty token kinds)
    have hgoes' := goesOn_after hhost B (.empty token' kinds)
    -- each module on its own
    have hfirst : f.LeavesAlike A (.empty token kinds) (.empty token kinds) :=
      leavesAlike hhost hempty hempty rfl rfl rfl le_rfl
        ((goesOn_after hhost B _).created.trans hlimit)
        (fun _ _ => Elaboration.allSameChoices_refl _ _ _) fun key _ => saysSame_empty _ _ _ _ key
    have hfirst' : f.LeavesAlike B (.empty token' kinds) (.empty token' kinds) :=
      leavesAlike hhost hempty' hempty' rfl rfl rfl le_rfl
        ((goesOn_after hhost A _).created.trans hlimit')
        (fun _ _ => Elaboration.allSameChoices_refl _ _ _) fun key _ => saysSame_empty _ _ _ _ key
    -- each module behind the other one, beside that on its own
    have hsecond : f.LeavesAlike B (f.after A (.empty token kinds)) (.empty token' kinds) :=
      leavesAlike hhost hfirst.sound hempty' hchanged rfl hgoes.annotatable.symm (Nat.zero_le _)
        hlimit hB fun key hkey => by
          rw [hfirst.apart key (hkey.trans_ne hnames.symm)]
          exact saysSame_empty _ _ _ _ key
    have hsecond' : f.LeavesAlike A (f.after B (.empty token' kinds)) (.empty token kinds) :=
      leavesAlike hhost hfirst'.sound hempty hchanged' rfl hgoes'.annotatable.symm
        (Nat.zero_le _) hlimit' hA fun key hkey => by
          rw [hfirst'.apart key (hkey.trans_ne hnames)]
          exact saysSame_empty _ _ _ _ key
    intro key
    apply SaysSame.records_same
    by_cases hkeyA : key.1 = A.name.dotted
    · rw [hsecond.apart key (hkeyA.trans_ne hnames)]
      exact (hsecond'.own key hkeyA).symm
    · rw [hsecond'.apart key hkeyA]
      by_cases hkeyB : key.1 = B.name.dotted
      · exact hsecond.own key hkeyB
      · rw [hsecond.apart key hkeyB, hfirst.apart key hkeyA, hfirst'.apart key hkeyB]
        exact saysSame_empty _ _ _ _ key
  · intro text text' htext htext'
    simp only [analyzeText_eq, htext, htext']
    exact ⟨rfl, rfl⟩

/-- A function that is annotated with an expression, in the third line. -/
def annotatedWith (e : Expr) : Statement :=
  .function ⟨3, 0⟩ "f" [] ⟨{}, [], [], []⟩ none [.call ⟨2, 1⟩ (.name ⟨2, 1⟩ "meta") [e] []]
    [.plain ⟨3, 9⟩ .pass []]

/-- A module with a number as a variable, and an annotation made with it. -/
def numberModule : ModuleSource :=
  ⟨⟨"A", false⟩, "A.py", .ok [.assign ⟨1, 0⟩ [.name ⟨1, 0⟩ "X"] (.literal ⟨1, 4⟩ (.int 1)),
    annotatedWith (.name ⟨2, 6⟩ "X")]⟩

/-- A package with a builtin class as a variable, and an annotation made with it. -/
def classPackage : ModuleSource :=
  ⟨⟨"B", true⟩, "B/__init__.py", .ok [.assign ⟨1, 0⟩ [.name ⟨1, 0⟩ "X"] (.name ⟨1, 4⟩ "int"),
    annotatedWith (.call ⟨2, 6⟩ (.name ⟨2, 6⟩ "X") [.literal ⟨2, 8⟩ (.int 3)] [])]⟩

/-- A module and a package in either order. -/
theorem analysed_in_either_order_package :
    numberModule.name.dotted ≠ classPackage.name.dotted ∧ ({} : Analyzer).host.Detached 100 ∧
      ({} : Analyzer).ChoosesAlike numberModule
        (({} : Analyzer).after classPackage (.empty 2 Kind.all)).table
        (Compilation.empty 1 Kind.all).table ∧
      ({} : Analyzer).ChoosesAlike classPackage
        (({} : Analyzer).after numberModule (.empty 1 Kind.all)).table
        (Compilation.empty 2 Kind.all).table ∧
      ((({} : Analyzer).after classPackage
        (({} : Analyzer).after numberModule (.empty 1 Kind.all))).recordsAt
          ("B", "f", .function)).length = 1 ∧
      List.Forall₂ Record.Same
        ((({} : Analyzer).after classPackage
          (({} : Analyzer).after numberModule (.empty 1 Kind.all))).recordsAt ("B", "f", .function))
        ((({} : Analyzer).after numberModule
          (({} : Analyzer).after classPackage (.empty 2 Kind.all))).recordsAt
            ("B", "f", .function)) := by
  have hnames : numberModule.name.dotted ≠ classPackage.name.dotted := by decide
  have hhost : ({} : Analyzer).host.Detached 100 := Host.detached_default 100
  have hA : ({} : Analyzer).ChoosesAlike numberModule
      (({} : Analyzer).after classPackage (.empty 2 Kind.all)).table
      (Compilation.empty 1 Kind.all).table := by
    rintro body ⟨⟩
    decide +kernel
  have hB : ({} : Analyzer).ChoosesAlike classPackage
      (({} : Analyzer).after numberModule (.empty 1 Kind.all)).table
      (Compilation.empty 2 Kind.all).table := by
    rintro body ⟨⟩
    decide +kernel
  exact ⟨hnames, hhost, hA, hB, by decide +kernel,
    ((analysed_in_either_order hnames hhost hA hB (List.isEmpty_iff.mp (by decide +kernel))
      (List.isEmpty_iff.mp (by decide +kernel)) (by decide +kernel) (by decide +kernel)).1
        ("B", "f", .function)).2⟩

/-- An empty module in the package, with the name of the class. -/
def emptyModule : ModuleSource := ⟨⟨"B.int", false⟩, "B/int.py", .ok []⟩

/-- A function that answers how many declarations there are. -/
def countingAnalyzer : Analyzer where
  host :=
    { names := [("count", .function "count")]
      call := fun _ _ c => (.ok (.int c.table.entries.length), c) }

/-- A module with an annotation that counts declarations. -/
def countingModule : ModuleSource :=
  ⟨⟨"A", false⟩, "A.py", .ok [annotatedWith (.call ⟨2, 6⟩ (.name ⟨2, 6⟩ "count") [] [])]⟩

/-- A list that every module reaches. -/
def sharingAnalyzer : Analyzer where
  host := { names := [("shared", .list 200 [])] }

/-- A module with an annotation that appends to the list. -/
def appendingModule : ModuleSource :=
  ⟨⟨"A", false⟩, "A.py", .ok [annotatedWith (.list ⟨2, 6⟩
    [.call ⟨2, 7⟩ (.access ⟨2, 7⟩ (.name ⟨2, 7⟩ "shared") "append")
      [.literal ⟨2, 21⟩ (.int 1)] []])]⟩

/-- A module with an annotation that tells the items of the list. -/
def tellingModule : ModuleSource :=
  ⟨⟨"B", false⟩, "B.py", .ok [annotatedWith (.call ⟨2, 6⟩ (.name ⟨2, 6⟩ "tuple")
    [.name ⟨2, 12⟩ "shared"] [])]⟩

/-- The list has a number above those that are given. -/
theorem detached_sharingAnalyzer : sharingAnalyzer.host.Detached 100 := by
  refine Host.detached_of_refusals (fun f hf e he => ?_) fun _ _ _ => rfl
  obtain rfl := List.mem_singleton.mp he
  simp [hf 200 (by decide)]

/-- Two modules give every declaration the same records in either order. -/
def RecordsInEitherOrder (f : Analyzer) : Prop :=
  ∀ (A B : ModuleSource) (token token' : Int) (kinds : List Kind),
    A.name.dotted ≠ B.name.dotted → A.file ≠ B.file → ∀ key : DeclarationKey,
      List.Forall₂ Record.Same ((f.after B (f.after A (.empty token kinds))).recordsAt key)
        ((f.after A (f.after B (.empty token' kinds))).recordsAt key)

theorem written_of_same {rs rs' : List Record} (h : List.Forall₂ Record.Same rs rs') :
    rs'.map (fun r => r.value.written) = rs.map fun r => r.value.written := by
  induction h with
  | nil => rfl
  | cons h _ ih => rw [List.map_cons, List.map_cons, h.value.written_eq, ih]

/-- The order of two modules can matter: to a variable that is another name for a module of the
package once that is known, and has the builtin class of this name before; to a function that
looks at the declarations that are there; and to a list of the host that one module appends to. -/
theorem analysed_in_either_order_not :
    (({} : Analyzer).host.LeavesTable ∧ ¬ RecordsInEitherOrder {}) ∧
      (countingAnalyzer.host.LeavesTable ∧ ¬ RecordsInEitherOrder countingAnalyzer) ∧
      sharingAnalyzer.host.Detached 100 ∧ ¬ RecordsInEitherOrder sharingAnalyzer := by
  have hcounting : countingAnalyzer.host.LeavesTable :=
    Host.answer_of_calls (R := fun c c' => c'.table = c.table) (fun _ _ _ => rfl) fun _ _ _ => rfl
  refine ⟨⟨Host.leavesTable_default, fun hclaim => ?_⟩, ⟨hcounting, fun hclaim => ?_⟩,
    detached_sharingAnalyzer, fun hclaim => ?_⟩
  · have hwritten := written_of_same
      (hclaim emptyModule classPackage 1 2 Kind.all (by decide) (by decide) ("B", "f", .function))
    revert hwritten
    decide +kernel
  · have hwritten := written_of_same
      (hclaim countingModule emptyModule 1 2 Kind.all (by decide) (by decide) ("A", "f", .function))
    revert hwritten
    decide +kernel
  · have hwritten := written_of_same
      (hclaim appendingModule tellingModule 1 2 Kind.all (by decide) (by decide)
        ("B", "f", .function))
    revert hwritten
    decide +kernel

end Analyzer

end Marginalia
