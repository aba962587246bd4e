/-
Projects with a source file that cannot be read.

The system may not give a source file, its bytes can be no text, and its text no module.  Such a
file is reported and passed over.  Without it the analysis of the project comes to the same, but
for that one report: nothing is declared, bound, recorded or reported otherwise.

* `Analyzer.problem?` — what is wrong with the content of a source file;
* `Analyzer.analyzeFiles_append` — files are analysed one after the other;
* `Analyzer.met_analyzeFiles` — each diagnostic is met in one of the files;
* `Analyzer.analyzeFiles_passedOver` — a file that cannot be read adds one diagnostic, at its place;
* `Analyzer.analyze_without` — a project with such a file and without it.
-/
import Marginalia.Proofs.ElaborationFindings
import Marginalia.Proofs.FileRemoval
import Marginalia.Proofs.RetokenedRuns

namespace Marginalia

namespace Analysis

theorem append_assoc (a b c : Analysis) : (a.append b).append c = a.append (b.append c) := by
  simp [append]

/-- An analysis that comes to the same as another one, but for one more diagnostic: what is wrong
with the file at a path.  It stands behind those of files before that path and before those of files
behind it. -/
structure OneMore (σ : Equiv.Perm Int) (p : Path) (problem : Problem) (a b : Analysis) : Prop where
  sites : b.sites = a.sites.map (ElaboratedSite.retoken σ)
  diagnostics : ∃ earlier later, a.diagnostics = earlier ++ ⟨p.text, problem⟩ :: later ∧
    b.diagnostics = (earlier ++ later).map (Diagnostic.retoken σ) ∧
    (∀ d ∈ earlier, ∃ q : Path, q.before p = true ∧ q ≠ p ∧ d.met = q.text) ∧
    ∀ d ∈ later, ∃ q : Path, p.before q = true ∧ q ≠ p ∧ d.met = q.text

end Analysis

namespace Analyzer

/-- What is wrong with the content of a source file that cannot be read: the system does not give
it, its bytes are no text, or its text is no module. -/
def problem? (f : Analyzer) (content : FileContent) : Option Problem :=
  match textOfContent content with
  | .error fault => some (.unread fault)
  | .ok source =>
    match f.readSource source with
    | .error fault => some (.malformed fault)
    | .ok _ => none

variable {f : Analyzer} {rootName : String} {c c' : Compilation}

/-! ### One file after the other -/

theorem analyzeFiles_append (f : Analyzer) (rootName : String)
    (files more : List (Path × FileContent)) (c : Compilation) :
    f.analyzeFiles rootName (files ++ more) c =
      match f.analyzeFiles rootName files c with
      | (.error fault, c) => (.error fault, c)
      | (.ok a, c) =>
        ((f.analyzeFiles rootName more c).1.map a.append, (f.analyzeFiles rootName more c).2) := by
  induction files generalizing c with
  | nil =>
    have hmore : (f.analyzeFiles rootName more c).1.map (Analysis.append {}) =
        (f.analyzeFiles rootName more c).1 := by
      cases (f.analyzeFiles rootName more c).1 <;> rfl
    exact Prod.ext hmore.symm rfl
  | cons file files ih =>
    rw [List.cons_append, analyzeFiles_cons, analyzeFiles_cons]
    obtain ⟨fault | a, c₁⟩ := f.analyzeFile rootName file c
    · rfl
    · simp only [ih]
      obtain ⟨fault | b, c₂⟩ := f.analyzeFiles rootName files c₁
      · rfl
      · simp only [Except.map]
        cases (f.analyzeFiles rootName more c₂).1 with
        | error fault => rfl
        | ok others => simp only [Analysis.append_assoc]

/-- What is reported about a file is met in it. -/
theorem met_analyzeFile {file : Path × FileContent} {a : Analysis}
    (h : f.analyzeFile rootName file c = (.ok a, c')) :
    ∀ d ∈ a.diagnostics, d.met = file.1.text := by
  unfold analyzeFile at h
  cases hcontent : textOfContent file.2 with
  | error e =>
    rw [hcontent] at h
    cases h
    simp
  | ok source =>
    rw [hcontent] at h
    dsimp only at h
    cases hread : f.readSource source with
    | error fault =>
      rw [hread] at h
      cases h
      simp
    | ok body =>
      have hmet := Elaboration.met_runAll (m := f.module (moduleOf rootName file.1) file.1.text)
        (Elaboration.moduleSteps (f.module (moduleOf rootName file.1) file.1.text) body)
        (s := { compilation := c }) rfl
      rw [hread, elaborate, Elaboration.wholeModule_eq] at h
      split at h
      · rename_i s hrun
        cases h
        rwa [hrun] at hmet
      · cases h

theorem met_analyzeFiles {files : List (Path × FileContent)} {a : Analysis}
    (h : f.analyzeFiles rootName files c = (.ok a, c')) :
    ∀ d ∈ a.diagnostics, ∃ file ∈ files, d.met = file.1.text := by
  induction files generalizing c c' a with
  | nil =>
    cases h
    simp
  | cons file files ih =>
    rw [analyzeFiles_cons] at h
    split at h
    · cases h
    · rename_i here c₁ hfile
      cases hrest : f.analyzeFiles rootName files c₁ with
      | mk r c₂ =>
        cases r with
        | error fault =>
          rw [hrest] at h
          cases h
        | ok others =>
          rw [hrest] at h
          cases h
          intro d hd
          obtain hd | hd := List.mem_append.mp hd
          · exact ⟨file, List.mem_cons_self, met_analyzeFile hfile d hd⟩
          · obtain ⟨file', hfile', hmet⟩ := ih hrest d hd
            exact ⟨file', List.mem_cons_of_mem _ hfile', hmet⟩

/-! ### A file that cannot be read -/

/-- What comes of two analyses is the same, but for one more diagnostic in the first one; when a
fault ends one of them, the same fault ends the other one. -/
def SameButFor (σ : Equiv.Perm Int) (p : Path) (problem : Problem) :
    Except Fault Analysis → Except Fault Analysis → Prop
  | .ok a, .ok b => a.OneMore σ p problem b
  | .error fault, .error fault' => fault' = fault
  | _, _ => False

theorem analyzeFile_of_problem {p : Path} {content : FileContent} {problem : Problem}
    (h : f.problem? content = some problem) (c : Compilation) :
    f.analyzeFile rootName (p, content) c = (.ok { diagnostics := [⟨p.text, problem⟩] }, c) := by
  unfold problem? at h
  unfold analyzeFile
  cases hcontent : textOfContent content with
  | error e =>
    rw [hcontent] at h
    cases h
    rfl
  | ok source =>
    rw [hcontent] at h
    dsimp only at h ⊢
    cases hread : f.readSource source with
    | error fault =>
      rw [hread] at h
      cases h
      rfl
    | ok body =>
      rw [hread] at h
      cases h

/-- A file that cannot be read adds what is wrong with it to what is reported, behind what is
reported about the files before it. -/
theorem analyzeFiles_passedOver {p : Path} {content : FileContent} {problem : Problem}
    (h : f.problem? content = some problem) (earlier later : List (Path × FileContent))
    (c : Compilation) :
    f.analyzeFiles rootName (earlier ++ (p, content) :: later) c =
      match f.analyzeFiles rootName earlier c with
      | (.error fault, c) => (.error fault, c)
      | (.ok a, c) => ((f.analyzeFiles rootName later c).1.map fun b =>
          ⟨a.sites ++ b.sites, a.diagnostics ++ ⟨p.text, problem⟩ :: b.diagnostics⟩,
            (f.analyzeFiles rootName later c).2) := by
  rw [analyzeFiles_append]
  obtain ⟨fault | a, c₁⟩ := f.analyzeFiles rootName earlier c
  · rfl
  · simp only [analyzeFiles_cons, analyzeFile_of_problem h]
    cases (f.analyzeFiles rootName later c₁).1 <;> rfl

/-- Without a file that cannot be read, and under other tokens, the analysis of a project leaves the
same compilation and comes to the same, but for what is wrong with the file. -/
theorem analyze_retoken_without (f : Analyzer) (rootName : String) {tree : Node}
    {ignore : Option Matcher} {p : Path} {content : FileContent} {problem : Problem}
    {σ : Equiv.Perm Int} (htree : tree.Named)
    (hlisted : (p, content) ∈ tree.sources sourceSuffix (Node.skipIgnored ignore))
    (hproblem : f.problem? content = some problem) (hhost : f.host.Retokens σ)
    (c : Compilation) :
    (f.analyze rootName (tree.without p) ignore (c.retoken σ)).2 =
        (f.analyze rootName tree ignore c).2.retoken σ ∧
      SameButFor σ p problem (f.analyze rootName tree ignore c).1
        (f.analyze rootName (tree.without p) ignore (c.retoken σ)).1 := by
  obtain ⟨earlier, later, hsources, hwithout, hearlier, hlater⟩ :=
    Node.exists_sources_without htree hlisted
  unfold analyze
  -- both runs part the sources at the file, which leaves the compilation as it found it
  rw [hsources, hwithout, analyzeFiles_retoken hhost, analyzeFiles_passedOver hproblem,
    analyzeFiles_append]
  cases hfirst : f.analyzeFiles rootName earlier c with
  | mk r c₁ =>
    cases r with
    | error fault => exact ⟨rfl, rfl⟩
    | ok a =>
      dsimp only
      refine ⟨rfl, ?_⟩
      cases hrest : f.analyzeFiles rootName later c₁ with
      | mk r c₂ =>
        cases r with
        | error fault => exact rfl
        | ok b =>
          refine ⟨rfl, a.diagnostics, b.diagnostics, rfl, rfl, fun d hd => ?_, fun d hd => ?_⟩
          · obtain ⟨file, hfile, hmet⟩ := met_analyzeFiles hfirst d hd
            exact ⟨file.1, (hearlier file hfile).1, (hearlier file hfile).2, hmet⟩
          · obtain ⟨file, hfile, hmet⟩ := met_analyzeFiles hrest d hd
            exact ⟨file.1, (hlater file hfile).1, (hlater file hfile).2, hmet⟩

/-- **Best effort.**  A project is analysed on a fresh compilation with a source file that cannot be
read, and without it on another one.  Both are left with the same declarations, names, records and
elaborated sites, up to the tokens of their tables; the same sites are answered, and the same
diagnostics but for one, which says what is wrong with the file and stands at its place in the order
of the files.  Where the tokens differ, the functions of the host are not to tell them apart. -/
theorem analyze_without (f : Analyzer) (rootName : String) (annotatable : List Kind) {tree : Node}
    {ignore : Option Matcher} {p : Path} {content : FileContent} {problem : Problem}
    {token token' : Int} (htree : tree.Named)
    (hlisted : (p, content) ∈ tree.sources sourceSuffix (Node.skipIgnored ignore))
    (hproblem : f.problem? content = some problem)
    (hhost : token ≠ token' → f.host.Retokens (Equiv.swap token token')) :
    (f.analyze rootName (tree.without p) ignore (.empty token' annotatable)).2 =
        (f.analyze rootName tree ignore (.empty token annotatable)).2.retoken
          (Equiv.swap token token') ∧
      SameButFor (Equiv.swap token token') p problem
        (f.analyze rootName tree ignore (.empty token annotatable)).1
        (f.analyze rootName (tree.without p) ignore (.empty token' annotatable)).1 := by
  have hswapped : f.host.Retokens (Equiv.swap token token') := by
    by_cases htoken : token = token'
    · rw [htoken, Equiv.swap_self]
      exact f.host.retokens_refl
    · exact hhost htoken
  -- two fresh compilations differ in nothing but the token
  have hempty : (Compilation.empty token annotatable).retoken (Equiv.swap token token') =
      Compilation.empty token' annotatable := by
    simp [Compilation.empty, Compilation.retoken, Table.retoken, Store.retoken]
  rw [← hempty]
  exact analyze_retoken_without f rootName htree hlisted hproblem hswapped _

/-- A project with a file that is no text between two others. -/
def sampleProject : Node :=
  .folder [("a.py", .file (.ok <| Utf8.encode "@meta(made(1))\ndef f(): pass\n")),
    ("broken.py", .file (.ok [0xff])),
    ("inner", .folder [("z.py", .file (.ok <| Utf8.encode "def g(): pass\n"))])]

/-- An analyzer with a function that declares something when it is called. -/
def declaringAnalyzer : Analyzer where
  host :=
    { names := [("made", .function "made")]
      call := fun _ _ c => (.ok (.int 1), (c.declare .function "host" "made" ⟨"host.py", 1, 0⟩).1) }

theorem analyze_without_sample :
    sampleProject.Named ∧
      (["broken.py"], .ok [0xff]) ∈ sampleProject.sources sourceSuffix (Node.skipIgnored none) ∧
      declaringAnalyzer.problem? (.ok [0xff]) =
        some (.unread (.undecodable (.cannotDecode "utf-8" 0xff 0 1 "invalid start byte"))) ∧
      declaringAnalyzer.host.Retokens (Equiv.swap 1 2) ∧
      (declaringAnalyzer.analyze "project" (sampleProject.without ["broken.py"]) none
          (.empty 2 Kind.all)).2 =
        (declaringAnalyzer.analyze "project" sampleProject none (.empty 1 Kind.all)).2.retoken
          (Equiv.swap 1 2) ∧
      SameButFor (Equiv.swap 1 2) ["broken.py"]
        (.unread (.undecodable (.cannotDecode "utf-8" 0xff 0 1 "invalid start byte")))
        (declaringAnalyzer.analyze "project" sampleProject none (.empty 1 Kind.all)).1
        (declaringAnalyzer.analyze "project" (sampleProject.without ["broken.py"]) none
          (.empty 2 Kind.all)).1 := by
  have htree : sampleProject.Named := by decide
  have hlisted : (["broken.py"], .ok [0xff]) ∈
      sampleProject.sources sourceSuffix (Node.skipIgnored none) :=
    Node.mem_sources_iff.mpr
      ⟨([], sampleProject.entries), List.mem_cons_self, "broken.py", by simp [sampleProject,
        Node.entries], rfl, rfl, by decide⟩
  have hhost : declaringAnalyzer.host.Retokens (Equiv.swap 1 2) := fun f _ c => by
    have hdeclared := c.declare_retoken (Equiv.swap 1 2) .function "host" "made" ⟨"host.py", 1, 0⟩
    cases f with
    | function n => exact Prod.ext rfl (congrArg Prod.fst hdeclared)
    | _ => rfl
  exact ⟨htree, hlisted, rfl, hhost,
    analyze_without declaringAnalyzer "project" Kind.all htree hlisted rfl fun _ => hhost⟩

end Analyzer

end Marginalia
