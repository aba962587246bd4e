/-
Classes whose names are given to something else.

The name of a class and the names of its members are bound one by one.  An import, or an
assignment that makes a name another name for a declaration, binds the name of the class anew and
leaves those of the members alone.  A dotted name is looked up as it stands before its qualifier
is, so a member that the old class had is still found under its name, and only where the old class
had nothing the new meaning of the name is asked.

* `ElaborationStep.Renames` — the steps that make a name another name, and what they make it;
* `Elaboration.outcome_renames` — what such a step does;
* `Elaboration.rebound_members` — what the members of a class denote when its name has been given
  to something else: those that the class had are what they were, and all others are members of
  what the name stands for now;
* `Elaboration.rebound_members_kept` — two classes with a method of the same name, the second of
  which takes the name of the first.
-/
import Marginalia.Proofs.MemberPaths
import Marginalia.Proofs.StepCalls

namespace Marginalia

/-- A step that makes a name of a body another name for a target, when the table is as it is: it
imports the name, or assigns it an expression that spells a declaration. -/
inductive ElaborationStep.Renames (m : ModuleSetting) (b : Body) (n : String) (t : Table) :
    ElaborationStep → NameKey → Prop
  | imported {module target : String} :
    Renames m b n t (.imported b n module target) (module, target)
  | assign {p : Place} {e : Expr} {d : Declaration}
    (spelled : Elaboration.madeAlias? m b t e = some d) :
    Renames m b n t (.assign b p n e) (d.module, d.qualname)

/-! ### Names behind a name -/

theorem length_behind_le (name : String) (xs : List String) :
    name.length ≤ (Dotted.behind name xs).length := by
  induction xs using List.reverseRecOn with
  | nil => exact Nat.le_refl _
  | append_singleton xs x ih =>
    rw [Dotted.behind_concat, String.length_append, String.length_append]
    omega

theorem length_lt_of_mem_keysBehind {module name : String} {xs : List String} {k : NameKey}
    (hk : k ∈ keysBehind module name xs) : name.length < k.2.length := by
  induction xs generalizing name with
  | nil => cases hk
  | cons x xs ih =>
    have hnext : name.length < (name ++ "." ++ x).length := by
      rw [String.length_append, String.length_append, Dotted.dot_length]
      omega
    rcases List.mem_cons.mp hk with rfl | hk
    · exact hnext
    · exact hnext.trans (ih hk)

namespace Elaboration

variable {m : ModuleSetting} {b : Body} {n : String} {s s₁ : Findings}
  {step : ElaborationStep} {target : NameKey}

/-! ### The binding of a name anew -/

/-- The findings after a name of a body was made another name for a target. -/
def renamed (m : ModuleSetting) (b : Body) (n : String) (target : NameKey) (s : Findings) :
    Findings :=
  { s with
    compilation := s.compilation.addAlias m.name.dotted (Dotted.under b.qualifier n) target.1
      target.2
    scope := s.scope.hide n }

theorem outcome_renames (h : step.Renames m b n s.compilation.table target) :
    outcome (step.run m) s = (.ok (), renamed m b n target s) := by
  cases h with
  | imported => rfl
  | assign spelled =>
    rw [run_assign, outcome_bind_ok (outcome_tryAlias_of_some n spelled)]
    rfl

/-- Only the name itself is bound anew. -/
theorem binding?_renamed (m : ModuleSetting) (b : Body) (n : String) (target : NameKey)
    (s : Findings) (k : NameKey) :
    (renamed m b n target s).compilation.table.binding? k =
      if k = (m.name.dotted, Dotted.under b.qualifier n) then some (.sameAs target)
      else s.compilation.table.binding? k :=
  s.compilation.table.binding?_call
    (.addAlias m.name.dotted (Dotted.under b.qualifier n) target.1 target.2) k

/-- **Classes whose names are given away.**  A statement of a body gives the name of a class to
something else when one of its steps, an import or an assignment, makes it another name for a
target.  In every later state, as long as the name is not bound again, it denotes what the target
denotes.  A name below it that is not bound again has the binding it had before; in particular a
member of the class denotes the member that it was, whatever the target has under this name.
Along a path of parts that have no binding of their own, the members are looked up one after the
other in what the name in front of them denotes: in what the target denotes, if the path begins
behind the name of the class, and in the old member, if it begins behind that. -/
theorem rebound_members {token : Int} {calls : List Table.Call} {st : Statement}
    {before rest : List ElaborationStep} {C : String} (hC : Dotted.under b.qualifier n = C)
    (hsteps : st.steps m b = before ++ step :: rest)
    (hbefore : outcome (runAll m before) s = (.ok (), s₁))
    (hbuilt : s₁.compilation.table = .run token calls)
    (hstep : step.Renames m b n s₁.compilation.table target) :
    outcome (statement m b st) s = outcome (runAll m rest) (renamed m b n target s₁) ∧
    ∀ (later : List Table.Call) (t : Table), (∀ c ∈ later, c.name ≠ (m.name.dotted, C)) →
      t = (renamed m b n target s₁).compilation.table.after later →
      t.resolve? m.name.dotted C = t.resolve? target.1 target.2 ∧
      (∀ x, (∀ c ∈ later, c.name ≠ (m.name.dotted, C ++ "." ++ x)) →
        t.binding? (m.name.dotted, C ++ "." ++ x) =
          s₁.compilation.table.binding? (m.name.dotted, C ++ "." ++ x) ∧
        ∀ i, s₁.compilation.table.binding? (m.name.dotted, C ++ "." ++ x) = some (.declared i) →
          t.resolve? m.name.dotted (C ++ "." ++ x) = some i ∧
          ∃ d, t.get i = .ok d ∧ (d.module, d.qualname) = (m.name.dotted, C ++ "." ++ x)) ∧
      ∀ ys zs : List String, (∀ z ∈ zs, '.' ∉ z.toList) →
        (∀ k ∈ keysBehind m.name.dotted (Dotted.behind C ys) zs,
          s₁.compilation.table.binding? k = none ∧ ∀ c ∈ later, c.name ≠ k) →
        ∀ j, t.resolve? m.name.dotted (Dotted.behind C (ys ++ zs)) = some j ↔
          ∃ i, t.resolve? m.name.dotted (Dotted.behind C ys) = some i ∧
            t.memberOf? i zs = some j ∧
            (t.met m.name.dotted (Dotted.behind C ys) :: t.membersMet i zs).Pairwise
              List.Disjoint := by
  refine ⟨?_, fun later t hlater ht => ⟨?_, fun x hx => ?_, fun ys zs hplain hfree j => ?_⟩⟩
  · rw [statement_eq, hsteps, runAll_append, outcome_bind_ok hbefore, runAll,
      outcome_bind_ok (outcome_renames hstep)]
  · -- the name of the class is another name for the target
    refine Table.resolve?_of_sameAs ?_
    rw [ht, Table.binding?_after hlater, binding?_renamed, hC, if_pos rfl]
  · -- the names of the members are others, and keep their bindings
    have hne : (m.name.dotted, C ++ "." ++ x) ≠ (m.name.dotted, C) := by
      intro hsame
      have hlength := congrArg String.length (congrArg Prod.snd hsame)
      dsimp only at hlength
      rw [String.length_append, String.length_append, Dotted.dot_length] at hlength
      omega
    have hkept : t.binding? (m.name.dotted, C ++ "." ++ x) =
        s₁.compilation.table.binding? (m.name.dotted, C ++ "." ++ x) := by
      rw [ht, Table.binding?_after hx, binding?_renamed, hC, if_neg hne]
    refine ⟨hkept, fun i hi => ?_⟩
    have hbound := hkept.trans hi
    have hcoherent : t.Coherent := by
      rw [ht]
      refine Table.Coherent.after ?_ later
      exact (hbuilt ▸ Table.coherent_run token calls).call
        (.addAlias m.name.dotted (Dotted.under b.qualifier n) target.1 target.2)
    obtain ⟨d, hget, -, -, hown⟩ := hcoherent.entry_of_binding? hbound
    exact ⟨Table.resolve?_of_declared hbound, d, hget, hown⟩
  · rw [Dotted.behind_append]
    refine Table.resolve?_behind hplain fun k hk => ?_
    obtain ⟨hunbound, hagain⟩ := hfree k hk
    -- a name behind the class is longer, so it is not the one that is bound anew
    have hne : k ≠ (m.name.dotted, C) := by
      rintro rfl
      have hlong := length_lt_of_mem_keysBehind hk
      have hbehind := length_behind_le C ys
      dsimp only at hlong
      omega
    rw [ht, Table.binding?_after hagain, binding?_renamed, hC, if_neg hne, hunbound]

/-! ### Two classes with methods of the same name -/

theorem outcome_of_isOk {x : Elaboration Unit} {s : Findings} (h : (outcome x s).1.isOk = true) :
    outcome x s = (.ok (), (outcome x s).2) := by
  generalize outcome x s = run at h ⊢
  rcases run with ⟨_ | ⟨⟩, s'⟩
  · cases h
  · rfl

/-- A method without parameters. -/
def sampleMethod (p : Place) (name : String) : Statement :=
  .function p name [] ⟨{}, [], [], []⟩ none [] []

/-- A class `C` with a method `f`, and a class `D` with methods `f` and `g`. -/
def twoClasses : List Statement :=
  [.classDef ⟨1, 0⟩ "C" [] [] [] [] [sampleMethod ⟨2, 4⟩ "f"],
    .classDef ⟨3, 0⟩ "D" [] [] [] [] [sampleMethod ⟨4, 4⟩ "f", sampleMethod ⟨5, 4⟩ "g"]]

/-- The assignment of `D` to `C`. -/
def assignC : Statement := .assign ⟨6, 0⟩ [.name ⟨6, 0⟩ "C"] (.name ⟨6, 4⟩ "D")

/-- What has come out when the classes were gone through. -/
def afterClasses : Findings := (outcome (wholeModule sampleModule twoClasses) sampleFindings).2

theorem outcome_twoClasses :
    outcome (wholeModule sampleModule twoClasses) sampleFindings = (.ok (), afterClasses) := by
  have hok : (outcome (wholeModule sampleModule twoClasses) sampleFindings).1.isOk = true := by
    decide +kernel
  exact outcome_of_isOk hok

theorem afterClasses_built : ∃ calls, afterClasses.compilation.table = .run 1 calls := by
  have hrun := outcome_twoClasses
  rw [wholeModule_eq] at hrun
  exact ⟨_, table_runAll Host.leavesTable_default _ hrun⟩

/-- The class `D`. -/
def classD : Declaration := ⟨⟨1, 3⟩, .typeDef, "m", "D", ⟨"m.py", 3, 0⟩, []⟩

/-- The only step of the assignment. -/
def stepC : ElaborationStep := .assign {} ⟨6, 0⟩ "C" (.name ⟨6, 4⟩ "D")

theorem stepC_renames :
    stepC.Renames sampleModule {} "C" afterClasses.compilation.table ("m", "D") := by
  have hspelled : madeAlias? sampleModule {} afterClasses.compilation.table (.name ⟨6, 4⟩ "D") =
      some classD := by
    decide +kernel
  exact .assign hspelled

/-- The table behind the assignment. -/
def tableC : Table := (outcome (statement sampleModule {} assignC) afterClasses).2.compilation.table

/-- `C` denotes the class `D`, `C.g` its method, and `C.f` the method that the old class had. -/
theorem rebound_members_classes :
    assignC.steps sampleModule {} = [] ++ stepC :: [] ∧
      (∃ calls, afterClasses.compilation.table = .run 1 calls) ∧
      stepC.Renames sampleModule {} "C" afterClasses.compilation.table ("m", "D") ∧
      tableC.resolve? "m" "C" = some ⟨1, 3⟩ ∧
      tableC.resolve? "m" ("C" ++ "." ++ "f") = some ⟨1, 2⟩ ∧
      tableC.resolve? "m" ("C" ++ "." ++ "g") = some ⟨1, 5⟩ := by
  obtain ⟨calls, hbuilt⟩ := afterClasses_built
  have hsteps : assignC.steps sampleModule {} = [] ++ stepC :: [] := rfl
  obtain ⟨hrun, hlater⟩ := @rebound_members sampleModule {} "C" afterClasses afterClasses stepC
    ("m", "D") 1 calls assignC [] [] "C" rfl hsteps rfl hbuilt stepC_renames
  have htable : tableC =
      (renamed sampleModule {} "C" ("m", "D") afterClasses).compilation.table := by
    rw [tableC, hrun]
    rfl
  obtain ⟨hclass, hkept, hmembers⟩ := hlater [] tableC (by simp) htable
  have hD : tableC.resolve? "m" "D" = some ⟨1, 3⟩ := by decide +kernel
  have hC : tableC.resolve? "m" "C" = some ⟨1, 3⟩ := hclass.trans hD
  have hf := (hkept "f" (by simp)).2 ⟨1, 2⟩ (by decide +kernel)
  have hfree : ∀ k ∈ keysBehind "m" "C" ["g"],
      afterClasses.compilation.table.binding? k = none ∧
        ∀ c ∈ ([] : List Table.Call), c.name ≠ k := by
    intro k hk
    rw [List.mem_singleton.mp hk]
    exact ⟨by decide +kernel, by simp⟩
  have hapart : (tableC.met "m" "C" :: tableC.membersMet ⟨1, 3⟩ ["g"]).Pairwise List.Disjoint := by
    have hmet : tableC.met "m" "C" :: tableC.membersMet ⟨1, 3⟩ ["g"] =
        [[("m", "D"), ("m", "C")], [("m", "D.g")]] := by
      decide +kernel
    rw [hmet]
    simp
  have hg := (hmembers [] ["g"] (by decide) hfree ⟨1, 5⟩).mpr
    ⟨⟨1, 3⟩, hC, by decide +kernel, hapart⟩
  exact ⟨hsteps, ⟨calls, hbuilt⟩, stepC_renames, hC, hf.1, hg⟩

/-- In a module whose last statement makes `C` another name for the class `D`, the method of the
old class is still found under the name that `D` has a method of. -/
theorem rebound_members_kept :
    ¬ ∀ (m : ModuleSetting) (body : List Statement) (st : Statement) (step : ElaborationStep)
      (n : String) (target : NameKey) (c : Compilation) (s s₁ : Findings) (xs : List String),
      c.table = .run 1 [] →
      outcome (wholeModule m body) { compilation := c } = (.ok (), s) →
      st.steps m {} = [step] → step.Renames m {} n s.compilation.table target →
      target ≠ (m.name.dotted, n) →
      outcome (wholeModule m (body ++ [st])) { compilation := c } = (.ok (), s₁) →
      xs ≠ [] → (∀ x ∈ xs, '.' ∉ x.toList) →
        s₁.compilation.table.resolve? m.name.dotted (Dotted.behind n xs) =
          (s₁.compilation.table.resolve? target.1 target.2).bind fun i =>
            s₁.compilation.table.memberOf? i xs := by
  intro hclaim
  have hlast : outcome (wholeModule sampleModule (twoClasses ++ [assignC])) sampleFindings =
      (.ok (), (outcome (statement sampleModule {} assignC) afterClasses).2) := by
    rw [outcome_wholeModule_concat]
    exact ⟨afterClasses, outcome_twoClasses, outcome_of_isOk (by decide +kernel)⟩
  have hsame := hclaim sampleModule twoClasses assignC stepC "C" ("m", "D")
    sampleFindings.compilation afterClasses _ ["f"] rfl outcome_twoClasses rfl stepC_renames
    (by decide) hlast (by simp) (by decide)
  have hold : tableC.resolve? "m" (Dotted.behind "C" ["f"]) = some ⟨1, 2⟩ := by decide +kernel
  have hnew : ((tableC.resolve? "m" "D").bind fun i => tableC.memberOf? i ["f"]) =
      some ⟨1, 4⟩ := by
    decide +kernel
  have hboth := hold.symm.trans (hsame.trans hnew)
  cases hboth

end Elaboration

end Marginalia
