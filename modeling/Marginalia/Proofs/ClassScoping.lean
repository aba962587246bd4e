/-
Names in bodies of classes.

In the analysed language the body of a class sees its own names and those of the module, and never
those of a class around it.  The scope of a body is a chain of frames, though, and going into a
class puts one in front of all that were there.  So in a class inside other classes a name that the
own body says nothing about is looked for in the bodies of these classes, from the inside out,
before the module is asked.  Assignments that make other names look in the table instead, for the
name inside the qualified name of the class and then for the name alone, and pass the classes around
by.

* `Scope.ofClass`, `Scope.Captures` — what a body should see, and the names that a body in between
  answers otherwise;
* `Scope.lookup_eq_ofClass_iff` — all other names are looked up as they should;
* `Elaboration.ComesBy` — the statements that a run comes by, and the classes around them;
* `Elaboration.ComesBy.outer_eq`, `Elaboration.ComesBy.qualifier_eq` — which frames are visible
  there, and what names are declared inside;
* `Elaboration.class_scoping` — in the body of a class both ways to look for a name are these two;
* `Elaboration.class_scoping_captures` — a class inside a class sees a value of the outer one.
-/
import Marginalia.Proofs.MentionedNames
import Marginalia.Proofs.StepCalls

namespace Marginalia

/-! ### What the bodies around say -/

namespace Scope

variable {n : String}

/-- What the body of a class should see: itself, and the body of the module. -/
def ofClass (s : Scope) : Scope := { inner := s.inner, outer := s.outer.getLast?.toList }

/-- The innermost body says nothing about a name, and of those between it and the body of the module
the first one that does says something else than that of the module. -/
def Captures (s : Scope) (n : String) : Prop :=
  s.inner.lookup n = none ∧
    ∃ v, s.outer.dropLast.findSome? (fun f => f.lookup n) = some v ∧
      v ≠ lookupIn n s.outer.getLast?.toList

theorem lookupIn_append (fs gs : List Frame) :
    lookupIn n (fs ++ gs) = (fs.findSome? fun f => f.lookup n).getD (lookupIn n gs) := by
  induction fs with
  | nil => rfl
  | cons f fs ih =>
    rw [List.cons_append, lookupIn, List.findSome?_cons, ih]
    cases f.lookup n <;> rfl

theorem lookup_eq_ofClass_iff (s : Scope) :
    s.lookup n = s.ofClass.lookup n ↔ ¬ s.Captures n := by
  unfold Captures
  rw [lookup, lookup, ofClass, lookupIn, lookupIn]
  cases hown : s.inner.lookup n with
  | some v => simp
  | none =>
    -- the last body around is that of the module, and those before it are in between
    have hsplit : s.outer.dropLast ++ s.outer.getLast?.toList = s.outer := by
      cases hlast : s.outer.getLast? with
      | none => simp [List.getLast?_eq_none_iff.mp hlast]
      | some f => exact List.dropLast_append_getLast? f hlast
    have houter := lookupIn_append (n := n) s.outer.dropLast s.outer.getLast?.toList
    rw [hsplit] at houter
    dsimp only
    rw [houter]
    cases s.outer.dropLast.findSome? fun f => f.lookup n <;> simp

end Scope

/-! ### The statements a run comes by -/

/-- The statements in a statement that stand in the same body as the statement itself. -/
def Statement.blocks : Statement → List Statement
  | .branch _ body otherwise | .each _ _ body otherwise | .repeated _ body otherwise =>
    body ++ otherwise
  | .attempt body _ handlers otherwise final => body ++ (handlers.flatten ++ (otherwise ++ final))
  | .within _ _ body => body
  | .select _ _ cases => cases.flatten
  | _ => []

/-- The expressions in front of these, as far as annotations are looked for in them. -/
def Statement.heads : Statement → List Expr
  | .within contexts _ _ => contexts
  | .select subject _ _ => [subject]
  | _ => []

/-- A class that is gone through, and what the body it stands in says meanwhile. -/
structure Surrounding where
  name : String
  frame : Frame

namespace Elaboration

variable {m : ModuleSetting} {b b' : Body} {sts : List Statement} {x : Statement}
  {s s' t : Findings} {around : List Surrounding}

theorem statements_append (b : Body) (sts rest : List Statement) :
    statements m b (sts ++ rest) = (do statements m b sts; statements m b rest) := by
  rw [statements_eq, statements_eq, statements_eq, stepsOfAll_append, runAll_append]

theorem bodies_eq_flatten (b : Body) (bs : List (List Statement)) :
    bodies m b bs = statements m b bs.flatten := by
  induction bs with
  | nil => rfl
  | cons body rest ih => rw [bodies, List.flatten_cons, statements_append, ih]

/-- What stands in a statement is gone through behind the expressions in front of it. -/
theorem statement_eq_blocks {st : Statement} (h : st.blocks ≠ []) :
    statement m b st = (do refuseIn m st.heads; statements m b st.blocks) := by
  cases st with
  | branch test body otherwise | each test source body otherwise | repeated test body otherwise =>
    rw [statement, Statement.blocks, statements_append]
    rfl
  | attempt body types handlers otherwise final =>
    rw [statement, Statement.blocks, statements_append, statements_append, statements_append,
      bodies_eq_flatten]
    rfl
  | within contexts targets body => rw [statement, Statement.heads, Statement.blocks]
  | select subject guards cases =>
    rw [statement, Statement.heads, Statement.blocks, bodies_eq_flatten]
  | _ => exact absurd rfl h

/-- A run over the statements of a body comes by a statement in a body, when these are the findings.
Between the two bodies are classes, the innermost first. -/
inductive ComesBy (m : ModuleSetting) :
    Body → List Statement → Findings → List Surrounding → Body → Statement → Findings → Prop
  | here {b : Body} {st : Statement} {rest : List Statement} {s : Findings} :
    ComesBy m b (st :: rest) s [] b st s
  | past {b b' : Body} {st x : Statement} {rest : List Statement} {s s₁ t : Findings}
    {around : List Surrounding} (hst : outcome (statement m b st) s = (.ok (), s₁))
    (h : ComesBy m b rest s₁ around b' x t) : ComesBy m b (st :: rest) s around b' x t
  | intoClass {b b' : Body} {p : Place} {name : String}
    {bounds bases keywords decorators : List Expr} {body rest : List Statement} {x : Statement}
    {s s₁ t : Findings} {around : List Surrounding}
    (hclass : outcome (declareClass m b p name bases keywords decorators) s = (.ok (), s₁))
    (h : ComesBy m (classBody m b name bases) body { s₁ with scope := s₁.scope.child } around
      b' x t) :
    ComesBy m b (.classDef p name bounds bases keywords decorators body :: rest) s
      (around ++ [⟨name, s₁.scope.inner⟩]) b' x t
  | intoBlock {b b' : Body} {st x : Statement} {rest : List Statement} {s s₁ t : Findings}
    {around : List Surrounding} (hheads : outcome (refuseIn m st.heads) s = (.ok (), s₁))
    (h : ComesBy m b st.blocks s₁ around b' x t) : ComesBy m b (st :: rest) s around b' x t

/-- A step that comes to its end leaves the bodies around. -/
theorem outer_step {step : ElaborationStep} (hrun : outcome (step.run m) s = (.ok (), s')) :
    s'.scope.outer = s.scope.outer := by
  cases step with
  | declare kind qualname p written =>
    obtain ⟨w, groups, -, -, hrun⟩ := exists_groups hrun
    have hscope := scope_declare (m := m) kind qualname (p.inFile m.file) groups s
    rw [hrun] at hscope
    exact congrArg Scope.outer hscope
  | refuse es =>
    have hscope := kept_scope.refuseIn (m := m) es s
    rw [ElaborationStep.run] at hrun
    rw [hrun] at hscope
    exact congrArg Scope.outer hscope
  | bind name value =>
    rw [ElaborationStep.run] at hrun
    obtain ⟨v, hscope⟩ := scope_bindTo hrun
    rw [hscope]
    rfl
  | assign b p name e =>
    obtain ⟨-, c, rfl⟩ | ⟨t, -, hdeclared, hbind⟩ := exists_assign hrun
    · rfl
    · have hscope := scope_declare (m := m) (variableKind b name) (Dotted.under b.qualifier name)
        (p.inFile m.file) {} s
      rw [hdeclared] at hscope
      obtain ⟨v, hbound⟩ := scope_bindTo hbind
      rw [hbound, ← hscope]
      rfl
  | imported b name module target =>
    rw [ElaborationStep.run] at hrun
    cases hrun
    rfl
  | inside steps =>
    -- behind a class its scope is the one in front of it
    rw [outcome_inside] at hrun
    split at hrun <;> cases hrun
    rfl

theorem outer_runAll {steps : List ElaborationStep}
    (hrun : outcome (runAll m steps) s = (.ok (), s')) : s'.scope.outer = s.scope.outer := by
  induction steps generalizing s with
  | nil =>
    cases hrun
    rfl
  | cons step rest ih =>
    obtain ⟨s₁, hstep, hrest⟩ := (outcome_runAll_cons step rest s s').mp hrun
    exact (ih hrest).trans (outer_step hstep)

namespace ComesBy

/-- The bodies around a statement are those of the classes around it, and those in which the run has
begun. -/
theorem outer_eq (h : ComesBy m b sts s around b' x t) :
    t.scope.outer = around.map Surrounding.frame ++ s.scope.outer := by
  induction h with
  | here => rfl
  | past hst _ ih =>
    rw [statement_eq] at hst
    rw [ih, outer_runAll hst]
  | intoClass hclass _ ih =>
    -- the frame in front of the body is the one that was filled up to the class
    rw [declareClass_eq] at hclass
    rw [ih, Scope.child, outer_runAll hclass, List.map_append, List.append_assoc]
    rfl
  | @intoBlock b b' st x rest s s₁ t around hheads _ ih =>
    have hscope := kept_scope.refuseIn (m := m) st.heads s
    rw [hheads] at hscope
    rw [ih, hscope]

/-- Names are declared inside the classes around a statement. -/
theorem qualifier_eq (h : ComesBy m b sts s around b' x t) :
    b'.qualifier = around.foldr (fun k q => Dotted.under q k.name) b.qualifier := by
  induction h with
  | here => rfl
  | past _ _ ih | intoBlock _ _ ih => exact ih
  | intoClass _ _ ih =>
    rw [ih, List.foldr_append]
    rfl

end ComesBy

/-! ### Names in classes -/

/-- What an assignment in a body is a name for is looked for inside the body, and then by itself. -/
theorem denoted?_readings (t : Table) (module dotted : String) (b : Body) :
    denoted? t module (b.readings dotted) =
      denoted? t module [Dotted.under b.qualifier dotted, dotted] := by
  unfold Body.readings
  split
  · rename_i hmodule
    rw [Dotted.under, if_pos hmodule]
    unfold denoted?
    cases hfound : t.resolve? module dotted <;> simp [hfound]
  · rfl

/-- **Names in classes.**  When a run over a module comes by a statement in the body of a class, the
bodies visible behind the own one are all those around it: of the classes from the inside out, and
last that of the module.  A name is looked up in the own body and then in that of the module alone
exactly if no class in between captures it.  Expressions and the annotations of declarations in
which no name is captured come to the same as they would with only these two bodies.  Whether an
assignment makes another name is decided by the first of two names that denotes something: that
inside the classes, and the name by itself; no other class plays a part in it. -/
theorem class_scoping {c : Compilation} {body : List Statement}
    (hstart : outcome (declare m .nameSpace "" ⟨m.file, 0, 0⟩ {}) { compilation := c } =
      (.ok (), s))
    (h : ComesBy m {} body s around b x t) :
    t.scope.outer = around.map Surrounding.frame ∧
      (∀ n, t.scope.lookup n = t.scope.ofClass.lookup n ↔ ¬ t.scope.Captures n) ∧
      (∀ e : Expr, (∀ n ∈ e.names, ¬ t.scope.Captures n) →
        SeesAlike t.scope t.scope.ofClass (value m e)) ∧
      (∀ (kind : Kind) (qualname : String) (site : Location) (groups : Groups),
        (∀ n ∈ groups.names, ¬ t.scope.Captures n) →
          SeesAlike t.scope t.scope.ofClass (declare m kind qualname site groups)) ∧
      ∀ (name : String) (e : Expr), (outcome (tryAlias m b name e) t).1 =
        .ok ((e.dottedName?.bind fun dotted => denoted? t.compilation.table m.name.dotted
          [Dotted.under (around.foldr (fun k q => Dotted.under q k.name) "") dotted, dotted]).any
            fun d => d.kind.aliasable) := by
  have hagrees : ∀ names : List String, (∀ n ∈ names, ¬ t.scope.Captures n) →
      t.scope.AgreesOn names t.scope.ofClass :=
    fun names hnames n hn => (t.scope.lookup_eq_ofClass_iff.mpr (hnames n hn)).symm
  refine ⟨?_, fun n => t.scope.lookup_eq_ofClass_iff, fun e he => .value (hagrees _ he),
    fun kind qualname site groups hgroups => .declare (hagrees _ hgroups) kind qualname site,
    fun name e => ?_⟩
  · -- before anything is gone through there is no body around
    have hscope := scope_declare (m := m) .nameSpace "" ⟨m.file, 0, 0⟩ {} { compilation := c }
    rw [hstart] at hscope
    rw [h.outer_eq, hscope, List.append_nil]
  · have hcandidates : (fun dotted => denoted? t.compilation.table m.name.dotted
        [Dotted.under (around.foldr (fun k q => Dotted.under q k.name) "") dotted, dotted]) =
          fun dotted => denoted? t.compilation.table m.name.dotted (b.readings dotted) := by
      funext dotted
      rw [denoted?_readings, h.qualifier_eq]
    rw [hcandidates]
    cases halias : madeAlias? m b t.compilation.table e with
    | some d =>
      obtain ⟨hdenoted, haliasable⟩ := Option.filter_eq_some_iff.mp halias
      rw [outcome_tryAlias_of_some name halias, hdenoted]
      simp [haliasable]
    | none =>
      rw [outcome_tryAlias_of_none name halias]
      unfold madeAlias? at halias
      generalize (e.dottedName?.bind fun dotted => _) = denoted at halias ⊢
      cases denoted with
      | none => rfl
      | some d => simpa using halias

/-- A function that is annotated with `X`. -/
def innerFunction : Statement :=
  .function ⟨6, 8⟩ "f" [] ⟨{}, [], [], []⟩ none
    [.call ⟨5, 9⟩ (.name ⟨5, 9⟩ "meta") [.name ⟨5, 14⟩ "X"] []] []

/-- An assignment of a number to `X`. -/
def assignX (p : Place) (n : Nat) : Statement := .assign p [.name p "X"] (.literal p (.int n))

/-- The body of a class that makes `X` two, with the function in a class inside. -/
def outerBody : List Statement :=
  [assignX ⟨3, 4⟩ 2, .classDef ⟨4, 4⟩ "B" [] [] [] [] [innerFunction]]

/-- A module that makes `X` one, with this class. -/
def nestedClasses : List Statement :=
  [assignX ⟨1, 0⟩ 1, .classDef ⟨2, 0⟩ "A" [] [] [] [] outerBody]

/-- The findings where the module was declared. -/
def begun : Findings :=
  (outcome (declare sampleModule .nameSpace "" ⟨"m.py", 0, 0⟩ {}) sampleFindings).2

/-- The findings where the module has made `X` one. -/
def assignedOne : Findings := (outcome (statement sampleModule {} (assignX ⟨1, 0⟩ 1)) begun).2

/-- The findings where the outer class was declared. -/
def outerDeclared : Findings :=
  (outcome (declareClass sampleModule {} ⟨2, 0⟩ "A" [] [] []) assignedOne).2

/-- The findings where the outer class has made `X` two. -/
def assignedTwo : Findings :=
  (outcome (statement sampleModule ⟨"A", .classBody⟩ (assignX ⟨3, 4⟩ 2))
    { outerDeclared with scope := outerDeclared.scope.child }).2

/-- The findings where the inner class was declared. -/
def innerDeclared : Findings :=
  (outcome (declareClass sampleModule ⟨"A", .classBody⟩ ⟨4, 4⟩ "B" [] [] []) assignedTwo).2

/-- The findings in the inner class. -/
def insideInner : Findings := { innerDeclared with scope := innerDeclared.scope.child }

theorem comesBy_innerFunction :
    ComesBy sampleModule {} nestedClasses begun
      [⟨"B", innerDeclared.scope.inner⟩, ⟨"A", outerDeclared.scope.inner⟩] ⟨"A.B", .classBody⟩
      innerFunction insideInner := by
  have hone : outcome (statement sampleModule {} (assignX ⟨1, 0⟩ 1)) begun =
      (.ok (), assignedOne) := by rfl
  have houter : outcome (declareClass sampleModule {} ⟨2, 0⟩ "A" [] [] []) assignedOne =
      (.ok (), outerDeclared) := by rfl
  have htwo : outcome (statement sampleModule ⟨"A", .classBody⟩ (assignX ⟨3, 4⟩ 2))
      { outerDeclared with scope := outerDeclared.scope.child } = (.ok (), assignedTwo) := by rfl
  have hinner : outcome (declareClass sampleModule ⟨"A", .classBody⟩ ⟨4, 4⟩ "B" [] [] [])
      assignedTwo = (.ok (), innerDeclared) := by rfl
  have hinside : ComesBy sampleModule ⟨"A.B", .classBody⟩ [innerFunction] insideInner []
    ⟨"A.B", .classBody⟩ innerFunction insideInner := .here
  have hclass : ComesBy sampleModule ⟨"A", .classBody⟩ outerBody
      { outerDeclared with scope := outerDeclared.scope.child } [⟨"B", innerDeclared.scope.inner⟩]
      ⟨"A.B", .classBody⟩ innerFunction insideInner := .past htwo (.intoClass hinner hinside)
  exact .past hone (.intoClass houter hclass)

/-- The inner class finds two, where the module says one. -/
theorem lookup_insideInner :
    insideInner.scope.lookup "X" ≠ insideInner.scope.ofClass.lookup "X" := by
  intro hsame
  have hvalues : some (Value.int 2) = some (.int 1) := congrArg (Option.map Held.value) hsame
  cases hvalues

/-- In the inner class `X` is captured and `int` is not, and the inner class is no name there. -/
theorem class_scoping_nested :
    outcome (declare sampleModule .nameSpace "" ⟨"m.py", 0, 0⟩ {}) sampleFindings =
        (.ok (), begun) ∧
      ComesBy sampleModule {} nestedClasses begun
        [⟨"B", innerDeclared.scope.inner⟩, ⟨"A", outerDeclared.scope.inner⟩] ⟨"A.B", .classBody⟩
        innerFunction insideInner ∧
      insideInner.scope.outer = [innerDeclared.scope.inner, outerDeclared.scope.inner] ∧
      insideInner.scope.Captures "X" ∧ ¬ insideInner.scope.Captures "int" ∧
      SeesAlike insideInner.scope insideInner.scope.ofClass
        (value sampleModule (.name ⟨5, 14⟩ "int")) ∧
      (outcome (tryAlias sampleModule ⟨"A.B", .classBody⟩ "Z" (.name ⟨6, 12⟩ "B")) insideInner).1 =
        .ok false := by
  have hstart : outcome (declare sampleModule .nameSpace "" ⟨"m.py", 0, 0⟩ {}) sampleFindings =
      (.ok (), begun) := by rfl
  obtain ⟨houter, hlookup, hvalue, -, halias⟩ := class_scoping hstart comesBy_innerFunction
  have hint : ¬ insideInner.scope.Captures "int" := (hlookup "int").mp (by rfl)
  refine ⟨hstart, comesBy_innerFunction, houter, ?_, hint, hvalue _ fun n hn => ?_, ?_⟩
  · by_contra hfree
    exact lookup_insideInner ((hlookup "X").mpr hfree)
  · rw [List.mem_singleton.mp hn]
    exact hint
  · rw [halias]
    rfl

/-- In the inner class `X` has the value of the outer one, and not that of the module. -/
theorem class_scoping_captures :
    ¬ ∀ (m : ModuleSetting) (c : Compilation) (body : List Statement) (s t : Findings)
      (around : List Surrounding) (b : Body) (x : Statement),
      outcome (declare m .nameSpace "" ⟨m.file, 0, 0⟩ {}) { compilation := c } = (.ok (), s) →
      ComesBy m {} body s around b x t → ∀ n, t.scope.lookup n = t.scope.ofClass.lookup n := by
  intro hclaim
  exact lookup_insideInner (hclaim sampleModule sampleFindings.compilation nestedClasses begun
    insideInner _ _ _ (by rfl) comesBy_innerFunction "X")

end Elaboration

end Marginalia
