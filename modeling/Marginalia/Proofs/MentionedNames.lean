/-
The names that an expression mentions.

An evaluation asks the scope for nothing but the names that occur as nodes of the expression, each
at its own node.  In two scopes that answer alike for these it takes the same steps, so it comes to
the same from every compilation.  What the scopes say about other names, and how many bodies they
say it in, makes no difference to the value or the error, nor to what is left behind.  The same then
holds for the annotations of a declaration, whose items are evaluated one after the other.

* `Expr.names` — the names that occur in an expression;
* `Scope.AgreesOn` — a scope that answers like another one for some names;
* `ModuleSetting.outcome_hold_of_agreesOn` — an evaluation sees no more of a scope than this;
* `Scope.ChangedBeside` — a scope in which other names have been bound or hidden, or bodies begun;
* `Elaboration.SeesAlike` — a run that comes to the same in two scopes;
* `Elaboration.mentioned_names` — expressions and declarations come to the same when the scopes
  answer alike for the names they mention.
-/
import Marginalia.Proofs.ElaborationFindings
import Marginalia.Proofs.EvaluationInduction
import Marginalia.Proofs.SiteElaboration

namespace Marginalia

/-- The names that occur in an expression. -/
def Expr.names (e : Expr) : List String := e.walk.filterMap fun
  | .name _ n => some n
  | _ => none

theorem Expr.mem_names {e : Expr} {p : Place} {n : String} (h : Expr.name p n ∈ e.walk) :
    n ∈ e.names :=
  List.mem_filterMap.mpr ⟨_, h, rfl⟩

namespace Scope

/-- A scope answers like another one for some names. -/
def AgreesOn (names : List String) (scope scope' : Scope) : Prop :=
  ∀ n ∈ names, scope'.lookup n = scope.lookup n

/-- What becomes of a scope when only names besides some are bound or hidden, and bodies are begun
in between. -/
inductive ChangedBeside (names : List String) (scope : Scope) : Scope → Prop
  | same : ChangedBeside names scope scope
  | bind {scope' : Scope} {n : String} (v : Held) (hn : n ∉ names)
      (h : ChangedBeside names scope scope') : ChangedBeside names scope (scope'.bind n v)
  | hide {scope' : Scope} {n : String} (hn : n ∉ names) (h : ChangedBeside names scope scope') :
      ChangedBeside names scope (scope'.hide n)
  | child {scope' : Scope} (h : ChangedBeside names scope scope') :
      ChangedBeside names scope scope'.child

variable {names : List String} {scope scope' : Scope}

theorem AgreesOn.mono {names' : List String} (h : scope.AgreesOn names scope')
    (hsub : names' ⊆ names) : scope.AgreesOn names' scope' :=
  fun n hn => h n (hsub hn)

/-- Only a name that is bound or hidden itself is answered otherwise than before. -/
theorem ChangedBeside.agreesOn (h : scope.ChangedBeside names scope') :
    scope.AgreesOn names scope' := by
  intro m hm
  induction h with
  | same => rfl
  | bind v hn _ ih => exact (lookup_set_of_ne _ _ (ne_of_mem_of_not_mem hm hn)).trans ih
  | hide hn _ ih => exact (lookup_set_of_ne _ _ (ne_of_mem_of_not_mem hm hn)).trans ih
  -- a body that has just begun says nothing about any name
  | child _ ih => exact (lookup_child _ _).trans ih

end Scope

/-! ### Expressions -/

namespace ModuleSetting

variable {m : ModuleSetting} {scope scope' : Scope} {e : Expr}

theorem valueOf?_of_lookup {n : String} (h : scope'.lookup n = scope.lookup n) :
    (m.setting scope').valueOf? n = (m.setting scope).valueOf? n := by
  show (scope'.lookup n).or _ = (scope.lookup n).or _
  rw [h]
  rfl

/-- A scope is only looked at where a name stands, so every other step is the same one. -/
theorem pairedAt_of_agreesOn (h : scope.AgreesOn e.names scope') :
    (m.setting scope).PairedAt (m.setting scope') (· ∈ e.walk)
      fun x x' => ∀ c, outcome x' c = outcome x c where
  names hname := valueOf?_of_lookup (h _ (Expr.mem_names hname))
  pure _ _ := rfl
  bind hx hf c := by
    rw [outcome_bind, outcome_bind, hx c]
    cases hrun : outcome _ c with
    | mk r c' =>
      cases r with
      | error stop => rfl
      | ok a => exact hf a c c' hrun c'
  reject _ _ _ := rfl
  blame _ _ _ := rfl
  miss _ _ _ := rfl
  asOfNow _ _ := rfl
  arranged _ _ := rfl
  fresh _ _ := rfl
  invoke _ _ _ _ _ := rfl

theorem outcome_hold_of_agreesOn (h : scope.AgreesOn e.names scope') (c : Compilation) :
    outcome (e.hold (m.setting scope')) c = outcome (e.hold (m.setting scope)) c :=
  (pairedAt_of_agreesOn h).hold e (fun _ => id) c

end ModuleSetting

/-! ### Declarations -/

namespace Elaboration

variable {m : ModuleSetting} {scope scope' : Scope} {α β : Type}

/-- The names in the annotations of a declaration. -/
def Groups.names (g : Groups) : List String :=
  (g.own.flatMap Group.annotations).flatMap fun a => a.expression.names

/-- A run keeps the scope, and comes to the same in another one that takes its place. -/
def SeesAlike (scope scope' : Scope) (x : Elaboration α) : Prop :=
  ∀ s : Findings, s.scope = scope → (outcome x s).2.scope = scope ∧
    outcome x { s with scope := scope' } =
      ((outcome x s).1, { (outcome x s).2 with scope := scope' })

namespace SeesAlike

theorem pure (a : α) : SeesAlike scope scope' (Pure.pure a : Elaboration α) :=
  fun _ hs => ⟨hs, rfl⟩

theorem bind {x : Elaboration α} {f : α → Elaboration β} (hx : SeesAlike scope scope' x)
    (hf : ∀ a, SeesAlike scope scope' (f a)) : SeesAlike scope scope' (x >>= f) := by
  intro s hs
  obtain ⟨hscope, halike⟩ := hx s hs
  rw [outcome_bind, outcome_bind, halike]
  generalize outcome x s = first at hscope
  obtain ⟨f' | a, s'⟩ := first
  · exact ⟨hscope, rfl⟩
  · exact hf a s' hscope

theorem onCompilation (f : Compilation → Compilation) :
    SeesAlike scope scope' (Elaboration.onCompilation f) :=
  fun _ hs => ⟨hs, rfl⟩

theorem list (f : List ElaboratedSite → List ElaboratedSite) :
    SeesAlike scope scope'
      (modify fun s => { s with sites := f s.sites } : Elaboration Unit) :=
  fun _ hs => ⟨hs, rfl⟩

theorem report (e : AnnotationError) : SeesAlike scope scope' (Elaboration.report m e) :=
  fun _ hs => ⟨hs, rfl⟩

theorem value {x : Expr} (h : scope.AgreesOn x.names scope') :
    SeesAlike scope scope' (Elaboration.value m x) := by
  rintro s rfl
  rw [outcome_value, outcome_value]
  dsimp only
  rw [ModuleSetting.outcome_hold_of_agreesOn h]
  generalize outcome (x.hold (m.setting s.scope)) s.compilation = held
  obtain ⟨(e | f) | k, c⟩ := held <;> exact ⟨rfl, rfl⟩

theorem values : ∀ {items : List (AnnotationItem Expr)},
    scope.AgreesOn (items.flatMap fun a => a.expression.names) scope' →
      SeesAlike scope scope' (Elaboration.values m items)
  | [], _ => pure _
  | a :: rest, h => by
    rw [List.flatMap_cons] at h
    rw [Elaboration.values]
    refine (value (h.mono (List.subset_append_left _ _))).bind fun r => ?_
    cases r with
    | error e => exact pure _
    | ok k =>
      dsimp only
      cases Compilation.checkStructural k.value (some a.location) with
      | error e => exact pure _
      | ok v =>
        refine (values (h.mono (List.subset_append_right _ _))).bind fun r => ?_
        cases r <;> exact pure _

theorem siteValues {groups : Groups} (h : scope.AgreesOn groups.names scope') (kind : Kind)
    (c : Compilation) : SeesAlike scope scope' (Elaboration.siteValues m kind groups c) := by
  have hitems : SeesAlike scope scope' (itemValues m kind groups c) := by
    unfold itemValues
    cases hvalid : groups.validate kind c with
    | error e => exact pure _
    | ok items =>
      rw [Groups.names, ← annotations_of_validate hvalid] at h
      exact values h
  refine hitems.bind fun r => ?_
  cases r with
  | error e => exact (report e).bind fun _ => pure []
  | ok vs => exact pure vs

theorem annotateSite {groups : Groups} (h : scope.AgreesOn groups.names scope') (kind : Kind)
    (qualname : String) (site : Location) (i : Identity) (c : Compilation) :
    SeesAlike scope scope' (Elaboration.annotateSite m kind qualname site groups i c) := by
  rw [annotateSite_eq]
  exact (siteValues h kind c).bind fun vs =>
    (onCompilation _).bind fun _ => list fun sites => sites ++ _

theorem declare {groups : Groups} (h : scope.AgreesOn groups.names scope') (kind : Kind)
    (qualname : String) (site : Location) :
    SeesAlike scope scope' (Elaboration.declare m kind qualname site groups) := by
  rintro s rfl
  rw [outcome_declare, outcome_declare]
  -- what is declared, and whether the site is new, is a matter of the compilation
  generalize s.compilation.declare kind m.name.dotted qualname site = declared
  obtain ⟨c, i⟩ := declared
  dsimp only
  split
  · rename_i c' hfirst
    exact annotateSite h kind qualname site i c' { s with compilation := c' } rfl
  · exact ⟨rfl, rfl⟩

end SeesAlike

/-- **Only the names that are mentioned.**  In two scopes that answer alike for every name that
occurs in an expression, its evaluation comes to the same from every compilation: to the same value
or the same error, with the same location, leaving the same behind.  When other names than those in
the annotations of a declaration are bound or hidden, and bodies are begun in between, the
declaration finds the same, and leaves the scope it was given. -/
theorem mentioned_names (m : ModuleSetting) :
    (∀ (scope scope' : Scope) (e : Expr), (∀ n ∈ e.names, scope'.lookup n = scope.lookup n) →
      ∀ c : Compilation, outcome (e.evaluate (m.setting scope')) c =
        outcome (e.evaluate (m.setting scope)) c) ∧
    ∀ (kind : Kind) (qualname : String) (site : Location) (groups : Groups) (s : Findings)
      (scope' : Scope), s.scope.ChangedBeside groups.names scope' →
      outcome (declare m kind qualname site groups) { s with scope := scope' } =
        ((outcome (declare m kind qualname site groups) s).1,
          { (outcome (declare m kind qualname site groups) s).2 with scope := scope' }) := by
  refine ⟨fun scope scope' e h c => ?_, fun kind qualname site groups s scope' h => ?_⟩
  · rw [outcome_evaluate, outcome_evaluate, ModuleSetting.outcome_hold_of_agreesOn h]
  · exact (SeesAlike.declare h.agreesOn kind qualname site s rfl).2

/-- An annotation with the value of `X`. -/
def namedGroups : Groups :=
  { own := [{
      items := [⟨⟨"m.py", 1, 6⟩, .value (.name ⟨1, 6⟩ "X")⟩]
      location := ⟨"m.py", 1, 1⟩ }] }

/-- A scope in which `X` is one. -/
def namedScope : Scope := Scope.bind {} "X" { value := .int 1 }

/-- What it becomes when `Y` is bound, and `Z` hidden in a body of its own. -/
def changedScope : Scope := (namedScope.bind "Y" { value := .int 2 }).child.hide "Z"

theorem mentioned_names_sample :
    (∀ n ∈ (Expr.name ⟨1, 6⟩ "X").names, changedScope.lookup n = namedScope.lookup n) ∧
      namedScope.ChangedBeside namedGroups.names changedScope ∧
      (outcome ((Expr.name ⟨1, 6⟩ "X").evaluate (sampleModule.setting changedScope))
        sampleFindings.compilation).1.toOption = some (.int 1) ∧
      (outcome (declare sampleModule .function "f" sampleSite namedGroups)
        { sampleFindings with scope := changedScope }).2.compilation.store.recordsOf ⟨1, 0⟩ =
          [⟨⟨1, 0⟩, .builtin .int, .int 1, ⟨"m.py", 1, 6⟩, 0⟩] := by
  have hlookup : ∀ n ∈ (Expr.name ⟨1, 6⟩ "X").names,
      changedScope.lookup n = namedScope.lookup n := by
    intro n hn
    obtain rfl : n = "X" := List.mem_singleton.mp hn
    rfl
  have hchanged : namedScope.ChangedBeside namedGroups.names changedScope :=
    .hide (by decide) (.child (.bind _ (by decide) .same))
  obtain ⟨hevaluate, hdeclare⟩ := mentioned_names sampleModule
  refine ⟨hlookup, hchanged, ?_, ?_⟩
  · rw [hevaluate namedScope changedScope _ hlookup]
    rfl
  · have hsame := hdeclare .function "f" sampleSite namedGroups
      { sampleFindings with scope := namedScope } changedScope hchanged
    dsimp only at hsame
    rw [hsame]
    rfl

end Elaboration

end Marginalia
