/-
Modules without the annotations at one declaration.

`bareAll` takes the arguments out of the marker calls that annotate one declaration of a module:
its decorators, or the notes on its outermost annotated type.  Two modules that are the same
without them differ at this declaration only, and so do the steps they are gone through in.

* `DeclarationSite` — a declaration of a module and its place;
* `Statement.bareAt`, `Elaboration.bareAll` — statements without the arguments there;
* `ElaborationStep.Differ` — steps that differ there only;
* `Elaboration.bareSteps_moduleSteps` — the steps of modules that are the same without the
  arguments.
-/
import Marginalia.Proofs.StepCalls

namespace Marginalia

/-- A declaration of a module, and where it is written. -/
structure DeclarationSite where
  kind : Kind
  qualname : String
  place : Place
deriving DecidableEq

/-! ### Marker calls without arguments -/

/-- A call of the marker without its arguments; any other expression as it is. -/
def Spellings.bare (s : Spellings) : Expr → Expr
  | .call p f es ks => if f.lastName? == some s.marker then .call p f [] [] else .call p f es ks
  | e => e

theorem Spellings.isGroup_bare (s : Spellings) (e : Expr) :
    s.isGroup (s.bare e) = s.isGroup e := by
  cases e with
  | call p f es ks =>
    rw [bare]
    split <;> rfl
  | _ => rfl

theorem Spellings.bare_of_not_isGroup {s : Spellings} {e : Expr} (h : s.isGroup e = false) :
    s.bare e = e := by
  cases e with
  | call p f es ks =>
    rw [bare]
    exact if_neg (Bool.eq_false_iff.mp h)
  | _ => rfl

namespace Elaboration

variable (m : ModuleSetting) (D : DeclarationSite)

/-- What is no call of the marker is left as it is. -/
theorem others_bare (es : List Expr) : others m (es.map m.spellings.bare) = others m es := by
  unfold others
  induction es with
  | nil => rfl
  | cons e es ih =>
    rw [List.map_cons, List.filter_cons, List.filter_cons, m.spellings.isGroup_bare, ih]
    cases h : m.spellings.isGroup e with
    | true => rfl
    | false => rw [Spellings.bare_of_not_isGroup h]

/-- A type without the arguments of the notes right behind the outermost annotated type. -/
def bareType : Expr → Expr
  | .subscript p base (.tuple q (declared :: notes)) =>
    if isAnnotated m base then
      .subscript p base (.tuple q (declared :: notes.map m.spellings.bare))
    else .subscript p base (.tuple q (declared :: notes))
  | e => e

end Elaboration

open Elaboration

mutual

/-- A statement in a body without the arguments at a declaration. -/
def Statement.bareAt (m : ModuleSetting) (D : DeclarationSite) (b : Body) : Statement → Statement
  | .classDef p name bounds bases keywords decorators body =>
    .classDef p name bounds bases keywords
      (if D = ⟨.typeDef, Dotted.under b.qualifier name, p⟩ then decorators.map m.spellings.bare
        else decorators)
      (Elaboration.bareAll m D (classBody m b name bases) body)
  | .function p name bounds parameters result decorators body =>
    .function p name bounds parameters result
      (if D = ⟨.function, Dotted.under b.qualifier name, p⟩ then decorators.map m.spellings.bare
        else decorators)
      body
  | .typed p (.name q name) type value =>
    .typed p (.name q name)
      (if D = ⟨variableKind b name, Dotted.under b.qualifier name, p⟩ then bareType m type
        else type)
      value
  | .branch test body otherwise =>
    .branch test (Elaboration.bareAll m D b body) (Elaboration.bareAll m D b otherwise)
  | .attempt body types handlers otherwise final =>
    .attempt (Elaboration.bareAll m D b body) types (Elaboration.bareBodies m D b handlers)
      (Elaboration.bareAll m D b otherwise) (Elaboration.bareAll m D b final)
  | .within contexts targets body => .within contexts targets (Elaboration.bareAll m D b body)
  | .each target source body otherwise =>
    .each target source (Elaboration.bareAll m D b body) (Elaboration.bareAll m D b otherwise)
  | .repeated test body otherwise =>
    .repeated test (Elaboration.bareAll m D b body) (Elaboration.bareAll m D b otherwise)
  | .select subject guards cases => .select subject guards (Elaboration.bareBodies m D b cases)
  | st => st

/-- Statements in a body without the arguments at a declaration. -/
def Elaboration.bareAll (m : ModuleSetting) (D : DeclarationSite) (b : Body) :
    List Statement → List Statement
  | [] => []
  | st :: rest => st.bareAt m D b :: Elaboration.bareAll m D b rest

/-- Several bodies without the arguments at a declaration. -/
def Elaboration.bareBodies (m : ModuleSetting) (D : DeclarationSite) (b : Body) :
    List (List Statement) → List (List Statement)
  | [] => []
  | body :: rest => Elaboration.bareAll m D b body :: Elaboration.bareBodies m D b rest

end

/-! ### Steps without annotations -/

/-- What is written at a declaration, without what annotates it. -/
def Written.bare (w : Written) : Written := { w with own := [] }

mutual

/-- A step without what annotates a declaration. -/
def ElaborationStep.bareAt (D : DeclarationSite) : ElaborationStep → ElaborationStep
  | .declare kind qualname p written =>
    .declare kind qualname p (if D = ⟨kind, qualname, p⟩ then written.map Written.bare else written)
  | .inside steps => .inside (Elaboration.bareSteps D steps)
  | step => step

/-- Steps without what annotates a declaration. -/
def Elaboration.bareSteps (D : DeclarationSite) : List ElaborationStep → List ElaborationStep
  | [] => []
  | step :: rest => step.bareAt D :: Elaboration.bareSteps D rest

end

namespace Elaboration

theorem bareSteps_eq_map (D : DeclarationSite) (steps : List ElaborationStep) :
    bareSteps D steps = steps.map (ElaborationStep.bareAt D) := by
  induction steps with
  | nil => rw [bareSteps, List.map_nil]
  | cons step rest ih => rw [bareSteps, ih, List.map_cons]

@[simp] theorem bareSteps_append (D : DeclarationSite) (steps rest : List ElaborationStep) :
    bareSteps D (steps ++ rest) = bareSteps D steps ++ bareSteps D rest := by
  simp only [bareSteps_eq_map, List.map_append]

variable {m : ModuleSetting} {D : DeclarationSite}

/-- The arguments of the notes on a type annotate the declaration, and are nothing else in it. -/
theorem typedWritten_bareType (type : Expr) (value : Option Expr) :
    (typedWritten m (bareType m type) value).map Written.bare =
      (typedWritten m type value).map Written.bare := by
  unfold bareType
  split
  · split
    · rename_i p base q declared notes hannotated
      simp only [typedWritten, hannotated, if_true, others_bare]
      rfl
    · rfl
  · rfl

mutual

theorem steps_bareAt (m : ModuleSetting) (D : DeclarationSite) : ∀ (st : Statement) (b : Body),
    bareSteps D ((st.bareAt m D b).steps m b) = bareSteps D (st.steps m b)
  | .classDef p name bounds bases keywords decorators body, b => by
    -- the declaration can be the class itself or one in its body
    have hbody := stepsOfAll_bareAll m D body (classBody m b name bases)
    simp only [Statement.bareAt, Statement.steps, bareSteps, ElaborationStep.bareAt, hbody]
    split <;> simp [others_bare, Except.map, Written.bare]
  | .function p name bounds parameters result decorators body, b => by
    simp only [Statement.bareAt, Statement.steps, bareSteps, ElaborationStep.bareAt]
    split <;> simp [others_bare, Except.map, Written.bare]
  | .typed p target type value, b => by
    cases target with
    | name q name =>
      simp only [Statement.bareAt, Statement.steps, bareSteps, ElaborationStep.bareAt]
      split
      · rw [typedWritten_bareType]
      · rfl
    | _ => simp only [Statement.bareAt]
  | .branch test body otherwise, b => by
    simp only [Statement.bareAt, Statement.steps, bareSteps_append,
      stepsOfAll_bareAll m D body b, stepsOfAll_bareAll m D otherwise b]
  | .attempt body types handlers otherwise final, b => by
    simp only [Statement.bareAt, Statement.steps, bareSteps_append,
      stepsOfAll_bareAll m D body b, stepsOfBodies_bareBodies m D handlers b,
      stepsOfAll_bareAll m D otherwise b, stepsOfAll_bareAll m D final b]
  | .within contexts targets body, b => by
    simp only [Statement.bareAt, Statement.steps, bareSteps, stepsOfAll_bareAll m D body b]
  | .each target source body otherwise, b => by
    simp only [Statement.bareAt, Statement.steps, bareSteps_append,
      stepsOfAll_bareAll m D body b, stepsOfAll_bareAll m D otherwise b]
  | .repeated test body otherwise, b => by
    simp only [Statement.bareAt, Statement.steps, bareSteps_append,
      stepsOfAll_bareAll m D body b, stepsOfAll_bareAll m D otherwise b]
  | .select subject guards cases, b => by
    simp only [Statement.bareAt, Statement.steps, bareSteps, stepsOfBodies_bareBodies m D cases b]
  | .assign .., _ | .augment .., _ | .typeAlias .., _ | .importModules .., _ | .importNames .., _
  | .delete .., _ | .expression _, _ | .plain .., _ => by
    simp only [Statement.bareAt]

theorem stepsOfAll_bareAll (m : ModuleSetting) (D : DeclarationSite) :
    ∀ (body : List Statement) (b : Body),
      bareSteps D (stepsOfAll m b (bareAll m D b body)) = bareSteps D (stepsOfAll m b body)
  | [], b => by rw [bareAll]
  | st :: rest, b => by
    simp only [bareAll, stepsOfAll, bareSteps_append, steps_bareAt m D st b,
      stepsOfAll_bareAll m D rest b]

theorem stepsOfBodies_bareBodies (m : ModuleSetting) (D : DeclarationSite) :
    ∀ (bodies : List (List Statement)) (b : Body),
      bareSteps D (stepsOfBodies m b (bareBodies m D b bodies)) =
        bareSteps D (stepsOfBodies m b bodies)
  | [], b => by rw [bareBodies]
  | body :: rest, b => by
    simp only [bareBodies, stepsOfBodies, bareSteps_append, stepsOfAll_bareAll m D body b,
      stepsOfBodies_bareBodies m D rest b]

end

end Elaboration

/-! ### What does not depend on annotations -/

mutual

theorem ElaborationStep.calls_bareAt (m : ModuleSetting) (D : DeclarationSite) (t : Table) :
    ∀ step : ElaborationStep, (step.bareAt D).calls m t = step.calls m t
  | .declare .. => by simp only [ElaborationStep.bareAt, ElaborationStep.calls]
  | .inside steps => by
    simp only [ElaborationStep.bareAt, ElaborationStep.calls,
      Elaboration.callsOfAll_bareSteps m D t steps]
  | .refuse _ | .bind .. | .assign .. | .imported .. => by simp only [ElaborationStep.bareAt]

/-- Which calls steps make does not depend on annotations. -/
theorem Elaboration.callsOfAll_bareSteps (m : ModuleSetting) (D : DeclarationSite) (t : Table) :
    ∀ steps : List ElaborationStep, callsOfAll m t (bareSteps D steps) = callsOfAll m t steps
  | [] => by rw [bareSteps]
  | step :: rest => by
    rw [bareSteps, callsOfAll, callsOfAll, step.calls_bareAt m D t,
      Elaboration.callsOfAll_bareSteps m D _ rest]

end

mutual

/-- What is written at a declaration in a step. -/
def ElaborationStep.writtenAt (D : DeclarationSite) : ElaborationStep → List Written
  | .declare kind qualname p (.ok w) => if D = ⟨kind, qualname, p⟩ then [w] else []
  | .inside steps => Elaboration.writtenAtAll D steps
  | _ => []

/-- What is written at a declaration in steps. -/
def Elaboration.writtenAtAll (D : DeclarationSite) : List ElaborationStep → List Written
  | [] => []
  | step :: rest => step.writtenAt D ++ Elaboration.writtenAtAll D rest

end

/-! ### Steps that differ at one declaration -/

/-- Two steps that differ in what annotates a declaration only. -/
inductive ElaborationStep.Differ (D : DeclarationSite) : ElaborationStep → ElaborationStep → Prop
  | same (step : ElaborationStep) : Differ D step step
  | declare {written written' : Except Fault Written}
    (h : written.map Written.bare = written'.map Written.bare) :
    Differ D (.declare D.kind D.qualname D.place written)
      (.declare D.kind D.qualname D.place written')
  | inside {steps steps' : List ElaborationStep}
    (h : Elaboration.bareSteps D steps = Elaboration.bareSteps D steps') :
    Differ D (.inside steps) (.inside steps')

theorem ElaborationStep.differ_of_bareAt_eq {D : DeclarationSite} {step step' : ElaborationStep}
    (h : step.bareAt D = step'.bareAt D) : step.Differ D step' := by
  cases step with
  | declare kind qualname p written =>
    cases step' with
    | declare kind' qualname' p' written' =>
      simp only [bareAt, ElaborationStep.declare.injEq] at h
      obtain ⟨rfl, rfl, rfl, h⟩ := h
      by_cases hD : D = ⟨kind, qualname, p⟩
      · subst hD
        rw [if_pos rfl, if_pos rfl] at h
        exact .declare h
      · rw [if_neg hD, if_neg hD] at h
        exact h ▸ .same _
    | _ => simp only [bareAt, reduceCtorEq] at h
  | inside steps =>
    cases step' with
    | inside steps' =>
      simp only [bareAt, ElaborationStep.inside.injEq] at h
      exact .inside h
    | _ => simp only [bareAt, reduceCtorEq] at h
  | _ =>
    -- any other step has no arguments to lose
    cases step' with
    | declare | inside => simp only [bareAt, reduceCtorEq] at h
    | _ =>
      simp only [bareAt] at h
      exact h ▸ .same _

namespace Elaboration

/-- The steps of modules that are the same without the arguments at a declaration. -/
theorem bareSteps_moduleSteps {m : ModuleSetting} {D : DeclarationSite}
    {body body' : List Statement} (h : bareAll m D {} body = bareAll m D {} body') :
    bareSteps D (moduleSteps m body) = bareSteps D (moduleSteps m body') := by
  rw [moduleSteps, moduleSteps, bareSteps, bareSteps, ← stepsOfAll_bareAll m D body, h,
    stepsOfAll_bareAll m D body']

end Elaboration

end Marginalia
