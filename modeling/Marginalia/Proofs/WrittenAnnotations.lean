/-
Where the annotations in the statements of a module go.

Every annotation in an expression of a module stands in one of three places: in a group that
annotates a declaration, in an expression that is searched for groups because none can stand
there, or in an expression that nothing is looked for in.

* `Statement.expressions` — the expressions of a statement, those of functions' bodies left out;
* `ElaborationStep.owned`, `ElaborationStep.searched` — what the steps of an elaboration take for
  annotations of a declaration, and where they look for misplaced ones;
* `Statement.overlooked` — the expressions that no step looks into;
* `Elaboration.annotations_statements` — these are all.
-/
import Marginalia.Proofs.ElaborationSteps
import Marginalia.Proofs.ExpressionNodes
import Marginalia.Proofs.SiteElaboration
import Marginalia.Proofs.TableCalls
import Mathlib.Data.Multiset.Bind
import Mathlib.Tactic.Abel

namespace Marginalia

/-! ### The annotations in expressions -/

namespace Spellings

variable (s : Spellings) (file : String)

/-- The annotations of every group anywhere in some expressions, each as often as it is
written. -/
def annotationsIn (es : List Expr) : Multiset (AnnotationItem Expr) :=
  ((es.flatMap Expr.walk).flatMap (s.annotationsWritten file) : List (AnnotationItem Expr))

@[simp] theorem annotationsIn_nil : s.annotationsIn file [] = 0 := rfl

@[simp] theorem annotationsIn_append (es es' : List Expr) :
    s.annotationsIn file (es ++ es') = s.annotationsIn file es + s.annotationsIn file es' := by
  simp [annotationsIn]

theorem annotationsIn_cons (e : Expr) (es : List Expr) :
    s.annotationsIn file (e :: es) = s.annotationsIn file [e] + s.annotationsIn file es :=
  s.annotationsIn_append file [e] es

/-- The annotations in an expression are those of the expression itself and those in its parts. -/
theorem annotationsIn_of_walk {e : Expr} {parts : List Expr}
    (h : e.walk.Perm (e :: parts.flatMap Expr.walk)) :
    s.annotationsIn file [e] = (s.annotationsWritten file e : Multiset _) +
      s.annotationsIn file parts := by
  have hwalk := h.flatMap_right (s.annotationsWritten file)
  rw [List.flatMap_cons] at hwalk
  rw [annotationsIn, annotationsIn, Multiset.coe_add, List.flatMap_cons, List.flatMap_nil,
    List.append_nil]
  exact Multiset.coe_eq_coe.mpr hwalk

/-- An expression that makes no group has no annotations of its own. -/
theorem annotationsWritten_of_not_isGroup {e : Expr} (h : s.isGroup e = false) :
    s.annotationsWritten file e = [] := by
  cases e with
  | call p f es ks =>
    rw [isGroup, Expr.isCallTo] at h
    simp [annotationsWritten, h]
  | _ => rfl

theorem annotationsIn_name (p : Place) (n : String) : s.annotationsIn file [.name p n] = 0 := rfl

theorem annotationsIn_tuple (p : Place) (es : List Expr) :
    s.annotationsIn file [.tuple p es] = s.annotationsIn file es := by
  rw [s.annotationsIn_of_walk file (Expr.walk_tuple p es),
    s.annotationsWritten_of_not_isGroup file rfl, Multiset.coe_nil, zero_add]

theorem annotationsIn_subscript (p : Place) (a b : Expr) :
    s.annotationsIn file [.subscript p a b] =
      s.annotationsIn file [a] + s.annotationsIn file [b] := by
  rw [s.annotationsIn_of_walk file (Expr.walk_subscript p a b),
    s.annotationsWritten_of_not_isGroup file rfl, Multiset.coe_nil, zero_add, annotationsIn_cons]

/-- The annotations of a group are its own and those in its parts. -/
theorem annotationsIn_group {e : Expr} (h : s.isGroup e = true) :
    s.annotationsIn file [e] = (s.annotationsWritten file e : Multiset _) +
      s.annotationsIn file e.callParts := by
  cases e with
  | call p f es ks => exact s.annotationsIn_of_walk file (Expr.walk_call p f es ks)
  | _ => cases h

/-- The annotations of a module that is annotated are those of the parts. -/
theorem annotationsIn_moduleParts (e : Expr) :
    s.annotationsIn file (moduleParts e) = s.annotationsIn file [e] := by
  cases e with
  | tuple p es => exact (s.annotationsIn_tuple file p es).symm
  | _ => rfl

/-- Without a group there is no annotation. -/
theorem annotationsIn_of_not_marks {e : Expr} (h : s.marks e = false) :
    s.annotationsIn file [e] = 0 := by
  rw [annotationsIn, Multiset.coe_eq_zero, List.flatMap_eq_nil_iff]
  intro node hnode
  rw [List.flatMap_cons, List.flatMap_nil, List.append_nil] at hnode
  exact s.annotationsWritten_of_not_isGroup file (by simpa using List.any_eq_false.mp h node hnode)

/-- What annotations groups were read from some expressions are those in the expressions. -/
theorem annotationsIn_of_groupsIn {es : List Expr} {gs : List (Group Expr)}
    (h : s.groupsIn file es = .ok gs) :
    s.annotationsIn file es = (gs.flatMap Group.annotations : List (AnnotationItem Expr)) := by
  rw [s.annotations_of_groups file h, annotationsIn]

end Spellings

/-! ### The expressions of statements -/

mutual

/-- Every expression of a statement and of those inside it, without the bodies of functions. -/
def Statement.expressions : Statement → List Expr
  | .classDef _ _ bounds bases keywords decorators body =>
    decorators ++ (bases ++ keywords) ++ bounds ++ expressionsOfAll body
  | .function _ _ bounds parameters result decorators _ =>
    decorators ++ (parameters.types ++ result.toList) ++ bounds ++
      (parameters.defaults ++ parameters.keywordDefaults.filterMap id)
  | .typed _ target type value => target :: type :: value.toList
  | .assign _ targets value => targets ++ [value]
  | .augment _ target value => [target, value]
  | .typeAlias _ _ bounds value => bounds ++ [value]
  | .importModules .. | .importNames .. => []
  | .branch test body otherwise => [test] ++ (expressionsOfAll body ++ expressionsOfAll otherwise)
  | .attempt body types handlers otherwise final =>
    types ++ (expressionsOfAll body ++ (expressionsOfBodies handlers ++
      (expressionsOfAll otherwise ++ expressionsOfAll final)))
  | .within contexts targets body => contexts ++ targets ++ expressionsOfAll body
  | .each target source body otherwise =>
    [target, source] ++ (expressionsOfAll body ++ expressionsOfAll otherwise)
  | .repeated test body otherwise => [test] ++ (expressionsOfAll body ++ expressionsOfAll otherwise)
  | .select subject guards cases => [subject] ++ (guards ++ expressionsOfBodies cases)
  | .delete _ targets => targets
  | .expression e => [e]
  | .plain _ _ parts => parts

/-- Every expression of some statements. -/
def expressionsOfAll : List Statement → List Expr
  | [] => []
  | st :: rest => st.expressions ++ expressionsOfAll rest

/-- Every expression of several bodies. -/
def expressionsOfBodies : List (List Statement) → List Expr
  | [] => []
  | body :: rest => expressionsOfAll body ++ expressionsOfBodies rest

end

namespace Elaboration

/-- The parts of the groups among some expressions. -/
def groupParts (m : ModuleSetting) (es : List Expr) : List Expr :=
  (es.filter m.spellings.isGroup).flatMap Expr.callParts

/-- The expressions of a type and a value that a declared name is given without a look: what
is in a group, and the name of the annotated type. -/
def typedOverlooked (m : ModuleSetting) (type : Expr) (value : Option Expr) : List Expr :=
  match type with
  | .subscript _ base (.tuple _ parts) =>
    if isAnnotated m base then
      match parts with
      | [] => base :: value.toList
      | _ :: notes => base :: groupParts m notes
    else []
  | _ => []

end Elaboration

open Elaboration

mutual

/-- The expressions of a statement and of those inside it that no group is looked for in: tests,
sources and targets, what is computed and directs the flow of control, what bounds type
parameters, and the parts of groups themselves. -/
def Statement.overlooked (m : ModuleSetting) (b : Body) : Statement → List Expr
  | .classDef _ name bounds bases _ decorators body =>
    groupParts m decorators ++ bounds ++ overlookedOfAll m (classBody m b name bases) body
  | .function _ _ bounds _ _ decorators _ => groupParts m decorators ++ bounds
  | .typed _ (.name _ _) type value => typedOverlooked m type value
  | .typed _ target _ _ => [target]
  | .assign _ targets value =>
    targets ++ if annotatesModule m b targets then groupParts m (Spellings.moduleParts value) else []
  | .augment _ target value => [target, value]
  | .branch test body otherwise =>
    [test] ++ (overlookedOfAll m b body ++ overlookedOfAll m b otherwise)
  | .attempt body types handlers otherwise final =>
    types ++ (overlookedOfAll m b body ++ (overlookedOfBodies m b handlers ++
      (overlookedOfAll m b otherwise ++ overlookedOfAll m b final)))
  | .within _ targets body => targets ++ overlookedOfAll m b body
  | .each target source body otherwise =>
    [target, source] ++ (overlookedOfAll m b body ++ overlookedOfAll m b otherwise)
  | .repeated test body otherwise =>
    [test] ++ (overlookedOfAll m b body ++ overlookedOfAll m b otherwise)
  | .select _ guards cases => guards ++ overlookedOfBodies m b cases
  | .delete _ targets => targets
  | .expression e => if m.spellings.isGroup e then [] else [e]
  | .plain _ _ parts => parts
  | .typeAlias _ _ bounds _ => bounds
  | .importModules .. | .importNames .. => []

/-- The expressions of some statements that no group is looked for in. -/
def overlookedOfAll (m : ModuleSetting) (b : Body) : List Statement → List Expr
  | [] => []
  | st :: rest => st.overlooked m b ++ overlookedOfAll m b rest

/-- The expressions of several bodies that no group is looked for in. -/
def overlookedOfBodies (m : ModuleSetting) (b : Body) : List (List Statement) → List Expr
  | [] => []
  | body :: rest => overlookedOfAll m b body ++ overlookedOfBodies m b rest

end

/-! ### What the steps find -/

mutual

/-- The annotations that a step takes for those of a declaration, each with the module, name and
kind of what it annotates. -/
def ElaborationStep.owned (m : ModuleSetting) :
    ElaborationStep → List (DeclarationKey × AnnotationItem Expr)
  | .declare kind qualname _ (.ok w) =>
    (w.own.flatMap (m.spellings.annotationsWritten m.file)).map
      fun a => ((m.name.dotted, qualname, kind), a)
  | .inside steps => ownedOfAll m steps
  | _ => []

/-- The annotations that steps take for those of declarations. -/
def ownedOfAll (m : ModuleSetting) :
    List ElaborationStep → List (DeclarationKey × AnnotationItem Expr)
  | [] => []
  | step :: rest => step.owned m ++ ownedOfAll m rest

end

mutual

/-- The expressions in which a step looks for annotations that cannot stand there. -/
def ElaborationStep.searched : ElaborationStep → List Expr
  | .declare _ _ _ (.ok w) => w.types ++ w.value
  | .refuse es => es
  | .inside steps => searchedOfAll steps
  | _ => []

/-- The expressions in which steps look for annotations that cannot stand there. -/
def searchedOfAll : List ElaborationStep → List Expr
  | [] => []
  | step :: rest => step.searched ++ searchedOfAll rest

end

namespace Elaboration

variable {m : ModuleSetting} {b : Body}

@[simp] theorem ownedOfAll_append (steps rest : List ElaborationStep) :
    ownedOfAll m (steps ++ rest) = ownedOfAll m steps ++ ownedOfAll m rest := by
  induction steps with
  | nil => rfl
  | cons step steps ih => simp [ownedOfAll, ih]

@[simp] theorem searchedOfAll_append (steps rest : List ElaborationStep) :
    searchedOfAll (steps ++ rest) = searchedOfAll steps ++ searchedOfAll rest := by
  induction steps with
  | nil => rfl
  | cons step steps ih => simp [searchedOfAll, ih]

/-- The annotations that steps find, on declarations and where they cannot stand. -/
def foundIn (m : ModuleSetting) (steps : List ElaborationStep) : Multiset (AnnotationItem Expr) :=
  ((ownedOfAll m steps).map Prod.snd : List (AnnotationItem Expr)) +
    m.spellings.annotationsIn m.file (searchedOfAll steps)

@[simp] theorem foundIn_nil : foundIn m [] = 0 := rfl

@[simp] theorem foundIn_append (steps rest : List ElaborationStep) :
    foundIn m (steps ++ rest) = foundIn m steps + foundIn m rest := by
  simp only [foundIn, ownedOfAll_append, searchedOfAll_append, List.map_append,
    Spellings.annotationsIn_append, ← Multiset.coe_add]
  abel

theorem foundIn_cons (step : ElaborationStep) (steps : List ElaborationStep) :
    foundIn m (step :: steps) = foundIn m [step] + foundIn m steps :=
  foundIn_append [step] steps

theorem foundIn_cons_cons (step next : ElaborationStep) (steps : List ElaborationStep) :
    foundIn m (step :: next :: steps) = foundIn m [step] + foundIn m (next :: steps) :=
  foundIn_cons step (next :: steps)

@[simp] theorem foundIn_declare (kind : Kind) (qualname : String) (p : Place) (w : Written) :
    foundIn m [.declare kind qualname p (.ok w)] =
      (w.own.flatMap (m.spellings.annotationsWritten m.file) : List (AnnotationItem Expr)) +
        m.spellings.annotationsIn m.file (w.types ++ w.value) := by
  simp [foundIn, ownedOfAll, searchedOfAll, ElaborationStep.owned, ElaborationStep.searched,
    Function.comp_def]

@[simp] theorem foundIn_refuse (es : List Expr) :
    foundIn m [.refuse es] = m.spellings.annotationsIn m.file es := by
  simp [foundIn, ownedOfAll, searchedOfAll, ElaborationStep.owned, ElaborationStep.searched]

@[simp] theorem foundIn_inside (steps : List ElaborationStep) :
    foundIn m [.inside steps] = foundIn m steps := by
  simp [foundIn, ownedOfAll, searchedOfAll, ElaborationStep.owned, ElaborationStep.searched]

@[simp] theorem foundIn_bind (name : String) (value : Option Expr) :
    foundIn m [.bind name value] = 0 := rfl

/-- Names that are assigned or imported bear no annotations. -/
theorem foundIn_eq_zero {steps : List ElaborationStep}
    (h : ∀ step ∈ steps, step.owned m = [] ∧ step.searched = []) : foundIn m steps = 0 := by
  induction steps with
  | nil => rfl
  | cons step steps ih =>
    obtain ⟨howned, hsearched⟩ := h step List.mem_cons_self
    have hstep : foundIn m [step] = 0 := by
      simp [foundIn, ownedOfAll, searchedOfAll, howned, hsearched]
    rw [foundIn_cons, hstep, ih fun step hs => h step (List.mem_cons_of_mem _ hs), add_zero]

/-! ### All the annotations of a statement -/

/-- The annotations in expressions that may be groups are those of the groups, those in the
others, and those in the parts of the groups. -/
theorem annotationsIn_groups (es : List Expr) :
    m.spellings.annotationsIn m.file es =
      (es.flatMap (m.spellings.annotationsWritten m.file) : List (AnnotationItem Expr)) +
        m.spellings.annotationsIn m.file (others m es) +
          m.spellings.annotationsIn m.file (groupParts m es) := by
  induction es with
  | nil => rfl
  | cons e es ih =>
    rw [Spellings.annotationsIn_cons, ih, List.flatMap_cons, ← Multiset.coe_add]
    cases hgroup : m.spellings.isGroup e with
    | true =>
      have hothers : others m (e :: es) = others m es := by simp [others, hgroup]
      have hparts : groupParts m (e :: es) = e.callParts ++ groupParts m es := by
        simp [groupParts, hgroup]
      rw [m.spellings.annotationsIn_group m.file hgroup, hothers, hparts,
        Spellings.annotationsIn_append]
      abel
    | false =>
      have hothers : others m (e :: es) = e :: others m es := by simp [others, hgroup]
      have hparts : groupParts m (e :: es) = groupParts m es := by simp [groupParts, hgroup]
      rw [m.spellings.annotationsWritten_of_not_isGroup m.file hgroup, hothers, hparts,
        m.spellings.annotationsIn_cons m.file e (others m es), Multiset.coe_nil, zero_add]
      abel

/-- The annotations at a declaration with decorators are found, except in the parts of groups. -/
theorem annotationsIn_decorated (kind : Kind) (qualname : String) (p : Place)
    (decorators types : List Expr) :
    m.spellings.annotationsIn m.file decorators + m.spellings.annotationsIn m.file types =
      foundIn m [.declare kind qualname p (.ok { own := decorators, types })] +
        m.spellings.annotationsIn m.file (others m decorators) +
          m.spellings.annotationsIn m.file (groupParts m decorators) := by
  rw [foundIn_declare, annotationsIn_groups decorators, List.append_nil]
  abel

/-- So are those in a type and its value. -/
theorem annotationsIn_typedWritten (kind : Kind) (qualname : String) (p : Place) (type : Expr)
    (value : Option Expr) :
    m.spellings.annotationsIn m.file (type :: value.toList) =
      foundIn m [.declare kind qualname p (typedWritten m type value)] +
        m.spellings.annotationsIn m.file (typedOverlooked m type value) := by
  -- a type without notes is searched as a whole, and nothing is overlooked
  have hplain : ∀ type, m.spellings.annotationsIn m.file (type :: value.toList) =
      foundIn m [.declare kind qualname p (.ok { types := [type], value := value.toList })] +
        m.spellings.annotationsIn m.file [] := by
    simp
  unfold typedWritten typedOverlooked
  cases type with
  | subscript q base index =>
    cases index with
    | tuple r parts =>
      dsimp only
      by_cases hhead : isAnnotated m base
      · rw [if_pos hhead, if_pos hhead, Spellings.annotationsIn_cons,
          Spellings.annotationsIn_subscript, Spellings.annotationsIn_tuple]
        cases parts with
        | nil =>
          -- the type cannot be taken apart
          rw [m.spellings.annotationsIn_cons m.file base value.toList, Spellings.annotationsIn_nil,
            add_zero]
          exact (zero_add _).symm
        | cons declared notes =>
          rw [foundIn_declare, m.spellings.annotationsIn_cons m.file declared notes,
            annotationsIn_groups notes, List.cons_append,
            m.spellings.annotationsIn_cons m.file declared (others m notes ++ _),
            Spellings.annotationsIn_append,
            m.spellings.annotationsIn_cons m.file base (groupParts m notes)]
          abel
      · rw [if_neg hhead, if_neg hhead]
        exact hplain _
    | _ => exact hplain _
  | _ => exact hplain _

/-- The annotations of a declaration with a type are found, except in the target and in what is
overlooked in the type. -/
theorem annotationsIn_typed (b : Body) (p : Place) (target type : Expr) (value : Option Expr) :
    m.spellings.annotationsIn m.file (Statement.typed p target type value).expressions =
      foundIn m ((Statement.typed p target type value).steps m b) +
        m.spellings.annotationsIn m.file
          ((Statement.typed p target type value).overlooked m b) := by
  rw [Statement.expressions, Spellings.annotationsIn_cons]
  cases target with
  | name q name =>
    rw [Statement.overlooked, Statement.steps, Spellings.annotationsIn_name, foundIn_cons_cons,
      foundIn_bind,
      annotationsIn_typedWritten (variableKind b name) (Dotted.under b.qualifier name) p]
    abel
  | _ =>
    rw [steps_typed_of_no_name rfl, Statement.overlooked, foundIn_refuse, add_comm]
    intro q name hname
    cases hname

/-- The annotations of an assignment are found when it annotates the module or its value holds
groups; targets are not looked into. -/
theorem annotationsIn_assigned (b : Body) (p : Place) (targets : List Expr) (value : Expr) :
    m.spellings.annotationsIn m.file (targets ++ [value]) =
      foundIn m (assignedSteps m b p targets value) +
        m.spellings.annotationsIn m.file ((Statement.assign p targets value).overlooked m b) := by
  rw [Statement.overlooked, Spellings.annotationsIn_append, Spellings.annotationsIn_append]
  unfold assignedSteps
  dsimp only
  split
  · rw [foundIn_cons, foundIn_declare, foundIn_refuse, ← m.spellings.annotationsIn_moduleParts,
      annotationsIn_groups (Spellings.moduleParts value), List.append_nil,
      Spellings.annotationsIn_nil]
    abel
  · split
    · rw [foundIn_refuse, Spellings.annotationsIn_nil]
      abel
    · rename_i hmarks
      -- only names are left to declare, and these bear no annotations
      have hnone : foundIn m (if (targets.filterMap targetName?).length = targets.length then
          (targets.filterMap targetName?).map fun n => .assign b p n value else []) = 0 := by
        refine foundIn_eq_zero fun step hstep => ?_
        split at hstep
        · obtain ⟨n, -, rfl⟩ := List.mem_map.mp hstep
          exact ⟨rfl, rfl⟩
        · cases hstep
      rw [m.spellings.annotationsIn_of_not_marks m.file (by simpa using hmarks)]
      simpa using hnone

mutual

/-- Every annotation in a statement is found by its steps, or stands where it is overlooked. -/
theorem annotations_statement (m : ModuleSetting) : ∀ (b : Body) (st : Statement),
    m.spellings.annotationsIn m.file st.expressions =
      foundIn m (st.steps m b) + m.spellings.annotationsIn m.file (st.overlooked m b)
  | b, .classDef p name bounds bases keywords decorators body => by
    have hhead := annotationsIn_decorated (m := m) .typeDef (Dotted.under b.qualifier name) p
      decorators (bases ++ keywords)
    have hbody := annotations_statements m (classBody m b name bases) body
    rw [Statement.expressions, Statement.overlooked, Statement.steps]
    simp only [Spellings.annotationsIn_append, foundIn_cons_cons, foundIn_refuse, foundIn_bind,
      foundIn_inside] at hhead ⊢
    rw [hhead, hbody]
    abel
  | b, .function p name bounds parameters result decorators body => by
    have hhead := annotationsIn_decorated (m := m) .function (Dotted.under b.qualifier name) p
      decorators (parameters.types ++ result.toList)
    rw [Statement.expressions, Statement.overlooked, Statement.steps]
    simp only [Spellings.annotationsIn_append, foundIn_cons_cons, foundIn_refuse,
      foundIn_bind] at hhead ⊢
    rw [hhead]
    abel
  | b, .typed p target type value => annotationsIn_typed b p target type value
  | b, .assign p targets value => annotationsIn_assigned b p targets value
  | b, .typeAlias p name bounds value => by
    rw [Statement.expressions, Statement.overlooked, Statement.steps, foundIn_cons,
      foundIn_declare, foundIn_bind, Spellings.annotationsIn_append, add_comm]
    simp
  | b, .importModules p modules => by
    rw [Statement.expressions, Statement.overlooked, Statement.steps, foundIn_eq_zero]
    · rfl
    · intro step hstep
      obtain ⟨i, -, rfl⟩ := List.mem_map.mp hstep
      unfold moduleStep
      split <;> exact ⟨rfl, rfl⟩
  | b, .importNames p module names level => by
    rw [Statement.expressions, Statement.overlooked, Statement.steps, foundIn_eq_zero]
    · rfl
    · intro step hstep
      obtain ⟨i, -, rfl⟩ := List.mem_map.mp hstep
      exact ⟨rfl, rfl⟩
  | b, .branch test body otherwise | b, .repeated test body otherwise
  | b, .each target source body otherwise => by
    rw [Statement.expressions, Statement.overlooked, Statement.steps]
    simp only [Spellings.annotationsIn_append, foundIn_append, annotations_statements m b body,
      annotations_statements m b otherwise]
    abel
  | b, .attempt body types handlers otherwise final => by
    rw [Statement.expressions, Statement.overlooked, Statement.steps]
    simp only [Spellings.annotationsIn_append, foundIn_append, annotations_statements m b body,
      annotations_bodies m b handlers, annotations_statements m b otherwise,
      annotations_statements m b final]
    abel
  | b, .within contexts targets body => by
    rw [Statement.expressions, Statement.overlooked, Statement.steps, foundIn_cons, foundIn_refuse]
    simp only [Spellings.annotationsIn_append, annotations_statements m b body]
    abel
  | b, .select subject guards cases => by
    rw [Statement.expressions, Statement.overlooked, Statement.steps, foundIn_cons, foundIn_refuse]
    simp only [Spellings.annotationsIn_append, annotations_bodies m b cases]
    abel
  | b, .expression e => by
    rw [Statement.expressions, Statement.overlooked, Statement.steps]
    cases m.spellings.isGroup e <;> simp
  | b, .augment .. | b, .delete .. | b, .plain .. => (zero_add _).symm

/-- **Everything written.**  Every annotation in statements, as often as it is written, is found
by their steps or stands in an expression that is overlooked. -/
theorem annotations_statements (m : ModuleSetting) : ∀ (b : Body) (body : List Statement),
    m.spellings.annotationsIn m.file (expressionsOfAll body) =
      foundIn m (stepsOfAll m b body) + m.spellings.annotationsIn m.file (overlookedOfAll m b body)
  | b, [] => rfl
  | b, st :: rest => by
    rw [expressionsOfAll, stepsOfAll, overlookedOfAll, Spellings.annotationsIn_append,
      Spellings.annotationsIn_append, foundIn_append, annotations_statement m b st,
      annotations_statements m b rest]
    abel

theorem annotations_bodies (m : ModuleSetting) : ∀ (b : Body) (bs : List (List Statement)),
    m.spellings.annotationsIn m.file (expressionsOfBodies bs) =
      foundIn m (stepsOfBodies m b bs) +
        m.spellings.annotationsIn m.file (overlookedOfBodies m b bs)
  | b, [] => rfl
  | b, body :: rest => by
    rw [expressionsOfBodies, stepsOfBodies, overlookedOfBodies, Spellings.annotationsIn_append,
      Spellings.annotationsIn_append, foundIn_append, annotations_statements m b body,
      annotations_bodies m b rest]
    abel

end

end Elaboration

end Marginalia
