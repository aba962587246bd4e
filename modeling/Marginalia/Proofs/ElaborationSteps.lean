/-
The steps of an elaboration.

Going through statements comes down to few things: an entity is declared, annotations are looked
for where none can stand, a name is bound to a value or hidden, a name is assigned, a name is
imported, and the body of a class is gone through with names of its own.  `Statement.steps` reads
off a statement which of these it is made of, in their order.

* `ElaborationStep.run` — what a step does;
* `Elaboration.annotateSite_eq` — a place is annotated with the values that were read there, or with
  a diagnostic;
* `Elaboration.statement_eq` — a statement is gone through step by step;
* `Elaboration.wholeModule_eq` — so is a module.
-/
import Marginalia.Elaborate
import Marginalia.Proofs.Outcome

namespace Marginalia

/-- What is written at a declaration, and can hold annotations. -/
structure Written where
  /-- What can annotate the declaration: decorators, or notes on its type. -/
  own : List Expr := []
  /-- The types in the declaration. -/
  types : List Expr := []
  /-- Its value. -/
  value : List Expr := []

/-- The groups in what is written at a declaration, unless one of them cannot be read. -/
def Written.groups (m : ModuleSetting) (w : Written) : Except Fault Elaboration.Groups := do
  let own ← m.spellings.groups m.file w.own
  let types ← m.spellings.groupsIn m.file w.types
  let value ← m.spellings.groupsIn m.file w.value
  return { types, value, own }

/-- A step of going through statements. -/
inductive ElaborationStep where
  /-- Declares an entity with what is written at it, unless that cannot be taken apart. -/
  | declare (kind : Kind) (qualname : String) (p : Place) (written : Except Fault Written)
  /-- Looks for annotations in expressions that annotate nothing. -/
  | refuse (es : List Expr)
  /-- Binds a name to the value of an expression, or hides it. -/
  | bind (name : String) (value : Option Expr)
  /-- Assigns a name in a body. -/
  | assign (b : Body) (p : Place) (name : String) (value : Expr)
  /-- Binds a name in a body to something in another module. -/
  | imported (b : Body) (name module target : String)
  /-- Goes on with names that are not visible outside. -/
  | inside (steps : List ElaborationStep)

open Elaboration

mutual

/-- Carries out a step. -/
def ElaborationStep.run (m : ModuleSetting) : ElaborationStep → Elaboration Unit
  | .declare kind qualname p written => do
    let w ← written
    let groups ← w.groups m
    Elaboration.declare m kind qualname (p.inFile m.file) groups
  | .refuse es => refuseIn m es
  | .bind name value => bindTo m name value
  | .assign b p name value => declareNames m b p value [name]
  | .imported b name module target => bindImported m b name module target
  | .inside steps => inChild (Elaboration.runAll m steps)

/-- Carries out steps one after the other. -/
def Elaboration.runAll (m : ModuleSetting) : List ElaborationStep → Elaboration Unit
  | [] => pure ()
  | step :: rest => do
    step.run m
    Elaboration.runAll m rest

end

namespace Elaboration

/-! ### Declaration sites -/

/-- What is done at a declaration site when it is gone through for the first time. -/
def annotateSite (m : ModuleSetting) (kind : Kind) (qualname : String) (site : Location)
    (groups : Groups) (i : Identity) (c : Compilation) : Elaboration Unit := do
  let values ← match groups.validate kind c with
    | .error e => pure (.error e)
    | .ok items => values m items
  let values ← match values with
    | .ok vs => pure vs
    | .error e => do
      report m e
      pure []
  onCompilation (recordAll i values)
  modify fun s => { s with
    sites := s.sites ++ [⟨i, kind, m.name.dotted, qualname, site, values.length⟩] }

/-- Values, or none if one was refused, which is reported. -/
def orReported (m : ModuleSetting) :
    Except AnnotationError (List (Location × Value)) → Elaboration (List (Location × Value))
  | .ok vs => pure vs
  | .error e => do
    report m e
    pure []

/-- The values of the annotations at a site, unless one is refused. -/
def itemValues (m : ModuleSetting) (kind : Kind) (groups : Groups) (c : Compilation) :
    Elaboration (Except AnnotationError (List (Location × Value))) :=
  match groups.validate kind c with
  | .error e => pure (.error e)
  | .ok items => values m items

/-- The values to record at a site. -/
def siteValues (m : ModuleSetting) (kind : Kind) (groups : Groups) (c : Compilation) :
    Elaboration (List (Location × Value)) := itemValues m kind groups c >>= orReported m

/-- Records values at a site, and lists it. -/
def recordSite (m : ModuleSetting) (kind : Kind) (qualname : String) (site : Location)
    (i : Identity) (vs : List (Location × Value)) : Elaboration Unit := do
  onCompilation (recordAll i vs)
  modify fun s => { s with
    sites := s.sites ++ [⟨i, kind, m.name.dotted, qualname, site, vs.length⟩] }

/-- At a site its values are worked out, and then recorded. -/
theorem annotateSite_eq (m : ModuleSetting) (kind : Kind) (qualname : String) (site : Location)
    (groups : Groups) (i : Identity) (c : Compilation) :
    annotateSite m kind qualname site groups i c =
      siteValues m kind groups c >>= recordSite m kind qualname site i := by
  unfold annotateSite siteValues itemValues
  rw [bind_assoc]
  cases groups.validate kind c with
  | error e => rfl
  | ok items =>
    dsimp only
    congr 1
    funext r
    cases r <;> rfl

theorem outcome_annotateSite (m : ModuleSetting) (kind : Kind) (qualname : String)
    (site : Location) (groups : Groups) (i : Identity) (c : Compilation) (s : Findings) :
    outcome (annotateSite m kind qualname site groups i c) s =
      match outcome (siteValues m kind groups c) s with
      | (.ok vs, s₁) => (.ok (), { s₁ with
          compilation := recordAll i vs s₁.compilation
          sites := s₁.sites ++ [⟨i, kind, m.name.dotted, qualname, site, vs.length⟩] })
      | (.error f, s₁) => (.error f, s₁) := by
  rw [annotateSite_eq, outcome_bind]
  generalize outcome (siteValues m kind groups c) s = run
  obtain ⟨_ | vs, s₁⟩ := run <;> rfl

/-- A site is declared and marked; if it was before, nothing more happens. -/
theorem outcome_declare (m : ModuleSetting) (kind : Kind) (qualname : String) (site : Location)
    (groups : Groups) (s : Findings) :
    outcome (declare m kind qualname site groups) s =
      let (c, i) := s.compilation.declare kind m.name.dotted qualname site
      match c.elaborate i site with
      | .ok (c', true) =>
        outcome (annotateSite m kind qualname site groups i c') { s with compilation := c' }
      | _ => (.ok (), { s with compilation := c }) := by
  unfold declare
  rw [outcome_bind_ok (outcome_get s)]
  obtain ⟨c, i⟩ := s.compilation.declare kind m.name.dotted qualname site
  dsimp only
  rw [outcome_bind_ok (outcome_set _ _)]
  obtain e | ⟨c', _ | _⟩ := c.elaborate i site <;> rfl

/-! ### The steps of statements -/

/-- The decorators, or parts of an assignment to the module, that are no groups. -/
def others (m : ModuleSetting) (es : List Expr) : List Expr :=
  es.filter fun e => !m.spellings.isGroup e

/-- Whether an expression is the head of a type with notes. -/
def isAnnotated (m : ModuleSetting) (e : Expr) : Bool :=
  (e.lastName?.map m.spellings.annotated.contains).getD false

/-- What is written at a name with a type: only notes right behind the outermost annotated type
can annotate the name. -/
def typedWritten (m : ModuleSetting) (type : Expr) (value : Option Expr) : Except Fault Written :=
  match type with
  | .subscript _ base (.tuple _ parts) =>
    if isAnnotated m base then
      match parts with
      | [] => .error (.valueError "not enough values to unpack (expected at least 1, got 0)")
      | declared :: notes =>
        .ok { own := notes, types := declared :: others m notes, value := value.toList }
    else .ok { types := [type], value := value.toList }
  | _ => .ok { types := [type], value := value.toList }

/-- Whether an assignment in a body is one to the marker of the module alone. -/
def annotatesModule (m : ModuleSetting) (b : Body) (targets : List Expr) : Bool :=
  b.container == .module && targets.filterMap targetName? == [m.spellings.moduleMarker] &&
    targets.length == 1

/-- The steps of an assignment. -/
def assignedSteps (m : ModuleSetting) (b : Body) (p : Place) (targets : List Expr) (value : Expr) :
    List ElaborationStep :=
  let names := targets.filterMap targetName?
  if annotatesModule m b targets then
    [.declare .nameSpace "" p (.ok { own := Spellings.moduleParts value }),
      .refuse (others m (Spellings.moduleParts value))]
  else if m.spellings.marks value then [.refuse [value]]
  else if names.length == targets.length then names.map fun n => .assign b p n value
  else []

/-- The step of a module that is imported. -/
def moduleStep (b : Body) (i : ImportedName) : ElaborationStep :=
  match i.boundAs with
  | some n => .imported b n i.name ""
  | none => .imported b (Dotted.first i.name) (Dotted.first i.name) ""

/-- The step of a name that is imported from a module. -/
def nameStep (b : Body) (base : String) (i : ImportedName) : ElaborationStep :=
  .imported b (i.boundAs.getD i.name) base i.name

end Elaboration

mutual

/-- What going through a statement is made of. -/
def Statement.steps (m : ModuleSetting) (b : Body) : Statement → List ElaborationStep
  | .classDef p name _ bases keywords decorators body =>
    [.declare .typeDef (Dotted.under b.qualifier name) p
        (.ok { own := decorators, types := bases ++ keywords }),
      .refuse (others m decorators), .bind name none,
      .inside (stepsOfAll m (classBody m b name bases) body)]
  | .function p name _ parameters result decorators _ =>
    [.declare .function (Dotted.under b.qualifier name) p
        (.ok { own := decorators, types := parameters.types ++ result.toList }),
      .refuse (others m decorators),
      .refuse (parameters.defaults ++ parameters.keywordDefaults.filterMap id), .bind name none]
  | .typed p (.name _ name) type value =>
    [.declare (variableKind b name) (Dotted.under b.qualifier name) p (typedWritten m type value),
      .bind name value]
  | .typed _ _ type value => [.refuse (type :: value.toList)]
  | .assign p targets value => assignedSteps m b p targets value
  | .typeAlias p name _ value =>
    [.declare .typeAlias (Dotted.under b.qualifier name) p (.ok { types := [value] }),
      .bind name none]
  | .importModules _ modules => modules.map (moduleStep b)
  | .importNames _ module names level =>
    (names.filter fun i => i.name != "*").map (nameStep b (m.name.importBase module level))
  | .branch _ body otherwise => stepsOfAll m b body ++ stepsOfAll m b otherwise
  | .attempt body _ handlers otherwise final =>
    stepsOfAll m b body ++ (stepsOfBodies m b handlers ++
      (stepsOfAll m b otherwise ++ stepsOfAll m b final))
  | .within contexts _ body => .refuse contexts :: stepsOfAll m b body
  | .each _ _ body otherwise => stepsOfAll m b body ++ stepsOfAll m b otherwise
  | .repeated _ body otherwise => stepsOfAll m b body ++ stepsOfAll m b otherwise
  | .select subject _ cases => .refuse [subject] :: stepsOfBodies m b cases
  | .expression e => if m.spellings.isGroup e then [.refuse [e]] else []
  | _ => []

/-- What going through statements is made of. -/
def stepsOfAll (m : ModuleSetting) (b : Body) : List Statement → List ElaborationStep
  | [] => []
  | st :: rest => st.steps m b ++ stepsOfAll m b rest

/-- What going through several bodies is made of. -/
def stepsOfBodies (m : ModuleSetting) (b : Body) : List (List Statement) → List ElaborationStep
  | [] => []
  | body :: rest => stepsOfAll m b body ++ stepsOfBodies m b rest

end

namespace Elaboration

variable {m : ModuleSetting} {b : Body}

/-- What a module is made of: it is declared itself, and then gone through. -/
def moduleSteps (m : ModuleSetting) (body : List Statement) : List ElaborationStep :=
  .declare .nameSpace "" ⟨0, 0⟩ (.ok {}) :: stepsOfAll m {} body

/-- A target that is no name declares nothing. -/
theorem steps_typed_of_no_name {target : Expr} (htarget : targetName? target = none) (p : Place)
    (type : Expr) (value : Option Expr) :
    (Statement.typed p target type value).steps m b = [.refuse (type :: value.toList)] := by
  cases target with
  | name => cases htarget
  | _ => simp only [Statement.steps]

/-! ### Single steps -/

/-- Reading something off the source in parts is no step of its own. -/
theorem liftM_bind {α β : Type} (x : Except Fault α) (f : α → Except Fault β) :
    (liftM (x >>= f) : Elaboration β) = (do liftM (f (← liftM x))) := by
  cases x <;> rfl

theorem liftM_pure {α : Type} (a : α) :
    (liftM (pure a : Except Fault α) : Elaboration α) = pure a :=
  rfl

theorem liftM_ok {α : Type} (a : α) :
    (liftM (Except.ok a : Except Fault α) : Elaboration α) = pure a :=
  rfl

/-- What is written at a declaration is read from what annotates it to its value. -/
theorem liftM_groups (w : Written) :
    (liftM (w.groups m) : Elaboration Groups) = (do
      let own ← m.spellings.groups m.file w.own
      let types ← m.spellings.groupsIn m.file w.types
      let value ← m.spellings.groupsIn m.file w.value
      pure { types, value, own }) := by
  rw [Written.groups]
  simp only [liftM_bind, liftM_pure]

/-- What cannot be read ends the run. -/
theorem outcome_liftM_error {α β : Type} (f : Fault) (g : α → Elaboration β) (s : Findings) :
    outcome ((liftM (Except.error f : Except Fault α) : Elaboration α) >>= g) s = (.error f, s) :=
  rfl

/-- A declaration that comes to its end could be read. -/
theorem exists_groups {kind : Kind} {qualname : String} {p : Place}
    {written : Except Fault Written} {s s' : Findings}
    (h : outcome ((ElaborationStep.declare kind qualname p written).run m) s = (.ok (), s')) :
    ∃ w groups, written = .ok w ∧ w.groups m = .ok groups ∧
      outcome (declare m kind qualname (p.inFile m.file) groups) s = (.ok (), s') := by
  rw [ElaborationStep.run] at h
  cases written with
  | error f =>
    rw [outcome_liftM_error] at h
    cases h
  | ok w =>
    rw [liftM_ok, pure_bind] at h
    cases hgroups : w.groups m with
    | error f =>
      rw [hgroups, outcome_liftM_error] at h
      cases h
    | ok groups =>
      rw [hgroups, liftM_ok, pure_bind] at h
      exact ⟨w, groups, rfl, hgroups, h⟩

/-- A name that is assigned becomes another name, or it is declared and bound. -/
theorem run_assign (p : Place) (name : String) (value : Expr) :
    (ElaborationStep.assign b p name value).run m = (do
      if !(← tryAlias m b name value) then
        declare m (variableKind b name) (Dotted.under b.qualifier name) (p.inFile m.file) {}
        bindTo m name (some value)) := by
  rw [ElaborationStep.run, declareNames]
  congr 1
  funext made
  cases made <;> simp [declareNames]

/-- Making a name another name hides it; else nothing has changed. -/
theorem outcome_tryAlias_eq (m : ModuleSetting) (b : Body) (name : String) (e : Expr)
    (s : Findings) :
    outcome (tryAlias m b name e) s = (.ok false, s) ∨
      ∃ c, outcome (tryAlias m b name e) s =
        (.ok true, { s with compilation := c, scope := s.scope.hide name }) := by
  unfold tryAlias
  cases e.dottedName? with
  | none => exact .inl rfl
  | some dotted =>
    dsimp only
    rw [outcome_bind_ok (outcome_get s)]
    split
    · exact .inl rfl
    · split
      · exact .inl rfl
      · exact .inr ⟨_, rfl⟩

/-- An assignment that comes to its end has made the name another name, or declared and bound
it. -/
theorem exists_assign {p : Place} {name : String} {e : Expr} {s s' : Findings}
    (h : outcome ((ElaborationStep.assign b p name e).run m) s = (.ok (), s')) :
    (outcome (tryAlias m b name e) s = (.ok true, s') ∧
        ∃ c, s' = { s with compilation := c, scope := s.scope.hide name }) ∨
      ∃ t, outcome (tryAlias m b name e) s = (.ok false, s) ∧
        outcome (declare m (variableKind b name) (Dotted.under b.qualifier name)
          (p.inFile m.file) {}) s = (.ok (), t) ∧
        outcome (bindTo m name (some e)) t = (.ok (), s') := by
  rw [run_assign] at h
  obtain halias | ⟨c, halias⟩ := outcome_tryAlias_eq m b name e s
  · rw [outcome_bind_ok halias] at h
    simp only [Bool.not_false, if_true] at h
    obtain ⟨⟨⟩, t, hdeclared, h⟩ := exists_of_outcome_bind_ok h
    exact .inr ⟨t, halias, hdeclared, h⟩
  · rw [outcome_bind_ok halias] at h
    cases h
    exact .inl ⟨halias, c, rfl⟩

/-- Names that are bound inside are forgotten behind it. -/
theorem outcome_inside (steps : List ElaborationStep) (s : Findings) :
    outcome ((ElaborationStep.inside steps).run m) s =
      match outcome (runAll m steps) { s with scope := s.scope.child } with
      | (.ok (), s') => (.ok (), { s' with scope := s.scope })
      | (.error f, s') => (.error f, s') := by
  rw [ElaborationStep.run, inChild, outcome_bind_ok (outcome_get s), onScope,
    outcome_bind_ok (outcome_modify _ s), outcome_bind]
  generalize outcome (runAll m steps) { s with scope := s.scope.child } = run
  obtain ⟨_ | _, s'⟩ := run <;> rfl

/-- Steps that come to their end do so one after the other. -/
theorem outcome_runAll_cons (step : ElaborationStep) (rest : List ElaborationStep)
    (s s' : Findings) :
    outcome (runAll m (step :: rest)) s = (.ok (), s') ↔
      ∃ s₁, outcome (step.run m) s = (.ok (), s₁) ∧ outcome (runAll m rest) s₁ = (.ok (), s') := by
  rw [runAll, outcome_bind]
  generalize outcome (step.run m) s = run
  obtain ⟨_ | _, s₁⟩ := run <;> simp

theorem runAll_append (m : ModuleSetting) (steps rest : List ElaborationStep) :
    runAll m (steps ++ rest) = (do runAll m steps; runAll m rest) := by
  induction steps with
  | nil => simp [runAll]
  | cons step steps ih => simp [runAll, ih]

theorem outcome_runAll_append (steps rest : List ElaborationStep) (s s' : Findings) :
    outcome (runAll m (steps ++ rest)) s = (.ok (), s') ↔
      ∃ s₁, outcome (runAll m steps) s = (.ok (), s₁) ∧
        outcome (runAll m rest) s₁ = (.ok (), s') := by
  rw [runAll_append, outcome_bind]
  generalize outcome (runAll m steps) s = run
  obtain ⟨_ | _, s₁⟩ := run <;> simp

theorem stepsOfAll_append (m : ModuleSetting) (b : Body) (body rest : List Statement) :
    stepsOfAll m b (body ++ rest) = stepsOfAll m b body ++ stepsOfAll m b rest := by
  induction body with
  | nil => rfl
  | cons st body ih => rw [List.cons_append, stepsOfAll, stepsOfAll, ih, List.append_assoc]

/-! ### Going through a statement is carrying out its steps -/

theorem runAll_singleton (m : ModuleSetting) (step : ElaborationStep) :
    runAll m [step] = step.run m := by
  simp [runAll]

theorem groups_nil (s : Spellings) (file : String) : s.groups file [] = .ok [] := rfl

theorem groupsIn_nil (s : Spellings) (file : String) : s.groupsIn file [] = .ok [] := rfl

theorem declareClass_eq (p : Place) (name : String) (bases keywords decorators : List Expr) :
    declareClass m b p name bases keywords decorators = runAll m
      [.declare .typeDef (Dotted.under b.qualifier name) p
          (.ok { own := decorators, types := bases ++ keywords }),
        .refuse (others m decorators), .bind name none] := by
  simp only [declareClass, runAll, ElaborationStep.run, liftM_groups, groupsIn_nil, liftM_ok,
    bind_assoc, pure_bind, others, bindTo, bind_pure_unit]

theorem declareFunction_eq (p : Place) (name : String) (parameters : Parameters)
    (result : Option Expr) (decorators : List Expr) :
    declareFunction m b p name parameters result decorators = runAll m
      [.declare .function (Dotted.under b.qualifier name) p
          (.ok { own := decorators, types := parameters.types ++ result.toList }),
        .refuse (others m decorators),
        .refuse (parameters.defaults ++ parameters.keywordDefaults.filterMap id),
        .bind name none] := by
  simp only [declareFunction, runAll, ElaborationStep.run, liftM_groups, groupsIn_nil, liftM_ok,
    bind_assoc, pure_bind, others, bindTo, bind_pure_unit]

theorem declareNames_eq (p : Place) (value : Expr) (names : List String) :
    declareNames m b p value names = runAll m (names.map fun n => .assign b p n value) := by
  induction names with
  | nil => rfl
  | cons name rest ih =>
    rw [List.map_cons, runAll, ElaborationStep.run, ← ih]
    simp only [declareNames, bind_assoc]
    congr 1
    funext made
    -- a name that was made another name is not declared
    cases made <;> simp

theorem declareAssigned_eq (p : Place) (targets : List Expr) (value : Expr) :
    declareAssigned m b p targets value = runAll m (assignedSteps m b p targets value) := by
  unfold declareAssigned assignedSteps
  dsimp only
  split
  · rename_i hmodule
    rw [annotatesModule, if_pos hmodule]
    simp only [runAll, ElaborationStep.run, liftM_groups, groupsIn_nil, liftM_ok, bind_assoc,
      pure_bind, others, bind_pure_unit]
  · rename_i hmodule
    rw [annotatesModule, if_neg hmodule]
    split
    · rw [runAll_singleton, ElaborationStep.run]
    · split
      · exact declareNames_eq p value _
      · rfl

theorem importModules_eq (modules : List ImportedName) :
    importModules m b modules = runAll m (modules.map (moduleStep b)) := by
  induction modules with
  | nil => rfl
  | cons i rest ih =>
    rw [importModules, List.map_cons, runAll, ih, moduleStep]
    cases i.boundAs <;> rfl

theorem importNames_eq (base : String) (names : List ImportedName) :
    importNames m b base names =
      runAll m ((names.filter fun i => i.name != "*").map (nameStep b base)) := by
  induction names with
  | nil => rfl
  | cons i rest ih =>
    rw [importNames, List.filter_cons, ih]
    cases i.name != "*" with
    | false => simp
    | true => rfl

theorem typedWritten_groups (type : Expr) (value : Option Expr) :
    typedWritten m type value >>= Written.groups m = (do
      let (own, types) ← m.spellings.splitType m.file type
      let groups ← m.spellings.groupsIn m.file value.toList
      return { types, value := groups, own }) := by
  have hread : ∀ w : Written, (Except.ok w >>= Written.groups m) = w.groups m := fun _ => rfl
  have hplain : ∀ type, (Except.ok { types := [type], value := value.toList } >>=
      Written.groups m) = (do
        let types ← m.spellings.groupsIn m.file [type]
        let groups ← m.spellings.groupsIn m.file value.toList
        return { types, value := groups }) := by
    have hnone : m.spellings.groups m.file [] = pure [] := groups_nil _ _
    intro type
    simp [hread, hnone, Written.groups]
  unfold typedWritten Spellings.splitType
  cases type with
  | subscript p base index =>
    cases index with
    | tuple q parts =>
      -- `hsame` is the question about the head as it is asked where types are taken apart
      by_cases hhead : isAnnotated m base = true
      · have hsame := hhead
        unfold isAnnotated at hsame
        cases parts with
        | nil =>
          simp only [hhead, hsame, if_true]
          rfl
        | cons declared notes =>
          simp only [hhead, hsame, if_true, hread]
          simp [Written.groups, others]
      · have hsame := hhead
        unfold isAnnotated at hsame
        simp only [hhead, hsame, if_false, Bool.false_eq_true]
        simpa using hplain _
    | _ => simpa using hplain _
  | _ => simpa using hplain _

theorem declareTyped_eq (p : Place) (target type : Expr) (value : Option Expr) :
    declareTyped m b p target type value =
      runAll m ((Statement.typed p target type value).steps m b) := by
  unfold declareTyped
  split
  · rw [Statement.steps]
    -- the steps read what is written in one go, the source part by part
    have hread := congrArg (liftM : Except Fault Groups → Elaboration Groups)
      (typedWritten_groups (m := m) type value)
    simp only [liftM_bind] at hread
    simp only [runAll, ElaborationStep.run, bind_pure_unit]
    rw [← bind_assoc, hread]
    simp only [bind_assoc]
    rfl
  · rename_i hname
    rw [Statement.steps]
    · rw [runAll_singleton, ElaborationStep.run]
    · exact hname

theorem declareTypeAlias_eq (p : Place) (name : String) (value : Expr) :
    declareTypeAlias m b p name value = runAll m
      [.declare .typeAlias (Dotted.under b.qualifier name) p (.ok { types := [value] }),
        .bind name none] := by
  simp only [declareTypeAlias, runAll, ElaborationStep.run, liftM_groups, groups_nil,
    groupsIn_nil, liftM_ok, bind_assoc, pure_bind, bindTo, bind_pure_unit]

mutual

theorem statement_eq (m : ModuleSetting) (b : Body) :
    ∀ st : Statement, statement m b st = runAll m (st.steps m b)
  | .classDef p name bounds bases keywords decorators body => by
    rw [statement, declareClass_eq, statements_eq m (classBody m b name bases) body,
      Statement.steps]
    simp only [runAll, ElaborationStep.run, bind_assoc, bind_pure_unit]
  | .function p name bounds parameters result decorators body => declareFunction_eq ..
  | .typed p target type value => declareTyped_eq ..
  | .assign p targets value => declareAssigned_eq ..
  | .typeAlias p name bounds value => declareTypeAlias_eq ..
  | .importModules p modules => importModules_eq modules
  | .importNames p module names level => importNames_eq _ names
  | .branch test body otherwise => by
    rw [statement, statements_eq m b body, statements_eq m b otherwise, Statement.steps,
      runAll_append]
  | .attempt body types handlers otherwise final => by
    rw [statement, statements_eq m b body, bodies_eq m b handlers, statements_eq m b otherwise,
      statements_eq m b final, Statement.steps, runAll_append, runAll_append, runAll_append]
  | .within contexts targets body => by
    rw [statement, statements_eq m b body]
    rfl
  | .each target source body otherwise => by
    rw [statement, statements_eq m b body, statements_eq m b otherwise, Statement.steps,
      runAll_append]
  | .repeated test body otherwise => by
    rw [statement, statements_eq m b body, statements_eq m b otherwise, Statement.steps,
      runAll_append]
  | .select subject guards cases => by
    rw [statement, bodies_eq m b cases]
    rfl
  | .expression e => by
    rw [statement, Statement.steps]
    split
    · rw [runAll_singleton, ElaborationStep.run]
    · rfl
  | .augment .. => rfl
  | .delete .. => rfl
  | .plain .. => rfl

theorem statements_eq (m : ModuleSetting) (b : Body) :
    ∀ body : List Statement, statements m b body = runAll m (stepsOfAll m b body)
  | [] => rfl
  | st :: rest => by
    rw [statements, statement_eq m b st, statements_eq m b rest, stepsOfAll, runAll_append]

theorem bodies_eq (m : ModuleSetting) (b : Body) :
    ∀ bs : List (List Statement), bodies m b bs = runAll m (stepsOfBodies m b bs)
  | [] => rfl
  | body :: rest => by
    rw [bodies, statements_eq m b body, bodies_eq m b rest, stepsOfBodies, runAll_append]

end

/-- A module is gone through step by step. -/
theorem wholeModule_eq (m : ModuleSetting) (body : List Statement) :
    wholeModule m body = runAll m (moduleSteps m body) := by
  simp only [wholeModule, statements_eq, moduleSteps, runAll, ElaborationStep.run, liftM_groups,
    groups_nil, groupsIn_nil, liftM_ok, pure_bind]
  rfl

/-- A module whose last statement is gone through was gone through up to there. -/
theorem outcome_wholeModule_concat (body : List Statement) (st : Statement) (s s' : Findings) :
    outcome (wholeModule m (body ++ [st])) s = (.ok (), s') ↔
      ∃ s₁, outcome (wholeModule m body) s = (.ok (), s₁) ∧
        outcome (statement m {} st) s₁ = (.ok (), s') := by
  have hsteps : moduleSteps m (body ++ [st]) = moduleSteps m body ++ st.steps m {} := by
    simp [moduleSteps, stepsOfAll_append, stepsOfAll]
  rw [wholeModule_eq, wholeModule_eq, statement_eq, hsteps, outcome_runAll_append]

end Elaboration

end Marginalia
