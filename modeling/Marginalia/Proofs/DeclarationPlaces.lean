/-
Where the statements of a module declare something.

In a text no two statements start at one place.  So the declarations that the steps of an
elaboration make are told apart by where they are made, except the names of one assignment.

* `Statement.places` — the places at which a statement and those inside it declare something;
* `AllApart` — no step declares something where one before has;
* `Elaboration.standAt_statements` — the steps of statements at different places are apart.
-/
import Marginalia.Proofs.ElaborationSteps

namespace Marginalia

open Elaboration

/-! ### Places of declarations -/

mutual

/-- The places at which a statement, or one inside it, declares something. -/
def Statement.places : Statement → List Place
  | .classDef p _ _ _ _ _ body => p :: placesOfAll body
  | .function p _ _ _ _ _ _ | .typed p _ _ _ | .assign p _ _ | .typeAlias p _ _ _ => [p]
  | .branch _ body otherwise | .each _ _ body otherwise | .repeated _ body otherwise =>
    placesOfAll body ++ placesOfAll otherwise
  | .attempt body _ handlers otherwise final =>
    placesOfAll body ++ (placesOfBodies handlers ++ (placesOfAll otherwise ++ placesOfAll final))
  | .within _ _ body => placesOfAll body
  | .select _ _ cases => placesOfBodies cases
  | .augment .. | .importModules .. | .importNames .. | .delete .. | .expression _ | .plain .. => []

/-- The places at which some statements declare something. -/
def placesOfAll : List Statement → List Place
  | [] => []
  | st :: rest => st.places ++ placesOfAll rest

/-- The places at which several bodies declare something. -/
def placesOfBodies : List (List Statement) → List Place
  | [] => []
  | body :: rest => placesOfAll body ++ placesOfBodies rest

end

mutual

/-- The places at which a step declares something. -/
def ElaborationStep.places : ElaborationStep → List Place
  | .declare _ _ p _ | .assign _ p _ _ => [p]
  | .inside steps => placesOfSteps steps
  | .refuse _ | .bind _ _ | .imported .. => []

/-- The places at which steps declare something. -/
def placesOfSteps : List ElaborationStep → List Place
  | [] => []
  | step :: rest => step.places ++ placesOfSteps rest

end

mutual

/-- A step declares nothing, except names that are assigned, at any of some places. -/
def ElaborationStep.Apart (places : List Place) : ElaborationStep → Prop
  | .declare _ _ p _ => p ∉ places
  | .inside steps => AllApart places steps
  | .refuse _ | .bind _ _ | .assign .. | .imported .. => True

/-- Steps declare nothing, except names that are assigned, at any of some places or at one where
a step before has declared something. -/
def AllApart (places : List Place) : List ElaborationStep → Prop
  | [] => True
  | step :: rest => step.Apart places ∧ AllApart (step.places ++ places) rest

end

namespace Elaboration

variable {m : ModuleSetting}

mutual

theorem apart_of_subset {places places' : List Place} (h : places' ⊆ places) :
    ∀ step : ElaborationStep, step.Apart places → step.Apart places'
  | .declare .., hapart => fun hp => hapart (h hp)
  | .inside steps, hapart => by
    rw [ElaborationStep.Apart] at hapart ⊢
    exact allApart_of_subset h steps hapart
  | .refuse _, _ | .bind .., _ | .assign .., _ | .imported .., _ => trivial

theorem allApart_of_subset {places places' : List Place} (h : places' ⊆ places) :
    ∀ steps : List ElaborationStep, AllApart places steps → AllApart places' steps
  | [], _ => trivial
  | step :: rest, hapart => by
    rw [AllApart] at hapart ⊢
    have hnext : step.places ++ places' ⊆ step.places ++ places :=
      List.append_subset.mpr ⟨List.subset_append_left _ _, List.subset_append_of_subset_right _ h⟩
    exact ⟨apart_of_subset h step hapart.1, allApart_of_subset hnext rest hapart.2⟩

end

/-- Steps declare something at some places only, and each apart from what was declared before,
if none of these places has been gone through. -/
structure StandAt (places : List Place) (steps : List ElaborationStep) : Prop where
  subset : placesOfSteps steps ⊆ places
  apart {earlier : List Place} (h : places.Disjoint earlier) : AllApart earlier steps

theorem placesOfSteps_append (steps rest : List ElaborationStep) :
    placesOfSteps (steps ++ rest) = placesOfSteps steps ++ placesOfSteps rest := by
  induction steps with
  | nil => rfl
  | cons step steps ih => rw [List.cons_append, placesOfSteps, placesOfSteps, ih, List.append_assoc]

theorem allApart_append {earlier : List Place} {steps rest : List ElaborationStep}
    (h : AllApart earlier steps) (hrest : AllApart (placesOfSteps steps ++ earlier) rest) :
    AllApart earlier (steps ++ rest) := by
  induction steps generalizing earlier with
  | nil => exact hrest
  | cons step steps ih =>
    rw [AllApart] at h
    -- the rest has to be apart from the same places, in another order
    refine ⟨h.1, ih h.2 (allApart_of_subset ?_ rest hrest)⟩
    rw [placesOfSteps]
    intro p hp
    simp only [List.mem_append] at hp ⊢
    tauto

theorem StandAt.append {places places' : List Place} {steps rest : List ElaborationStep}
    (h : StandAt places steps) (h' : StandAt places' rest) (hnodup : (places ++ places').Nodup) :
    StandAt (places ++ places') (steps ++ rest) where
  subset := by
    rw [placesOfSteps_append]
    exact List.append_subset.mpr ⟨List.subset_append_of_subset_left _ h.subset,
      List.subset_append_of_subset_right _ h'.subset⟩
  apart := by
    intro earlier hearlier
    rw [List.disjoint_append_left] at hearlier
    refine allApart_append (h.apart hearlier.1) (h'.apart ?_)
    rw [List.disjoint_append_right]
    have hdisjoint := (List.nodup_append'.mp hnodup).2.2
    exact ⟨(List.disjoint_of_subset_left h.subset hdisjoint).symm, hearlier.2⟩

theorem StandAt.declare (kind : Kind) (qualname : String) (p : Place)
    (written : Except Fault Written) : StandAt [p] [.declare kind qualname p written] where
  subset := List.Subset.refl _
  apart h := ⟨List.disjoint_singleton.mp h.symm, trivial⟩

/-- Steps that only look at expressions, bind or import names stand anywhere. -/
theorem StandAt.nowhere {places : List Place} {steps : List ElaborationStep}
    (h : ∀ step ∈ steps, step.places = [] ∧ ∀ earlier, step.Apart earlier) :
    StandAt places steps := by
  induction steps with
  | nil => exact ⟨List.nil_subset _, fun _ => trivial⟩
  | cons step steps ih =>
    obtain ⟨hplaces, hapart⟩ := h step List.mem_cons_self
    have hrest := ih fun step hs => h step (List.mem_cons_of_mem _ hs)
    refine ⟨?_, fun hearlier => ⟨hapart _, ?_⟩⟩
    · rw [placesOfSteps, hplaces]
      exact hrest.subset
    · rw [hplaces]
      exact hrest.apart hearlier

theorem StandAt.refuse (es : List Expr) : StandAt [] [.refuse es] :=
  .nowhere (by simp [ElaborationStep.places, ElaborationStep.Apart])

/-- Names that are assigned stand at their place, and need not be apart from anything. -/
theorem StandAt.assigned {b : Body} {p : Place} {value : Expr} (names : List String) :
    StandAt [p] (names.map fun n => .assign b p n value) where
  subset := by
    induction names with
    | nil => exact List.nil_subset _
    | cons name names ih => exact List.cons_subset.mpr ⟨List.mem_singleton_self p, ih⟩
  apart := by
    intro earlier hearlier
    -- nothing is asked of these names, so the places may be any in the induction
    clear hearlier
    induction names generalizing earlier with
    | nil => trivial
    | cons name names ih => exact ⟨trivial, ih⟩

/-- Looking at expressions and binding names behind a declaration changes nothing. -/
theorem StandAt.followed {p : Place} {kind : Kind} {qualname : String}
    {written : Except Fault Written} {steps : List ElaborationStep}
    (h : ∀ step ∈ steps, step.places = [] ∧ ∀ earlier, step.Apart earlier) :
    StandAt [p] (.declare kind qualname p written :: steps) := by
  have hrest : StandAt [] steps := .nowhere h
  exact (StandAt.declare kind qualname p written).append hrest (by simp)

/-- The body of a class stands behind the declaration of the class. -/
theorem StandAt.inside {places : List Place} {steps : List ElaborationStep}
    (h : StandAt places steps) : StandAt places [.inside steps] where
  subset := by simpa [placesOfSteps, ElaborationStep.places] using h.subset
  apart hearlier := by simpa [AllApart, ElaborationStep.Apart] using h.apart hearlier

theorem standAt_assignedSteps (b : Body) (p : Place) (targets : List Expr) (value : Expr) :
    StandAt [p] (assignedSteps m b p targets value) := by
  unfold assignedSteps
  dsimp only
  split
  · exact .followed (by simp [ElaborationStep.places, ElaborationStep.Apart])
  · split
    · exact .nowhere (by simp [ElaborationStep.places, ElaborationStep.Apart])
    · split
      · exact .assigned _
      · exact .nowhere nofun

theorem standAt_typed (b : Body) (p : Place) (target type : Expr) (value : Option Expr) :
    StandAt [p] ((Statement.typed p target type value).steps m b) := by
  cases target with
  | name q name =>
    rw [Statement.steps]
    exact .followed (by simp [ElaborationStep.places, ElaborationStep.Apart])
  | _ =>
    rw [steps_typed_of_no_name rfl]
    exact .nowhere (by simp [ElaborationStep.places, ElaborationStep.Apart])

mutual

/-- The declarations of a statement stand at its places. -/
theorem standAt_statement (m : ModuleSetting) : ∀ (b : Body) (st : Statement),
    st.places.Nodup → StandAt st.places (st.steps m b)
  | b, .classDef p name bounds bases keywords decorators body, hnodup => by
    rw [Statement.places] at hnodup ⊢
    have hbody := standAt_statements m (classBody m b name bases) body hnodup.of_cons
    rw [Statement.steps]
    have hhead : StandAt [p] [.declare .typeDef (Dotted.under b.qualifier name) p
        (.ok { own := decorators, types := bases ++ keywords }),
        .refuse (others m decorators), .bind name none] :=
      .followed (by simp [ElaborationStep.places, ElaborationStep.Apart])
    exact hhead.append hbody.inside hnodup
  | b, .function p name bounds parameters result decorators body, _ => by
    rw [Statement.places, Statement.steps]
    exact .followed (by simp [ElaborationStep.places, ElaborationStep.Apart])
  | b, .typed p target type value, _ => standAt_typed b p target type value
  | b, .assign p targets value, _ => standAt_assignedSteps b p targets value
  | b, .typeAlias p name bounds value, _ => by
    rw [Statement.places, Statement.steps]
    exact .followed (by simp [ElaborationStep.places, ElaborationStep.Apart])
  | b, .importModules p modules, _ => by
    rw [Statement.steps]
    refine .nowhere fun step hstep => ?_
    obtain ⟨i, -, rfl⟩ := List.mem_map.mp hstep
    unfold moduleStep
    split <;> simp [ElaborationStep.places, ElaborationStep.Apart]
  | b, .importNames p module names level, _ => by
    rw [Statement.steps]
    refine .nowhere fun step hstep => ?_
    obtain ⟨i, -, rfl⟩ := List.mem_map.mp hstep
    simp [nameStep, ElaborationStep.places, ElaborationStep.Apart]
  | b, .branch test body otherwise, hnodup | b, .repeated test body otherwise, hnodup
  | b, .each target source body otherwise, hnodup => by
    rw [Statement.places] at hnodup ⊢
    rw [Statement.steps]
    exact (standAt_statements m b body hnodup.of_append_left).append
      (standAt_statements m b otherwise hnodup.of_append_right) hnodup
  | b, .attempt body types handlers otherwise final, hnodup => by
    rw [Statement.places] at hnodup ⊢
    rw [Statement.steps]
    have hrest := hnodup.of_append_right
    have hend := hrest.of_append_right
    exact (standAt_statements m b body hnodup.of_append_left).append
      ((standAt_bodies m b handlers hrest.of_append_left).append
        ((standAt_statements m b otherwise hend.of_append_left).append
          (standAt_statements m b final hend.of_append_right) hend) hrest) hnodup
  | b, .within contexts targets body, hnodup => by
    rw [Statement.places] at hnodup ⊢
    rw [Statement.steps]
    exact (StandAt.refuse contexts).append (standAt_statements m b body hnodup) hnodup
  | b, .select subject guards cases, hnodup => by
    rw [Statement.places] at hnodup ⊢
    rw [Statement.steps]
    exact (StandAt.refuse [subject]).append (standAt_bodies m b cases hnodup) hnodup
  | b, .expression e, _ => by
    rw [Statement.steps]
    exact .nowhere (by split <;> simp [ElaborationStep.places, ElaborationStep.Apart])
  | b, .augment .., _ | b, .delete .., _ | b, .plain .., _ => .nowhere nofun

/-- The declarations of statements stand at their places. -/
theorem standAt_statements (m : ModuleSetting) : ∀ (b : Body) (body : List Statement),
    (placesOfAll body).Nodup → StandAt (placesOfAll body) (stepsOfAll m b body)
  | b, [], _ => .nowhere nofun
  | b, st :: rest, hnodup => by
    rw [placesOfAll] at hnodup ⊢
    exact (standAt_statement m b st hnodup.of_append_left).append
      (standAt_statements m b rest hnodup.of_append_right) hnodup

theorem standAt_bodies (m : ModuleSetting) : ∀ (b : Body) (bs : List (List Statement)),
    (placesOfBodies bs).Nodup → StandAt (placesOfBodies bs) (stepsOfBodies m b bs)
  | b, [], _ => .nowhere nofun
  | b, body :: rest, hnodup => by
    rw [placesOfBodies] at hnodup ⊢
    exact (standAt_statements m b body hnodup.of_append_left).append
      (standAt_bodies m b rest hnodup.of_append_right) hnodup

end

end Elaboration

end Marginalia
