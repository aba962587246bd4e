/-
Operations on compilations, and sessions of several compilations.

An `Operation` is one call of a compilation with its arguments; `Compilation.perform`
carries it out and answers the state after it, which is the state before it when the call
is refused.  A `Session` keeps any number of compilations, each with a token of its own,
and `Session.run` carries out actions on them one after the other.

* `Compilation.perform_table` — an operation declares, makes an alias or leaves the table;
* `Compilation.perform_log` — it adds to the log at most one record, whose owner is live,
  whose value has the class that its type names, and whose ordinal is the next one of its
  owner (`Compilation.Admits`);
* `Compilation.perform_marks` — it marks at most one site, of a live identity;
* `Session.act_cases` — what an action makes of the compilations of a session.
-/
import Marginalia.Proofs.Recording
import Marginalia.Source.Expr

namespace Marginalia

/-- A call of a compilation. -/
inductive Operation where
  | declare (kind : Kind) (module qualname : String) (site : Location)
  | addAlias (module name targetModule targetName : String)
  | record (i : Identity) (type : TypeTerm) (value : Value) (location : Location)
  | annotate (i : Identity) (value : Value) (location : Location) (type : Option TypeTerm)
  | elaborate (i : Identity) (site : Location)
  /-- An evaluation begins. -/
  | enter
  /-- An evaluation ends. -/
  | leave
  | resolve (module name : String)
  | declaration (i : Identity)
  | annotations (i : Identity)
  | annotationsOfType (i : Identity) (type : TypeTerm)
  | singleOfType (i : Identity) (type : TypeTerm)
  | hasOfType (i : Identity) (type : TypeTerm)
  | validate (p : Placement Expr)

/-- What an operation answers when it is not refused. -/
inductive Answer where
  | done
  | flag (b : Bool)
  | identity (i : Identity)
  | declaration (d : Declaration)
  | record (r : Record)
  | records (rs : List Record)
  | value (v : Option Value)
  | items (items : List (AnnotationItem Expr))

namespace Compilation

/-- The outcome of an operation that changes the compilation unless it is refused. -/
def advance {α : Type} (c : Compilation) (answer : α → Answer) :
    Except AnnotationError (Compilation × α) → Compilation × Except AnnotationError Answer
  | .ok (c', a) => (c', .ok (answer a))
  | .error e => (c, .error e)

/-- Carries out an operation. -/
def perform (c : Compilation) : Operation → Compilation × Except AnnotationError Answer
  | .declare kind module qualname site =>
    let (c', i) := c.declare kind module qualname site
    (c', .ok (.identity i))
  | .addAlias module name targetModule targetName =>
    (c.addAlias module name targetModule targetName, .ok .done)
  | .record i type value location => c.advance .record (c.record i type value location)
  | .annotate i value location type => c.advance .record (c.annotate i value location type)
  | .elaborate i site => c.advance .flag (c.elaborate i site)
  | .enter => ({ c with store := c.store.enter }, .ok .done)
  | .leave => ({ c with store := c.store.leave }, .ok .done)
  | .resolve module name => (c, (c.table.resolve module name).map .identity)
  | .declaration i => (c, (c.table.get i).map .declaration)
  | .annotations i => (c, (c.annotations i).map .records)
  | .annotationsOfType i type => (c, (c.annotationsOfType i type).map .records)
  | .singleOfType i type => (c, (c.singleOfType i type).map .value)
  | .hasOfType i type => (c, (c.hasOfType i type).map .flag)
  | .validate p => (c, (c.validate p).map .items)

/-- Carries out operations one after the other. -/
def performAll (c : Compilation) (ops : List Operation) : Compilation :=
  ops.foldl (fun c op => (c.perform op).1) c

@[simp] theorem performAll_cons (c : Compilation) (op : Operation) (ops : List Operation) :
    c.performAll (op :: ops) = (c.perform op).1.performAll ops := rfl

/-! ### What one operation can do -/

/-- A record that may be appended to the log of a compilation next. -/
structure Admits (c : Compilation) (r : Record) : Prop where
  isLive : c.table.isLive r.owner = true
  ofClass : r.value.typeOf.equals r.type.runtimeClass = true
  ordinal : r.ordinal = (c.store.recordsOf r.owner).length

variable {c : Compilation}

theorem advance_record (i : Identity) (type : TypeTerm) (value : Value) (location : Location) :
    (c.advance .record (c.record i type value location)).1 = c ∨
      (c.advance .record (c.record i type value location)).1 =
          c.recorded i type value location ∧
        c.Admits (c.store.next i type value location) := by
  cases h : c.record i type value location with
  | error e => exact .inl rfl
  | ok result =>
    obtain ⟨c', r⟩ := result
    obtain ⟨hlive, hclass, rfl, rfl⟩ := (c.record_eq_ok_iff i type value location).mp h
    exact .inr ⟨rfl, hlive, hclass, rfl⟩

theorem advance_annotate (i : Identity) (value : Value) (location : Location)
    (given : Option TypeTerm) :
    (c.advance .record (c.annotate i value location given)).1 = c ∨
      (c.advance .record (c.annotate i value location given)).1 =
          c.recorded i (given.getD value.typeOf) value location ∧
        c.Admits (c.store.next i (given.getD value.typeOf) value location) := by
  rw [annotate_eq]
  split
  · exact .inl rfl
  · cases value.obstacle? with
    | some o => exact .inl rfl
    | none => exact advance_record i (given.getD value.typeOf) value location

theorem advance_elaborate (i : Identity) (site : Location) :
    (c.advance .flag (c.elaborate i site)).1 = c ∨
      (c.advance .flag (c.elaborate i site)).1 =
        { c with store := { c.store with elaborated := (i, site) :: c.store.elaborated } } := by
  rw [elaborate_eq]
  split
  · split
    · exact .inl rfl
    · exact .inr rfl
  · exact .inl rfl

theorem perform_table (op : Operation) :
    (c.perform op).1.table = c.table ∨
    (∃ kind module qualname site, op = .declare kind module qualname site ∧
      (c.perform op).1.table = (c.table.declare kind module qualname site).1) ∨
    (∃ module name targetModule targetName,
      (c.perform op).1.table = c.table.addAlias module name targetModule targetName) := by
  cases op with
  | declare kind module qualname site => exact .inr (.inl ⟨kind, module, qualname, site, rfl, rfl⟩)
  | addAlias module name tm tn => exact .inr (.inr ⟨module, name, tm, tn, rfl⟩)
  | record i type value location =>
    left
    obtain h | ⟨h, -⟩ := advance_record (c := c) i type value location <;>
      simp only [perform, h, recorded]
  | annotate i value location given =>
    left
    obtain h | ⟨h, -⟩ := advance_annotate (c := c) i value location given <;>
      simp only [perform, h, recorded]
  | elaborate i site =>
    left
    obtain h | h := advance_elaborate (c := c) i site <;> simp only [perform, h]
  -- questions and the guard of evaluations have no business with the table
  | _ => exact .inl rfl

theorem perform_log (op : Operation) :
    (c.perform op).1.store.log = c.store.log ∨
    ∃ r, c.Admits r ∧ (c.perform op).1.store.log = c.store.log ++ [r] := by
  cases op with
  | record i type value location =>
    obtain h | ⟨h, hadmits⟩ := advance_record (c := c) i type value location
    · exact .inl (by simp only [perform, h])
    · exact .inr ⟨_, hadmits, by simp only [perform, h, recorded, Store.append_log]⟩
  | annotate i value location given =>
    obtain h | ⟨h, hadmits⟩ := advance_annotate (c := c) i value location given
    · exact .inl (by simp only [perform, h])
    · exact .inr ⟨_, hadmits, by simp only [perform, h, recorded, Store.append_log]⟩
  | elaborate i site =>
    left
    obtain h | h := advance_elaborate (c := c) i site <;> simp only [perform, h]
  | _ => exact .inl rfl

/-- Only going through a site marks it, under an identity that is live. -/
theorem perform_marks (op : Operation) :
    (c.perform op).1.store.elaborated = c.store.elaborated ∨
    ∃ i site, c.table.isLive i = true ∧
      (c.perform op).1.store.elaborated = (i, site) :: c.store.elaborated := by
  cases op with
  | elaborate i site =>
    simp only [perform, elaborate_eq]
    split_ifs with hlive hmarked
    · exact .inl rfl
    · exact .inr ⟨i, site, hlive, rfl⟩
    · exact .inl rfl
  | record i type value location =>
    left
    obtain h | ⟨h, -⟩ := advance_record (c := c) i type value location <;>
      simp [perform, h, recorded, Store.append]
  | annotate i value location given =>
    left
    obtain h | ⟨h, -⟩ := advance_annotate (c := c) i value location given <;>
      simp [perform, h, recorded, Store.append]
  | _ => exact .inl rfl

theorem perform_numbered (h : c.table.Numbered) (op : Operation) :
    (c.perform op).1.table.Numbered := by
  obtain hop | ⟨kind, module, qualname, site, -, hop⟩ | ⟨module, name, tm, tn, hop⟩ :=
    perform_table (c := c) op
  · rwa [hop]
  · rw [hop]
    exact Table.declare_numbered h kind module qualname site
  · rw [hop]
    exact Table.addAlias_numbered h module name tm tn

theorem perform_grows (op : Operation) : c.table.Grows (c.perform op).1.table := by
  obtain hop | ⟨kind, module, qualname, site, -, hop⟩ | ⟨module, name, tm, tn, hop⟩ :=
    perform_table (c := c) op
  · rw [hop]
    exact Table.Grows.refl _
  · rw [hop]
    exact Table.grows_declare ..
  · rw [hop]
    exact Table.grows_addAlias ..

end Compilation

/-! ### Several compilations -/

/-- Any number of compilations, in the order they were started. -/
structure Session where
  compilations : List Compilation := []

/-- A step of a session. -/
inductive Action where
  /-- Starts a compilation in which declarations of some kinds can be annotated. -/
  | start (annotatable : List Kind)
  /-- Carries out an operation on the compilation at a place. -/
  | on (place : Nat) (op : Operation)

namespace Session

/-- The session after an action; compilations are numbered from one. -/
def act (s : Session) : Action → Session
  | .start annotatable =>
    ⟨s.compilations ++ [Compilation.empty (s.compilations.length + 1) annotatable]⟩
  | .on place op => ⟨s.compilations.modify place fun c => (c.perform op).1⟩

/-- The session after some actions. -/
def after (s : Session) (actions : List Action) : Session := actions.foldl act s

/-- The session that some actions lead to from nothing. -/
def run (actions : List Action) : Session := after {} actions

/-- A compilation of a session after an action was there before, or was started by it, or is what
an operation has made of one. -/
theorem act_cases {s : Session} {a : Action} {k : Nat} {c : Compilation}
    (h : (s.act a).compilations[k]? = some c) :
    s.compilations[k]? = some c ∨
    (∃ annotatable, k = s.compilations.length ∧ c = .empty (k + 1) annotatable) ∨
    ∃ op c₀, s.compilations[k]? = some c₀ ∧ c = (c₀.perform op).1 := by
  cases a with
  | start annotatable =>
    rw [act, List.getElem?_append] at h
    split at h
    · exact .inl h
    · obtain ⟨hk, rfl⟩ := List.getElem?_eq_some_iff.mp h
      rw [List.length_singleton] at hk
      -- the place of the compilation that is started is the one behind the others
      obtain rfl : k = s.compilations.length := by omega
      exact .inr (.inl ⟨annotatable, rfl, by simp⟩)
  | on place op =>
    rw [act, List.getElem?_modify] at h
    obtain ⟨c₀, hc₀, rfl⟩ := Option.map_eq_some_iff.mp h
    split
    · exact .inr (.inr ⟨op, c₀, hc₀, rfl⟩)
    · exact .inl hc₀

theorem run_append (before later : List Action) :
    run (before ++ later) = (run before).after later := by
  simp only [run, after, List.foldl_append]

end Session

end Marginalia
