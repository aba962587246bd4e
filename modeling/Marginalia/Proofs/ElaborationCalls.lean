/-
The calls that the elaboration of a module makes.

Everything that goes through the statements of a module changes the table of declarations by
declaring names and by making them other names.  `Statement.namings` reads off the source
which names these are, each with what it is imported from; beside them, only the functions of
the host can bind names.

* `Host.Makes` — the functions of a host make no calls but those that are allowed;
* `Elaboration.Makes` — a run makes no calls but those that are allowed, and unless a fault ends
  it, every call that is due; sequences of runs make the calls of their parts
  (`Elaboration.Makes.bind`);
* `Elaboration.statements_make` — when the names in the source may be bound, going through the
  statements makes allowed calls only, among them one for every import;
* `Elaboration.wholeModule_makes` — the same of a whole module.
-/
import Marginalia.Proofs.ElaborationEffect

namespace Marginalia

/-! ### The names that the source binds -/

/-- A name that is bound in a module, and what it is imported from, if it is. -/
structure Naming where
  name : String
  source : Option NameKey := none
deriving DecidableEq, Repr

namespace Naming

/-- A call that binds a name in a module as the source says. -/
def Allows (module : String) (n : Naming) (c : Table.Call) : Prop :=
  c.name = (module, n.name) ∧
    ∀ target, n.source = some target → c = .addAlias module n.name target.1 target.2

/-- The call that an import makes. -/
def due? (module : String) (n : Naming) : Option Table.Call :=
  n.source.map fun target => .addAlias module n.name target.1 target.2

end Naming

/-- The calls that the imports among some names make. -/
def dueFor (module : String) (ns : List Naming) : List Table.Call :=
  ns.filterMap (Naming.due? module)

theorem dueFor_cons (module : String) (n : Naming) (ns : List Naming) :
    dueFor module (n :: ns) = (n.due? module).toList ++ dueFor module ns := by
  rw [dueFor, List.filterMap_cons]
  cases n.due? module <;> rfl

theorem dueFor_append (module : String) (ns ns' : List Naming) :
    dueFor module (ns ++ ns') = dueFor module ns ++ dueFor module ns' :=
  List.filterMap_append

/-- Names that are not imported make no call due. -/
theorem dueFor_declared (module qualifier : String) (names : List String) :
    dueFor module (names.map fun n => ⟨Dotted.under qualifier n, none⟩) = [] := by
  rw [dueFor, List.filterMap_eq_nil_iff]
  intro n hn
  obtain ⟨name, -, rfl⟩ := List.mem_map.mp hn
  rfl

/-- The naming of a module that is imported. -/
def ImportedName.asModule (qualifier : String) (i : ImportedName) : Naming :=
  match i.boundAs with
  | some n => ⟨Dotted.under qualifier n, some (i.name, "")⟩
  | none => ⟨Dotted.under qualifier (Dotted.first i.name), some (Dotted.first i.name, "")⟩

/-- The naming of something that is imported from a module. -/
def ImportedName.outOf (base qualifier : String) (i : ImportedName) : Naming :=
  ⟨Dotted.under qualifier (i.boundAs.getD i.name), some (base, i.name)⟩

mutual

/-- The names that a statement can bind below a qualifier, those in it from left to right.  An
assignment can annotate the module, whose own name is empty. -/
def Statement.namings (m : ModuleName) (qualifier : String) : Statement → List Naming
  | .classDef _ name _ _ _ _ body =>
    ⟨Dotted.under qualifier name, none⟩ :: namingsOfAll m (Dotted.under qualifier name) body
  | .function _ name .. => [⟨Dotted.under qualifier name, none⟩]
  | .typed _ target _ _ =>
    (Elaboration.targetName? target).toList.map fun n => ⟨Dotted.under qualifier n, none⟩
  | .assign _ targets _ =>
    ⟨"", none⟩ :: (targets.filterMap Elaboration.targetName?).map fun n =>
      ⟨Dotted.under qualifier n, none⟩
  | .typeAlias _ name _ _ => [⟨Dotted.under qualifier name, none⟩]
  | .importModules _ modules => modules.map (ImportedName.asModule qualifier)
  | .importNames _ module names level =>
    (names.filter fun i => i.name != "*").map
      (ImportedName.outOf (m.importBase module level) qualifier)
  | .branch _ body otherwise => namingsOfAll m qualifier body ++ namingsOfAll m qualifier otherwise
  | .attempt body _ handlers otherwise final =>
    namingsOfAll m qualifier body ++ (namingsOfBodies m qualifier handlers ++
      (namingsOfAll m qualifier otherwise ++ namingsOfAll m qualifier final))
  | .within _ _ body => namingsOfAll m qualifier body
  | .each _ _ body otherwise => namingsOfAll m qualifier body ++ namingsOfAll m qualifier otherwise
  | .repeated _ body otherwise =>
    namingsOfAll m qualifier body ++ namingsOfAll m qualifier otherwise
  | .select _ _ cases => namingsOfBodies m qualifier cases
  | _ => []

/-- The names that statements can bind. -/
def namingsOfAll (m : ModuleName) (qualifier : String) : List Statement → List Naming
  | [] => []
  | st :: rest => st.namings m qualifier ++ namingsOfAll m qualifier rest

/-- The names that several bodies can bind. -/
def namingsOfBodies (m : ModuleName) (qualifier : String) : List (List Statement) → List Naming
  | [] => []
  | body :: rest => namingsOfAll m qualifier body ++ namingsOfBodies m qualifier rest

end

/-- The names that a module can bind: its own, and those in its statements. -/
def namingsOfModule (m : ModuleName) (body : List Statement) : List Naming :=
  ⟨"", none⟩ :: namingsOfAll m "" body

/-! ### Calls that are allowed -/

/-- Every call that binds a name is allowed. -/
def MayBind (may : Table.Call → Prop) (module name : String) : Prop :=
  ∀ c : Table.Call, c.name = (module, name) → may c

/-- Every call that binds one of some names as the source says is allowed. -/
def MayBindAll (may : Table.Call → Prop) (module : String) (ns : List Naming) : Prop :=
  ∀ n ∈ ns, ∀ c, n.Allows module c → may c

namespace MayBindAll

variable {may : Table.Call → Prop} {module : String} {n : Naming} {ns ns' : List Naming}

theorem head (h : MayBindAll may module (n :: ns)) (c : Table.Call) (hc : n.Allows module c) :
    may c :=
  h n List.mem_cons_self c hc

theorem tail (h : MayBindAll may module (n :: ns)) : MayBindAll may module ns :=
  fun n hn => h n (List.mem_cons_of_mem _ hn)

theorem left (h : MayBindAll may module (ns ++ ns')) : MayBindAll may module ns :=
  fun n hn => h n (List.mem_append_left _ hn)

theorem right (h : MayBindAll may module (ns ++ ns')) : MayBindAll may module ns' :=
  fun n hn => h n (List.mem_append_right _ hn)

/-- A name that is not imported may be bound in any way. -/
theorem mayBind {name : String} (h : MayBindAll may module ns) (hname : ⟨name, none⟩ ∈ ns) :
    MayBind may module name :=
  fun c hc => h _ hname c ⟨hc, by simp⟩

end MayBindAll

/-- A later table, after calls that are allowed. -/
def Table.Moves (may : Table.Call → Prop) (t t' : Table) : Prop :=
  ∃ calls : List Table.Call, (∀ c ∈ calls, may c) ∧ t' = t.after calls

theorem Table.Moves.refl (may : Table.Call → Prop) (t : Table) : t.Moves may t :=
  ⟨[], by simp, rfl⟩

theorem Table.Moves.trans {may : Table.Call → Prop} {t t' t'' : Table} (h : t.Moves may t')
    (h' : t'.Moves may t'') : t.Moves may t'' := by
  obtain ⟨calls, hmay, rfl⟩ := h
  obtain ⟨calls', hmay', rfl⟩ := h'
  refine ⟨calls ++ calls', ?_, (t.after_append calls calls').symm⟩
  exact fun c hc => (List.mem_append.mp hc).elim (hmay c) (hmay' c)

/-- Whatever a host answers changes the table by calls that are allowed only. -/
def Host.Makes (h : Host) (may : Table.Call → Prop) : Prop :=
  ∀ (f : Value) (a : Arguments) (c : Compilation),
    c.table.Moves may (h.answer f a c).2.table

theorem Host.Makes.mono {h : Host} {may may' : Table.Call → Prop} (hmakes : h.Makes may)
    (hmay : ∀ c, may c → may' c) : h.Makes may' := by
  intro f a c
  obtain ⟨calls, hcalls, htable⟩ := hmakes f a c
  exact ⟨calls, fun k hk => hmay k (hcalls k hk), htable⟩

/-- So does every evaluation in a module that calls them. -/
theorem Host.Makes.evaluating {m : ModuleSetting} {may : Table.Call → Prop}
    (h : m.host.Makes may) : m.KeepsEvaluating fun c c' => c.table.Moves may c'.table := fun _ =>
  { refl c := .refl may c.table
    trans := .trans
    created c := .refl may c.table
    changed c _ := .refl may c.table
    called f a c := h f a { c with store := c.store.enter } }

namespace Elaboration

/-- From a state, a run changes the table by allowed calls only, and by every call that is due
unless a fault ends it. -/
def Makes {α : Type} (may : Table.Call → Prop) (due : List Table.Call) (x : Elaboration α)
    (s : Findings) : Prop :=
  ∃ calls : List Table.Call,
    (outcome x s).2.compilation.table = s.compilation.table.after calls ∧
    (∀ c ∈ calls, may c) ∧ ∀ a, (outcome x s).1 = .ok a → due ⊆ calls

variable {α β : Type} {m : ModuleSetting} {b : Body} {may : Table.Call → Prop}
  {due due' : List Table.Call} {s s' : Findings}

namespace Makes

/-- A run that leaves the table alone makes no calls. -/
theorem of_table_eq {x : Elaboration α}
    (h : (outcome x s).2.compilation.table = s.compilation.table) : Makes may [] x s :=
  ⟨[], h, by simp, by simp⟩

/-- Nor are any calls due in a run that changes the table by allowed calls in any case. -/
theorem of_moves {x : Elaboration α}
    (h : Keeps (fun c c' => c.table.Moves may c'.table) x s) : Makes may [] x s := by
  obtain ⟨calls, hmay, htable⟩ := h
  exact ⟨calls, htable, hmay, by simp⟩

theorem pure (a : α) (s : Findings) : Makes may [] (Pure.pure a : Elaboration α) s :=
  of_table_eq rfl

theorem get (s : Findings) : Makes may [] (MonadState.get : Elaboration Findings) s :=
  of_table_eq rfl

theorem set (h : s'.compilation.table = s.compilation.table) :
    Makes may [] (MonadStateOf.set s' : Elaboration PUnit) s :=
  of_table_eq h

/-- Neither the result nor a fault of a step without effects changes anything. -/
theorem lift (r : Except Fault α) (s : Findings) : Makes may [] (liftM r : Elaboration α) s := by
  cases r <;> exact of_table_eq rfl

theorem bind {x : Elaboration α} {f : α → Elaboration β} (hx : Makes may due x s)
    (hf : ∀ a s', outcome x s = (.ok a, s') → Makes may due' (f a) s') :
    Makes may (due ++ due') (x >>= f) s := by
  obtain ⟨calls, htable, hmay, hdue⟩ := hx
  unfold Makes
  rw [outcome_bind]
  generalize hrun : outcome x s = first at htable hdue hf
  obtain ⟨e | a, s₁⟩ := first
  · -- behind a fault nothing is due
    exact ⟨calls, htable, hmay, fun a ha => by cases ha⟩
  · obtain ⟨calls', htable', hmay', hdue'⟩ := hf a s₁ rfl
    refine ⟨calls ++ calls', ?_, ?_, fun b hb => ?_⟩
    · rw [htable', htable, Table.after_append]
    · exact fun c hc => (List.mem_append.mp hc).elim (hmay c) (hmay' c)
    · exact List.append_subset.mpr ⟨List.subset_append_of_subset_left _ (hdue a rfl),
        List.subset_append_of_subset_right _ (hdue' b hb)⟩

/-- A run after a step that makes no calls due. -/
theorem seq {x : Elaboration α} {f : α → Elaboration β} (hx : Makes may [] x s)
    (hf : ∀ a s', outcome x s = (.ok a, s') → Makes may due (f a) s') : Makes may due (x >>= f) s :=
  hx.bind hf

/-- One call, which is due. -/
theorem single {x : Elaboration α} {c : Table.Call} (hmay : may c)
    (h : (outcome x s).2.compilation.table = s.compilation.table.call c) : Makes may [c] x s :=
  ⟨[c], h, by simpa using hmay, fun _ _ => List.Subset.refl _⟩

/-- One call, which need not be made. -/
theorem allowed {x : Elaboration α} {c : Table.Call} (hmay : may c)
    (h : (outcome x s).2.compilation.table = s.compilation.table.call c) : Makes may [] x s :=
  ⟨[c], h, by simpa using hmay, by simp⟩

end Makes

/-! ### Steps of the elaboration -/

theorem onScope_makes (f : Scope → Scope) (s : Findings) : Makes may [] (onScope f) s :=
  .of_table_eq rfl

theorem elaborate_table {c c' : Compilation} {i : Identity} {site : Location} {first : Bool}
    (h : c.elaborate i site = .ok (c', first)) : c'.table = c.table := by
  rw [Compilation.elaborate_eq] at h
  split at h
  · split at h <;> cases h <;> rfl
  · cases h

theorem tryAlias_makes {name : String} {e : Expr}
    (hname : MayBind may m.name.dotted (Dotted.under b.qualifier name))
    (s : Findings) : Makes may [] (tryAlias m b name e) s := by
  unfold tryAlias
  cases e.dottedName? with
  | none => exact .pure _ s
  | some dotted =>
    refine .seq (.get s) fun s₀ s₁ h => ?_
    cases h
    split
    · exact .pure _ s
    · rename_i d hd
      split
      · exact .pure _ s
      · have hmay := hname (.addAlias m.name.dotted (Dotted.under b.qualifier name) d.module
          d.qualname) rfl
        exact .seq (.allowed hmay rfl) fun _ s₂ _ =>
          .seq (onScope_makes _ s₂) fun _ _ _ => .pure _ _

section

variable (hhost : m.host.Makes may)

include hhost

theorem refuseIn_makes (es : List Expr) (s : Findings) : Makes may [] (refuseIn m es) s :=
  .of_moves (hhost.evaluating.refuseIn es)

theorem bindTo_makes (name : String) (e : Option Expr) (s : Findings) :
    Makes may [] (bindTo m name e) s :=
  .of_moves (hhost.evaluating.bindTo name e)

/-- A declaration makes one call for itself, beside those of the host. -/
theorem declare_makes {kind : Kind} {qualname : String} {site : Location} {groups : Groups}
    (hname : MayBind may m.name.dotted qualname) (s : Findings) :
    Makes may [] (declare m kind qualname site groups) s := by
  have hmay := hname (.declare kind m.name.dotted qualname site) rfl
  have htable : (s.compilation.declare kind m.name.dotted qualname site).1.table =
      s.compilation.table.call (.declare kind m.name.dotted qualname site) := rfl
  unfold declare
  refine .seq (.get s) fun _ _ h => ?_
  cases h
  generalize s.compilation.declare kind m.name.dotted qualname site = declared at htable ⊢
  obtain ⟨c, i⟩ := declared
  refine .seq (.allowed hmay htable) fun _ s₁ h => ?_
  cases h
  split
  · rename_i c' hfirst
    refine .seq (.set (elaborate_table hfirst)) fun _ s₂ _ => ?_
    -- what is recorded at a first visit is no call on the table
    refine .of_moves (hhost.evaluating.firstVisit fun vs c _ => ?_)
    rw [Compilation.recordAll_table]
    exact .refl may c.table
  · exact .pure _ _

end

/-! ### Statements -/

section

variable (hhost : m.host.Makes may)

include hhost

theorem declareClass_makes {p : Place} {name : String} {bases keywords decorators : List Expr}
    (hname : MayBind may m.name.dotted (Dotted.under b.qualifier name))
    (s : Findings) : Makes may [] (declareClass m b p name bases keywords decorators) s :=
  .seq (.lift _ _) fun _ _ _ => .seq (.lift _ _) fun _ _ _ =>
    .seq (declare_makes hhost hname _) fun _ _ _ => .seq (refuseIn_makes hhost _ _) fun _ _ _ =>
      onScope_makes _ _

theorem declareFunction_makes {p : Place} {name : String} {parameters : Parameters}
    {result : Option Expr} {decorators : List Expr}
    (hname : MayBind may m.name.dotted (Dotted.under b.qualifier name))
    (s : Findings) : Makes may [] (declareFunction m b p name parameters result decorators) s :=
  .seq (.lift _ _) fun _ _ _ => .seq (.lift _ _) fun _ _ _ =>
    .seq (declare_makes hhost hname _) fun _ _ _ => .seq (refuseIn_makes hhost _ _) fun _ _ _ =>
      .seq (refuseIn_makes hhost _ _) fun _ _ _ => onScope_makes _ _

theorem declareTyped_makes {p : Place} {target type : Expr} {value : Option Expr}
    (hname : ∀ n ∈ targetName? target, MayBind may m.name.dotted (Dotted.under b.qualifier n))
    (s : Findings) : Makes may [] (declareTyped m b p target type value) s := by
  unfold declareTyped
  split
  · refine .seq (.lift _ _) fun _ _ _ => .seq (.lift _ _) fun _ _ _ => ?_
    exact .seq (declare_makes hhost (hname _ rfl) _) fun _ _ _ => bindTo_makes hhost _ _ _
  · exact refuseIn_makes hhost _ _

theorem declareNames_makes {p : Place} {value : Expr} {names : List String}
    (hname : ∀ n ∈ names, MayBind may m.name.dotted (Dotted.under b.qualifier n))
    (s : Findings) : Makes may [] (declareNames m b p value names) s := by
  induction names generalizing s with
  | nil => exact .pure _ s
  | cons name rest ih =>
    have hfirst := hname name List.mem_cons_self
    have hrest := ih fun n hn => hname n (List.mem_cons_of_mem _ hn)
    rw [declareNames]
    refine .seq (tryAlias_makes hfirst s) fun made s₁ _ => ?_
    cases made with
    | true => exact hrest s₁
    | false =>
      exact .seq (declare_makes hhost hfirst s₁) fun _ s₂ _ =>
        .seq (bindTo_makes hhost _ _ s₂) fun _ s₃ _ => hrest s₃

theorem declareAssigned_makes {p : Place} {targets : List Expr} {value : Expr}
    (hmodule : MayBind may m.name.dotted "")
    (hname : ∀ n ∈ targets.filterMap targetName?,
      MayBind may m.name.dotted (Dotted.under b.qualifier n))
    (s : Findings) : Makes may [] (declareAssigned m b p targets value) s := by
  unfold declareAssigned
  dsimp only
  split
  · exact .seq (.lift _ _) fun _ _ _ => .seq (declare_makes hhost hmodule _) fun _ _ _ =>
      refuseIn_makes hhost _ _
  · split
    · exact refuseIn_makes hhost _ _
    · split
      · exact declareNames_makes hhost hname s
      · exact .pure _ s

theorem declareTypeAlias_makes {p : Place} {name : String} {value : Expr}
    (hname : MayBind may m.name.dotted (Dotted.under b.qualifier name))
    (s : Findings) : Makes may [] (declareTypeAlias m b p name value) s :=
  .seq (.lift _ _) fun _ _ _ => .seq (declare_makes hhost hname _) fun _ _ _ =>
    onScope_makes _ _

end

theorem bindImported_makes {name module target : String}
    (hmay : may (.addAlias m.name.dotted (Dotted.under b.qualifier name) module target))
    (s : Findings) :
    Makes may [.addAlias m.name.dotted (Dotted.under b.qualifier name) module target]
      (bindImported m b name module target) s :=
  .bind (.single hmay rfl) fun _ s₁ _ => onScope_makes _ s₁

theorem importModules_makes {modules : List ImportedName}
    (h : MayBindAll may m.name.dotted (modules.map (ImportedName.asModule b.qualifier)))
    (s : Findings) :
    Makes may (dueFor m.name.dotted (modules.map (ImportedName.asModule b.qualifier)))
      (importModules m b modules) s := by
  induction modules generalizing s with
  | nil => exact .pure _ s
  | cons i rest ih =>
    rw [List.map_cons] at h
    rw [importModules, List.map_cons, dueFor_cons]
    have hfirst := h.head
    rw [ImportedName.asModule] at hfirst ⊢
    generalize i.boundAs = bound at hfirst ⊢
    cases bound <;>
      exact .bind (bindImported_makes (hfirst _ ⟨rfl, by simp⟩) s) fun _ s₁ _ => ih h.tail s₁

theorem importNames_makes {base : String} {names : List ImportedName}
    (h : MayBindAll may m.name.dotted
      ((names.filter fun i => i.name != "*").map (ImportedName.outOf base b.qualifier)))
    (s : Findings) :
    Makes may (dueFor m.name.dotted
        ((names.filter fun i => i.name != "*").map (ImportedName.outOf base b.qualifier)))
      (importNames m b base names) s := by
  induction names generalizing s with
  | nil => exact .pure _ s
  | cons i rest ih =>
    rw [importNames]
    rw [List.filter_cons] at h ⊢
    cases hstar : i.name != "*" with
    | false =>
      -- where everything is imported, no name is bound
      simp only [hstar, Bool.false_eq_true, if_false] at h ⊢
      exact ih h s
    | true =>
      simp only [hstar, if_true, List.map_cons, dueFor_cons] at h ⊢
      exact .bind (bindImported_makes (h.head _ ⟨rfl, by simp [ImportedName.outOf]⟩) s)
        fun _ s₁ _ => ih h.tail s₁

theorem inChild_makes {run : Elaboration Unit} (h : ∀ s, Makes may due run s) (s : Findings) :
    Makes may due (inChild run) s := by
  unfold inChild
  refine .seq (.get s) fun _ _ _ => .seq (onScope_makes _ _) fun _ s₁ _ => ?_
  rw [← List.append_nil due]
  exact .bind (h s₁) fun _ s₂ _ => onScope_makes _ s₂

mutual

theorem statement_makes (hhost : m.host.Makes may) (b : Body) : (st : Statement) →
    MayBindAll may m.name.dotted (st.namings m.name b.qualifier) → (s : Findings) →
    Makes may (dueFor m.name.dotted (st.namings m.name b.qualifier)) (statement m b st) s
  | .classDef p name bounds bases keywords decorators body, h, s => by
    rw [Statement.namings] at h ⊢
    rw [statement, dueFor_cons]
    exact .bind (declareClass_makes hhost (h.mayBind List.mem_cons_self) s) fun _ s₁ _ =>
      inChild_makes (fun s₂ => statements_make hhost (classBody m b name bases) body h.tail s₂) s₁
  | .function p name bounds parameters result decorators body, h, s => by
    rw [Statement.namings] at h ⊢
    exact declareFunction_makes hhost (h.mayBind List.mem_cons_self) s
  | .typed p target type value, h, s => by
    rw [Statement.namings] at h ⊢
    rw [dueFor_declared]
    exact declareTyped_makes hhost (fun n hn => h.mayBind
      (List.mem_map_of_mem (Option.mem_toList.mpr hn))) s
  | .assign p targets value, h, s => by
    rw [Statement.namings] at h ⊢
    rw [dueFor_cons, dueFor_declared]
    exact declareAssigned_makes hhost (h.mayBind List.mem_cons_self)
      (fun n hn => h.tail.mayBind (List.mem_map_of_mem hn)) s
  | .typeAlias p name bounds value, h, s => by
    rw [Statement.namings] at h ⊢
    exact declareTypeAlias_makes hhost (h.mayBind List.mem_cons_self) s
  | .importModules p modules, h, s => by
    rw [Statement.namings] at h ⊢
    exact importModules_makes h s
  | .importNames p module names level, h, s => by
    rw [Statement.namings] at h ⊢
    exact importNames_makes h s
  | .branch test body otherwise, h, s => by
    rw [Statement.namings] at h ⊢
    rw [statement, dueFor_append]
    exact .bind (statements_make hhost b body h.left s) fun _ s₁ _ =>
      statements_make hhost b otherwise h.right s₁
  | .attempt body types handlers otherwise final, h, s => by
    rw [Statement.namings] at h ⊢
    rw [statement, dueFor_append, dueFor_append, dueFor_append]
    exact .bind (statements_make hhost b body h.left s) fun _ s₁ _ =>
      .bind (bodies_make hhost b handlers h.right.left s₁) fun _ s₂ _ =>
        .bind (statements_make hhost b otherwise h.right.right.left s₂) fun _ s₃ _ =>
          statements_make hhost b final h.right.right.right s₃
  | .within contexts targets body, h, s => by
    rw [Statement.namings] at h ⊢
    exact .seq (refuseIn_makes hhost _ s) fun _ s₁ _ => statements_make hhost b body h s₁
  | .each target source body otherwise, h, s => by
    rw [Statement.namings] at h ⊢
    rw [statement, dueFor_append]
    exact .bind (statements_make hhost b body h.left s) fun _ s₁ _ =>
      statements_make hhost b otherwise h.right s₁
  | .repeated test body otherwise, h, s => by
    rw [Statement.namings] at h ⊢
    rw [statement, dueFor_append]
    exact .bind (statements_make hhost b body h.left s) fun _ s₁ _ =>
      statements_make hhost b otherwise h.right s₁
  | .select subject guards cases, h, s => by
    rw [Statement.namings] at h ⊢
    exact .seq (refuseIn_makes hhost _ s) fun _ s₁ _ => bodies_make hhost b cases h s₁
  | .expression e, h, s => by
    rw [statement]
    split
    · exact refuseIn_makes hhost _ s
    · exact .pure _ s
  | .augment .., _, s => .pure _ s
  | .delete .., _, s => .pure _ s
  | .plain .., _, s => .pure _ s

theorem statements_make (hhost : m.host.Makes may) (b : Body) : (body : List Statement) →
    MayBindAll may m.name.dotted (namingsOfAll m.name b.qualifier body) → (s : Findings) →
    Makes may (dueFor m.name.dotted (namingsOfAll m.name b.qualifier body)) (statements m b body) s
  | [], _, s => .pure _ s
  | st :: rest, h, s => by
    rw [namingsOfAll] at h ⊢
    rw [statements, dueFor_append]
    exact .bind (statement_makes hhost b st h.left s) fun _ s₁ _ =>
      statements_make hhost b rest h.right s₁

theorem bodies_make (hhost : m.host.Makes may) (b : Body) : (bs : List (List Statement)) →
    MayBindAll may m.name.dotted (namingsOfBodies m.name b.qualifier bs) → (s : Findings) →
    Makes may (dueFor m.name.dotted (namingsOfBodies m.name b.qualifier bs)) (bodies m b bs) s
  | [], _, s => .pure _ s
  | body :: rest, h, s => by
    rw [namingsOfBodies] at h ⊢
    rw [bodies, dueFor_append]
    exact .bind (statements_make hhost b body h.left s) fun _ s₁ _ =>
      bodies_make hhost b rest h.right s₁

end

/-- A module makes calls that bind the names in its source, and one for every import, unless a
fault ends it. -/
theorem wholeModule_makes (hhost : m.host.Makes may) {body : List Statement}
    (h : MayBindAll may m.name.dotted (namingsOfModule m.name body)) (s : Findings) :
    Makes may (dueFor m.name.dotted (namingsOfModule m.name body)) (wholeModule m body) s := by
  unfold namingsOfModule at h ⊢
  rw [dueFor_cons]
  exact .bind (declare_makes hhost (h.mayBind List.mem_cons_self) s) fun _ s₁ _ =>
    statements_make hhost {} body h.tail s₁

end Elaboration

end Marginalia
