/-
Assignments that make other names.

An assignment whose value spells a declaration that can have other names makes its targets
other names for it.  Such a target is bound to the name of the declaration, and not to its
identity.

* `Elaboration.assigned_alias_follows` — as long as the target is not bound again, it denotes
  what the declaration's own name denotes, hence the declaration while that is what its own
  name is bound to;
* `Elaboration.assigned_alias_not_fixed` — when the name of a class is given to a function, the
  class's other name denotes the function.
-/
import Marginalia.Proofs.ElaborationCalls
import Marginalia.Proofs.NameSearch

namespace Marginalia

/-! ### Expressions that are names -/

/-- No annotations are written in a dotted name. -/
theorem Spellings.not_marks_of_dottedName? (s : Spellings) : {e : Expr} → {dotted : String} →
    e.dottedName? = some dotted → s.marks e = false
  | .name _ _, _, _ => rfl
  | .access p e n, _, h => by
    rw [Expr.dottedName?, Option.map_eq_some_iff] at h
    obtain ⟨base, hbase, -⟩ := h
    -- the walk goes on in what the name is taken from
    have hinside := s.not_marks_of_dottedName? hbase
    unfold marks at hinside ⊢
    rw [Expr.walk, Expr.levels, List.flatten_cons, List.any_append]
    exact hinside

/-- The names that a dotted name can stand for in a body, those looked up first before the
others. -/
def Body.readings (b : Body) (dotted : String) : List String :=
  if b.qualifier.isEmpty then [dotted] else [Dotted.under b.qualifier dotted, dotted]

namespace Elaboration

variable {m : ModuleSetting} {b : Body} {p : Place} {targets : List Expr} {e : Expr}
  {dotted n : String} {before rest : List String} {s s₁ : Findings} {d : Declaration}

/-- What a name denotes is declared under its own name. -/
theorem binding?_of_denoted? {t : Table} {module : String} {names : List String}
    (ht : t.Coherent) (h : denoted? t module names = some d) :
    t.binding? (d.module, d.qualname) = some (.declared d.identity) := by
  obtain ⟨i, hi, hget⟩ := Option.bind_eq_some_iff.mp h
  obtain ⟨name, -, hname⟩ := List.exists_of_findSome?_eq_some hi
  obtain ⟨d', hget', -, rfl, hbound⟩ := ht.entry_of_resolve? hname
  rw [hget'] at hget
  cases hget
  exact hbound

/-! ### The run of an assignment -/

theorem outcome_declareNames_append (p : Place) (e : Expr) (names names' : List String)
    (s : Findings) :
    outcome (declareNames m b p e (names ++ names')) s =
      outcome (declareNames m b p e names >>= fun _ => declareNames m b p e names') s := by
  congr 1
  induction names with
  | nil => rfl
  | cons name rest ih =>
    rw [List.cons_append, declareNames, declareNames, ih, bind_assoc]
    congr 1
    funext made
    cases made <;> simp [bind_assoc]

/-- An assignment to names, of something that is not an annotation, goes through them. -/
theorem statement_assign (hnames : targets.map targetName? = (before ++ n :: rest).map some)
    (hmarker : b.container = .module → before ++ n :: rest ≠ [m.spellings.moduleMarker])
    (hdotted : e.dottedName? = some dotted) :
    statement m b (.assign p targets e) = declareNames m b p e (before ++ n :: rest) := by
  have hfilter : targets.filterMap targetName? = before ++ n :: rest := by
    have hkept := congrArg (List.filterMap id) hnames
    simpa [List.filterMap_map] using hkept
  have hlength : (before ++ n :: rest).length = targets.length := by
    have hboth := congrArg List.length hnames
    simpa using hboth.symm
  -- only the marker alone, assigned to in the module's body, would annotate the module
  have hplain : (b.container == .module &&
      (before ++ n :: rest == [m.spellings.moduleMarker]) && targets.length == 1) = false := by
    rw [Bool.and_eq_false_iff, Bool.and_eq_false_iff, beq_eq_false_iff_ne, beq_eq_false_iff_ne]
    exact .inl (not_and_or.mp fun h => hmarker h.1 h.2)
  rw [statement, declareAssigned]
  dsimp only
  rw [hfilter, hplain, m.spellings.not_marks_of_dottedName? hdotted, hlength]
  simp

/-- The state after a name was made another name for a declaration. -/
def aliased (m : ModuleSetting) (b : Body) (n : String) (d : Declaration) (s : Findings) :
    Findings :=
  { s with
    compilation := s.compilation.addAlias m.name.dotted (Dotted.under b.qualifier n) d.module
      d.qualname
    scope := s.scope.hide n }

theorem outcome_tryAlias (hdotted : e.dottedName? = some dotted)
    (hdenoted : denoted? s.compilation.table m.name.dotted (b.readings dotted) = some d)
    (haliasable : d.kind.aliasable = true) :
    outcome (tryAlias m b n e) s = (.ok true, aliased m b n d s) := by
  unfold tryAlias
  rw [hdotted]
  dsimp only
  rw [outcome_bind_ok (outcome_get s)]
  unfold Body.readings at hdenoted
  rw [hdenoted]
  dsimp only
  rw [haliasable]
  rfl

/-- The target is bound to the name of the declaration. -/
theorem binding?_aliased (m : ModuleSetting) (b : Body) (n : String) (d : Declaration)
    (s : Findings) (k : NameKey) :
    (aliased m b n d s).compilation.table.binding? k =
      if k = (m.name.dotted, Dotted.under b.qualifier n) then some (.sameAs (d.module, d.qualname))
      else s.compilation.table.binding? k :=
  s.compilation.table.binding?_call
    (.addAlias m.name.dotted (Dotted.under b.qualifier n) d.module d.qualname) k

/-- **Other names.**  An assignment whose value spells a declaration that can have other names,
when its target `n` has its turn, makes `n` another name for it and goes on with the targets
behind `n`; unless `n` is among these, nothing more is bound to `n`.  In every later state, as
long as `n` is not bound again, `n` denotes what the declaration's own name denotes; this is the
declaration, whatever became of the names in the value, while the declaration's own name is bound
to it.  So it is when `n` is made its name, unless `n` is its own name. -/
theorem assigned_alias_follows {token : Int} {calls : List Table.Call}
    (hnames : targets.map targetName? = (before ++ n :: rest).map some)
    (hmarker : b.container = .module → before ++ n :: rest ≠ [m.spellings.moduleMarker])
    (hdotted : e.dottedName? = some dotted)
    (hbefore : outcome (declareNames m b p e before) s = (.ok (), s₁))
    (hbuilt : s₁.compilation.table = .run token calls)
    (hdenoted : denoted? s₁.compilation.table m.name.dotted (b.readings dotted) = some d)
    (haliasable : d.kind.aliasable = true) :
    outcome (statement m b (.assign p targets e)) s =
      outcome (declareNames m b p e rest) (aliased m b n d s₁) ∧
    (n ∉ rest →
      m.host.Makes (fun c => c.name ≠ (m.name.dotted, Dotted.under b.qualifier n)) →
      ∃ others : List Table.Call,
        (∀ c ∈ others, c.name ≠ (m.name.dotted, Dotted.under b.qualifier n)) ∧
        (outcome (statement m b (.assign p targets e)) s).2.compilation.table =
          (aliased m b n d s₁).compilation.table.after others) ∧
    ((d.module, d.qualname) ≠ (m.name.dotted, Dotted.under b.qualifier n) →
      (aliased m b n d s₁).compilation.table.binding? (d.module, d.qualname) =
        some (.declared d.identity)) ∧
    ∀ later : List Table.Call,
      (∀ c ∈ later, c.name ≠ (m.name.dotted, Dotted.under b.qualifier n)) →
      ∀ t, t = (aliased m b n d s₁).compilation.table.after later →
        t.resolve? m.name.dotted (Dotted.under b.qualifier n) =
            t.resolve? d.module d.qualname ∧
          (t.binding? (d.module, d.qualname) = some (.declared d.identity) →
            t.resolve? m.name.dotted (Dotted.under b.qualifier n) = some d.identity) := by
  have hrun : outcome (statement m b (.assign p targets e)) s =
      outcome (declareNames m b p e rest) (aliased m b n d s₁) := by
    rw [statement_assign hnames hmarker hdotted, outcome_declareNames_append,
      outcome_bind_ok hbefore, declareNames,
      outcome_bind_ok (outcome_tryAlias hdotted hdenoted haliasable)]
    rfl
  refine ⟨hrun, fun hnew hhost => ?_, fun hne => ?_, fun later hlater t ht => ?_⟩
  · -- the targets behind `n` have other qualified names
    have hothers : Makes (fun c => c.name ≠ (m.name.dotted, Dotted.under b.qualifier n)) []
        (declareNames m b p e rest) (aliased m b n d s₁) := by
      refine declareNames_makes hhost (fun n' hn' c hc hsame => ?_) _
      have hname := Dotted.under_injective (congrArg Prod.snd (hc.symm.trans hsame))
      exact hnew (hname ▸ hn')
    obtain ⟨others, htable, hmay, -⟩ := hothers
    exact ⟨others, hmay, by rw [hrun, htable]⟩
  · have hbound := binding?_of_denoted? (hbuilt ▸ Table.coherent_run token calls) hdenoted
    rw [binding?_aliased, if_neg hne, hbound]
  · have hbinding : t.binding? (m.name.dotted, Dotted.under b.qualifier n) =
        some (.sameAs (d.module, d.qualname)) := by
      rw [ht, Table.binding?_after hlater, binding?_aliased, if_pos rfl]
    have hfollows := Table.resolve?_of_sameAs hbinding
    exact ⟨hfollows, fun hbound => hfollows.trans (Table.resolve?_of_declared hbound)⟩

/-! ### A class with another name -/

/-- A class, and a module that imports it. -/
def classImported : List Table.Call :=
  [.declare .typeDef "lib" "A" ⟨"lib.py", 1, 0⟩, .addAlias "m" "A" "lib" "A"]

/-- The findings in the module. -/
def afterImport : Findings := { compilation := { table := .run 1 classImported } }

/-- The class. -/
def classA : Declaration := ⟨⟨1, 0⟩, .typeDef, "lib", "A", ⟨"lib.py", 1, 0⟩, []⟩

/-- The assignment of `A` to `B`. -/
def assignB : Statement := .assign ⟨2, 0⟩ [.name ⟨2, 0⟩ "B"] (.name ⟨2, 4⟩ "A")

theorem afterImport_denotes :
    denoted? afterImport.compilation.table "m" (Body.readings {} "A") = some classA := by
  decide +kernel

/-- The name that the value was spelled with becomes a variable. -/
theorem assigned_alias_follows_import :
    afterImport.compilation.table = .run 1 classImported ∧
      denoted? afterImport.compilation.table "m" (Body.readings {} "A") = some classA ∧
      ((outcome (statement sampleModule {} assignB) afterImport).2.compilation.table.after
        [.declare .variableDef "m" "A" ⟨"m.py", 3, 0⟩]).resolve? "m" "B" = some ⟨1, 0⟩ := by
  refine ⟨rfl, afterImport_denotes, ?_⟩
  obtain ⟨hrun, -, hbound, hfollows⟩ := @assigned_alias_follows sampleModule {} ⟨2, 0⟩
    [.name ⟨2, 0⟩ "B"] (.name ⟨2, 4⟩ "A") "A" "B" [] [] afterImport afterImport classA 1
    classImported rfl (by decide) rfl rfl rfl afterImport_denotes rfl
  rw [assignB, hrun]
  refine (hfollows [.declare .variableDef "m" "A" ⟨"m.py", 3, 0⟩] (by decide) _ rfl).2 ?_
  rw [Table.binding?_after (by decide)]
  exact hbound (by decide)

/-- When the class's own name is given to a function, its other name denotes the function. -/
theorem assigned_alias_not_fixed :
    ¬ ∀ (m : ModuleSetting) (b : Body) (p q : Place) (n dotted : String) (e : Expr)
      (s : Findings) (token : Int) (calls later : List Table.Call) (d : Declaration),
      (b.container = .module → n ≠ m.spellings.moduleMarker) → e.dottedName? = some dotted →
      s.compilation.table = .run token calls →
      denoted? s.compilation.table m.name.dotted (b.readings dotted) = some d →
      d.kind.aliasable = true →
      (∀ c ∈ later, c.name ≠ (m.name.dotted, Dotted.under b.qualifier n)) →
        ((outcome (statement m b (.assign p [.name q n] e)) s).2.compilation.table.after
          later).resolve? m.name.dotted (Dotted.under b.qualifier n) = some d.identity := by
  intro hfixed
  have hclass := hfixed sampleModule {} ⟨2, 0⟩ ⟨2, 0⟩ "B" "A" (.name ⟨2, 4⟩ "A") afterImport 1
    classImported [.declare .function "lib" "A" ⟨"lib.py", 3, 0⟩] classA
    (by decide) rfl rfl afterImport_denotes rfl (by decide)
  -- `B` follows the class's name, which is a function's by now
  have hfunction : ((outcome (statement sampleModule {} assignB)
      afterImport).2.compilation.table.after
        [.declare .function "lib" "A" ⟨"lib.py", 3, 0⟩]).resolve? "m" "B" = some ⟨1, 1⟩ := by
    decide +kernel
  exact absurd (hfunction.symm.trans hclass) (by decide)

end Elaboration

end Marginalia
