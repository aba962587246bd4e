/-
A package that imports a submodule of its own.

An unbound name can denote a submodule.  An import binds the name to what it is imported from,
and what a package imports from itself is found under the very name that is bound.

* `ModuleName.importBase_package` — an import from the package a module is, relative or by its
  name, names that module;
* `Table.not_leads_below` — a name bound to itself leads nowhere, nor does anything below it;
* `Elaboration.submodule_import_lost` — a package that imports a submodule from itself, and
  binds its name in no other way, does not find it any more; without the import it is found;
* `Elaboration.submodule_import_not_found` — a package with one module, which it imports.
-/
import Marginalia.Proofs.ElaborationCalls
import Marginalia.Proofs.NameSearch

namespace Marginalia

/-! ### Imports from the package itself -/

namespace ModuleName

theorem join_packages (P : String) : Dotted.join (packages ⟨P, true⟩) = P := by
  unfold packages
  by_cases hP : P = ""
  · rw [hP]
    rfl
  · rw [if_pos rfl, if_neg (by simpa using hP)]
    exact Dotted.join_parts P

/-- What stands in a package is imported from it by a relative import of one dot, and by the
name of the package. -/
theorem importBase_package (P : String) :
    importBase ⟨P, true⟩ none 1 = P ∧ importBase ⟨P, true⟩ (some P) 0 = P := by
  refine ⟨?_, rfl⟩
  have hclimb : ∀ ps : List String, climb ps 0 = ps := by
    intro ps
    rw [climb, if_pos (Nat.zero_le _), Nat.sub_zero, List.take_length]
  simp [importBase, hclimb, join_packages]

end ModuleName

/-- An import of a name from the package it is written in. -/
def Statement.ImportsFromItself (P s : String) : Statement → Prop
  | .importNames _ module names level =>
    ⟨s, none⟩ ∈ names ∧ (module = none ∧ level = 1 ∨ module = some P ∧ level = 0)
  | _ => False

theorem mem_namingsOfModule {P s : String} {st : Statement} {body : List Statement}
    (hs : s ≠ "*") (hst : st ∈ body) (himport : st.ImportsFromItself P s) :
    ⟨s, some (P, s)⟩ ∈ namingsOfModule ⟨P, true⟩ body := by
  have hinside : ⟨s, some (P, s)⟩ ∈ st.namings ⟨P, true⟩ "" := by
    cases st with
    | importNames p module names level =>
      obtain ⟨hname, hbase⟩ := himport
      have hP : ModuleName.importBase ⟨P, true⟩ module level = P := by
        obtain ⟨rfl, rfl⟩ | ⟨rfl, rfl⟩ := hbase
        · exact (ModuleName.importBase_package P).1
        · exact (ModuleName.importBase_package P).2
      rw [Statement.namings, hP]
      exact List.mem_map.mpr ⟨⟨s, none⟩, List.mem_filter.mpr ⟨hname, by simpa using hs⟩, rfl⟩
    | _ => exact himport.elim
  refine List.mem_cons_of_mem _ ?_
  induction body with
  | nil => cases hst
  | cons st' rest ih =>
    rw [namingsOfAll, List.mem_append]
    obtain rfl | hst := List.mem_cons.mp hst
    · exact .inl hinside
    · exact .inr (ih hst)

/-! ### Names that are bound to themselves -/

/-- A name of a module, and the names of its members. -/
def Below (P s : String) (k : NameKey) : Prop :=
  k.1 = P ∧ (k.2 = s ∨ ∃ x, k.2 = s ++ "." ++ x)

/-- The qualifier of a name below another is the other or below it. -/
theorem Below.qualifier {P s head x : String} {k : NameKey} (h : Below P s k) (hne : k.2 ≠ s)
    (hsplit : Dotted.splitLast? k.2 = some (head, x)) : Below P s (k.1, head) := by
  obtain ⟨hk, hx⟩ := Dotted.splitLast?_eq_some hsplit
  obtain ⟨hP, rfl | ⟨y, hy⟩⟩ := h
  · exact absurd rfl hne
  exact ⟨hP, Dotted.eq_or_dotted_of_dotted_eq hx (hk.symm.trans hy)⟩

namespace Table

variable {t : Table} {P s : String} {k : NameKey} {trail : List NameKey} {i : Identity}

/-- Below a name, nothing is bound but the name itself, and that to itself. -/
def OnlySelf (t : Table) (P s : String) : Prop :=
  ∀ k b, Below P s k → t.binding? k = some b → k = (P, s) ∧ b = .sameAs (P, s)

/-- A name that is bound to itself leads nowhere, nor does anything below it. -/
theorem not_leads_below (hself : t.binding? (P, s) ≠ none) (honly : t.OnlySelf P s)
    (hk : Below P s k) : ¬ t.Leads k trail i := by
  intro h
  -- the search goes round in `s`, and what is below `s` is searched for in `s`
  induction h with
  | declared bound =>
    obtain ⟨-, hb⟩ := honly _ _ hk bound
    cases hb
  | sameAs bound rest ih =>
    obtain ⟨rfl, hb⟩ := honly _ _ hk bound
    cases hb
    exact ih hk
  | @submodule k i unbound plain bound =>
    obtain ⟨hP, hs | ⟨x, hx⟩⟩ := hk
    · exact hself (by rw [← hP, ← hs]; exact unbound)
    · refine Dotted.splitLast?_eq_none_iff.mp plain ?_
      rw [hx, Dotted.toList_dotted]
      simp
  | @member k head x trail trail' i j owner unbound dotted first entry rest ih ih' =>
    refine ih (hk.qualifier (fun hs => hself ?_) dotted)
    rw [← hk.1, ← hs]
    exact unbound

theorem resolve?_below (hself : t.binding? (P, s) ≠ none) (honly : t.OnlySelf P s) {name : String}
    (hname : Below P s (P, name)) : t.resolve? P name = none := by
  rw [Option.eq_none_iff_forall_ne_some]
  intro i hi
  obtain ⟨trail, hleads, -⟩ := resolve?_eq_some_iff.mp hi
  exact not_leads_below hself honly hname hleads

/-- Nothing else is bound below a name while nothing else binds anything there. -/
theorem OnlySelf.after {calls : List Call} (h : t.OnlySelf P s)
    (hcalls : ∀ c ∈ calls, Below P s c.name → c = .addAlias P s P s) :
    (t.after calls).OnlySelf P s := by
  induction calls generalizing t with
  | nil => exact h
  | cons c calls ih =>
    refine ih (fun k b hk hb => ?_) fun c' hc' => hcalls c' (List.mem_cons_of_mem _ hc')
    rw [binding?_call] at hb
    split at hb
    · rename_i hname
      have hc := hcalls c List.mem_cons_self (hname ▸ hk)
      rw [hc] at hname hb
      cases hb
      exact ⟨hname, rfl⟩
    · exact h k b hk hb

end Table

namespace Elaboration

/-- A package `P` is analysed, and later there is a module `P.s` in the table.  What binds the name
`s` in `P`, or a member of it, are imports of `s` from `P` in the source of the package only. -/
structure BoundByImportOnly (m : ModuleSetting) (P s : String) (body : List Statement)
    (f₀ f₁ : Findings) (t : Table) (i : Identity) : Prop where
  package : m.name = ⟨P, true⟩
  plain : '.' ∉ s.toList
  built : ∃ token calls, f₀.compilation.table = .run token calls
  fresh : ∀ k, Below P s k → f₀.compilation.table.binding? k = none
  host : m.host.Makes fun c => ¬ Below P s c.name
  names : ∀ n ∈ namingsOfModule m.name body, Below P s (P, n.name) → n = ⟨s, some (P, s)⟩
  run : outcome (wholeModule m body) f₀ = (.ok (), f₁)
  later : ∃ calls, (∀ c ∈ calls, ¬ Below P s c.name) ∧ t = f₁.compilation.table.after calls
  submodule : t.binding? (Dotted.under P s, "") = some (.declared i)

namespace BoundByImportOnly

variable {m : ModuleSetting} {P s : String} {body : List Statement} {f₀ f₁ : Findings}
  {t : Table} {i : Identity} (h : BoundByImportOnly m P s body f₀ f₁ t i)

include h

theorem dotted : m.name.dotted = P := by rw [h.package]

/-- All calls below `s` are those of the import, which are made if there is one. -/
theorem exists_calls :
    ∃ calls : List Table.Call, t = f₀.compilation.table.after calls ∧
      (∀ c ∈ calls, Below P s c.name →
        c = .addAlias P s P s ∧ ⟨s, some (P, s)⟩ ∈ namingsOfModule m.name body) ∧
      (⟨s, some (P, s)⟩ ∈ namingsOfModule m.name body → .addAlias P s P s ∈ calls) := by
  have hmakes : Makes (fun c => Below P s c.name →
        c = .addAlias P s P s ∧ ⟨s, some (P, s)⟩ ∈ namingsOfModule m.name body)
      (dueFor m.name.dotted (namingsOfModule m.name body)) (wholeModule m body) f₀ := by
    refine wholeModule_makes (h.host.mono fun c hc hbelow => absurd hbelow hc) ?_ f₀
    -- of the names that the source binds, only the imported one is at `s` or below
    rintro n hn c ⟨hname, hsource⟩ hbelow
    rw [h.dotted] at hname hsource
    obtain rfl := h.names n hn (hname ▸ hbelow)
    exact ⟨hsource _ rfl, hn⟩
  obtain ⟨made, htable, hmade, hdue⟩ := hmakes
  obtain ⟨later, hlater, ht⟩ := h.later
  rw [h.run] at htable hdue
  refine ⟨made ++ later, ?_, fun c hc hbelow => ?_, fun himport => ?_⟩
  · rw [ht, htable, Table.after_append]
  · obtain hc | hc := List.mem_append.mp hc
    · exact hmade c hc hbelow
    · exact absurd hbelow (hlater c hc)
  · refine List.mem_append_left _ (hdue () rfl (List.mem_filterMap.mpr ⟨_, himport, ?_⟩))
    rw [h.dotted]
    rfl

theorem coherent : t.Coherent := by
  obtain ⟨calls, ht, -⟩ := h.exists_calls
  obtain ⟨token, before, hbuilt⟩ := h.built
  rw [ht, hbuilt]
  exact (Table.coherent_run token before).after calls

/-- The import binds the name to itself. -/
theorem bound_to_itself (himport : ⟨s, some (P, s)⟩ ∈ namingsOfModule m.name body) :
    t.binding? (P, s) ≠ none ∧ t.OnlySelf P s := by
  obtain ⟨calls, ht, hcalls, hdue⟩ := h.exists_calls
  rw [ht]
  refine ⟨Table.binding?_name_ne_none (hdue himport), .after (fun k b hk hb => ?_)
    fun c hc hbelow => (hcalls c hc hbelow).1⟩
  rw [h.fresh k hk] at hb
  cases hb

theorem unbound (himport : ⟨s, some (P, s)⟩ ∉ namingsOfModule m.name body) {k : NameKey}
    (hk : Below P s k) : t.binding? k = none := by
  obtain ⟨calls, ht, hcalls, -⟩ := h.exists_calls
  rw [ht, Table.binding?_after fun c hc hname => himport (hcalls c hc (hname ▸ hk)).2]
  exact h.fresh k hk

theorem resolve?_submodule (himport : ⟨s, some (P, s)⟩ ∉ namingsOfModule m.name body) :
    t.resolve? P s = some i ∧ t.met P s = [(P, s)] := by
  have hs : t.binding? (P, s) = none := h.unbound himport ⟨rfl, .inl rfl⟩
  have hleads : t.Leads (P, s) [(P, s)] i :=
    .submodule hs (Dotted.splitLast?_eq_none_iff.mpr h.plain) h.submodule
  exact ⟨(Table.resolve?_submodule hs h.plain).mpr h.submodule,
    Table.met_of_leads hleads (List.nodup_singleton _)⟩

theorem resolve?_member (himport : ⟨s, some (P, s)⟩ ∉ namingsOfModule m.name body) {x : String}
    (hx : '.' ∉ x.toList) {j : Identity} :
    t.resolve? P (s ++ "." ++ x) = some j ↔
      t.resolve? (Dotted.under P s) x = some j ∧ (P, s) ∉ t.met (Dotted.under P s) x := by
  obtain ⟨d, -, hentry, -, hown⟩ := h.coherent.entry_of_binding? h.submodule
  -- the owner that the member is searched in is the submodule
  obtain ⟨hmodule, hqualname⟩ := Prod.mk.inj hown
  obtain ⟨hresolve, hmet⟩ := h.resolve?_submodule himport
  rw [Table.resolve?_member hx (h.unbound himport ⟨rfl, .inr ⟨x, rfl⟩⟩), hmet]
  constructor
  · rintro ⟨i', owner, hhead, hentry', hfound, hapart⟩
    rw [hresolve] at hhead
    cases hhead
    rw [hentry] at hentry'
    cases hentry'
    rw [hmodule, hqualname] at hfound hapart
    exact ⟨hfound, by simpa using hapart⟩
  · rintro ⟨hfound, hapart⟩
    refine ⟨i, d, hresolve, hentry, ?_⟩
    rw [hmodule, hqualname]
    exact ⟨hfound, by simpa using hapart⟩

end BoundByImportOnly

/-- **Imported submodules.**  When a package imports a submodule from itself and binds its name in no
other way, the name denotes nothing in the package, and neither does any member of it.  When it
does not import the submodule either, the name denotes the submodule, and a member of the name is
what it is in the submodule, unless the way to it leads back over the name in the package. -/
theorem submodule_import_lost {m : ModuleSetting} {P s : String} {body : List Statement}
    {f₀ f₁ : Findings} {t : Table} {i : Identity}
    (h : BoundByImportOnly m P s body f₀ f₁ t i) :
    (⟨s, some (P, s)⟩ ∈ namingsOfModule m.name body →
      t.resolve? P s = none ∧ ∀ x, t.resolve? P (s ++ "." ++ x) = none) ∧
    (⟨s, some (P, s)⟩ ∉ namingsOfModule m.name body →
      t.resolve? P s = some i ∧ ∀ x j, '.' ∉ x.toList →
        (t.resolve? P (s ++ "." ++ x) = some j ↔
          t.resolve? (Dotted.under P s) x = some j ∧
            (P, s) ∉ t.met (Dotted.under P s) x)) := by
  refine ⟨fun himport => ?_, fun himport =>
    ⟨(h.resolve?_submodule himport).1, fun x j hx => h.resolve?_member himport hx⟩⟩
  obtain ⟨hself, honly⟩ := h.bound_to_itself himport
  exact ⟨Table.resolve?_below hself honly ⟨rfl, .inl rfl⟩,
    fun x => Table.resolve?_below hself honly ⟨rfl, .inr ⟨x, rfl⟩⟩⟩

/-! ### A package with one module -/

/-- A package that is about to be analysed. -/
def samplePackage : ModuleSetting :=
  { sampleModule with name := ⟨"pkg", true⟩, file := "pkg/__init__.py" }

/-- The relative import of its module `s`. -/
def importS : List Statement := [.importNames ⟨1, 0⟩ none [⟨"s", none⟩] 1]

/-- The findings in the package. -/
def packageFindings : Findings := (outcome (wholeModule samplePackage importS) sampleFindings).2

/-- The table once the module and a function in it are declared. -/
def packageTable : Table :=
  packageFindings.compilation.table.after
    [.declare .nameSpace "pkg.s" "" ⟨"pkg/s.py", 0, 0⟩,
      .declare .function "pkg.s" "f" ⟨"pkg/s.py", 1, 0⟩]

theorem packageTable_boundByImportOnly :
    BoundByImportOnly samplePackage "pkg" "s" importS sampleFindings packageFindings packageTable
      ⟨1, 1⟩ where
  package := rfl
  plain := by decide
  built := ⟨1, [], rfl⟩
  fresh _ _ := rfl
  host := Host.answer_of_calls (R := fun c c' => c.table.Moves _ c'.table)
    (fun _ _ c => .refl _ c.table) fun _ _ c => .refl _ c.table
  names n hn hbelow := by
    have hnames : namingsOfModule samplePackage.name importS =
        [⟨"", none⟩, ⟨"s", some ("pkg", "s")⟩] := by decide +kernel
    rw [hnames] at hn
    obtain rfl | hn := List.mem_cons.mp hn
    · obtain ⟨-, hs | ⟨x, hx⟩⟩ := hbelow
      · simp at hs
      · simpa using congrArg String.toList hx
    · exact List.mem_singleton.mp hn
  run := Prod.ext (by rfl) rfl
  later := by
    have hmodule : ∀ c ∈ ([.declare .nameSpace "pkg.s" "" ⟨"pkg/s.py", 0, 0⟩,
        .declare .function "pkg.s" "f" ⟨"pkg/s.py", 1, 0⟩] : List Table.Call),
        c.name.1 ≠ "pkg" := by decide
    exact ⟨_, fun c hc hbelow => hmodule c hc hbelow.1, rfl⟩
  submodule := by decide +kernel

theorem submodule_import_lost_package :
    BoundByImportOnly samplePackage "pkg" "s" importS sampleFindings packageFindings packageTable
        ⟨1, 1⟩ ∧
      packageTable.resolve? "pkg" "s" = none ∧ packageTable.resolve? "pkg" ("s" ++ "." ++ "f") = none ∧
      packageTable.resolve? "pkg.s" "f" = some ⟨1, 2⟩ := by
  have himport : ⟨"s", some ("pkg", "s")⟩ ∈ namingsOfModule samplePackage.name importS :=
    mem_namingsOfModule (by decide) List.mem_cons_self ⟨List.mem_cons_self, .inl ⟨rfl, rfl⟩⟩
  obtain ⟨hname, hmembers⟩ :=
    (submodule_import_lost packageTable_boundByImportOnly).1 himport
  exact ⟨packageTable_boundByImportOnly, hname, hmembers "f", by decide +kernel⟩

/-- The package does not find the module it imports. -/
theorem submodule_import_not_found :
    ¬ ∀ (m : ModuleSetting) (P s : String) (body : List Statement) (f₀ f₁ : Findings) (t : Table)
      (i : Identity), BoundByImportOnly m P s body f₀ f₁ t i →
      (∃ st ∈ body, st.ImportsFromItself P s) →
        t.resolve? P s = some i ∧ ∀ x j, t.resolve? (Dotted.under P s) x = some j →
          t.resolve? P (s ++ "." ++ x) = some j := by
  intro hfound
  have hs := (hfound _ _ _ _ _ _ _ _ packageTable_boundByImportOnly
    ⟨_, List.mem_cons_self, List.mem_cons_self, .inl ⟨rfl, rfl⟩⟩).1
  have hlost : packageTable.resolve? "pkg" "s" = none := by decide +kernel
  rw [hlost] at hs
  cases hs

end Elaboration

end Marginalia
