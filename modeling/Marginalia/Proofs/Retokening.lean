/-
Compilations under other tokens.

Which token a table has says nothing about it: the token only keeps the identities that the table
issued apart from those of other tables.  A permutation of tokens gives each table another one, and
different ones to different tables.  The operations of a compilation answer the same afterwards,
with the tokens permuted in the identities that they answer.

* `Compilation.retoken` — a compilation in which the tokens are permuted;
* `Compilation.declare_retoken`, `Compilation.elaborate_retoken` — declaring and marking a site;
* `Table.resolve?_retoken` — a name denotes the same;
* `Elaboration.recordAll_retoken` — recording.
-/
import Mathlib.Tactic
import Marginalia.Project
import Marginalia.Proofs.NameSearch
import Marginalia.Proofs.Recording

namespace Marginalia

variable (σ : Equiv.Perm Int)

/-! ### Other tokens in identities and what holds them -/

def Identity.retoken (i : Identity) : Identity := ⟨σ i.table, i.index⟩

def Record.retoken (r : Record) : Record := { r with owner := r.owner.retoken σ }

def Declaration.retoken (d : Declaration) : Declaration :=
  { d with identity := d.identity.retoken σ }

def Binding.retoken : Binding → Binding
  | declared i => declared (i.retoken σ)
  | sameAs target => sameAs target

/-- A table under another token, with the tokens of all identities in it permuted. -/
def Table.retoken (t : Table) : Table where
  token := σ t.token
  entries := t.entries.map (Declaration.retoken σ)
  bindings := t.bindings.map fun e => (e.1, e.2.retoken σ)

def Store.retoken (s : Store) : Store where
  log := s.log.map (Record.retoken σ)
  elaborated := s.elaborated.map fun e => (e.1.retoken σ, e.2)
  depth := s.depth

/-- A compilation in which the tokens are permuted. -/
def Compilation.retoken (c : Compilation) : Compilation :=
  { c with table := c.table.retoken σ, store := c.store.retoken σ }

/-- Identities and records are all that a refusal can say about tokens. -/
def Cause.retoken : Cause → Cause
  | notLive i => notLive (i.retoken σ)
  | ambiguous t rs => ambiguous t (rs.map (Record.retoken σ))
  | c => c

def AnnotationError.retoken (e : AnnotationError) : AnnotationError :=
  { e with cause := e.cause.retoken σ }

def Diagnostic.retoken (d : Diagnostic) : Diagnostic :=
  { d with problem := match d.problem with
    | .rejected e => .rejected (e.retoken σ)
    | p => p }

def ElaboratedSite.retoken (e : ElaboratedSite) : ElaboratedSite :=
  { e with identity := e.identity.retoken σ }

/-! ### The same tokens -/

theorem Record.retoken_refl (r : Record) : r.retoken (Equiv.refl Int) = r := rfl

theorem Declaration.retoken_refl (d : Declaration) : d.retoken (Equiv.refl Int) = d := rfl

theorem Binding.retoken_refl (b : Binding) : b.retoken (Equiv.refl Int) = b := by
  cases b <;> rfl

theorem Cause.retoken_refl (c : Cause) : c.retoken (Equiv.refl Int) = c := by
  cases c with
  | ambiguous t rs => exact congrArg (ambiguous t) (List.map_id'' Record.retoken_refl rs)
  | _ => rfl

theorem AnnotationError.retoken_refl (e : AnnotationError) : e.retoken (Equiv.refl Int) = e := by
  unfold retoken
  rw [Cause.retoken_refl]

theorem Compilation.retoken_refl (c : Compilation) : c.retoken (Equiv.refl Int) = c := by
  have hentries := List.map_id'' Declaration.retoken_refl c.table.entries
  have hbindings : c.table.bindings.map (fun e => (e.1, e.2.retoken (Equiv.refl Int))) =
      c.table.bindings := List.map_id'' (fun e => by rw [Binding.retoken_refl]) _
  have hlog := List.map_id'' Record.retoken_refl c.store.log
  have helaborated : c.store.elaborated.map (fun e => (e.1.retoken (Equiv.refl Int), e.2)) =
      c.store.elaborated := List.map_id'' (fun _ => rfl) _
  simp only [retoken, Table.retoken, Store.retoken, hentries, hbindings, hlog, helaborated]
  rfl

/-! ### Tables -/

section

variable {i j : Identity}

@[simp] theorem Identity.retoken_inj : i.retoken σ = j.retoken σ ↔ i = j := by
  cases i
  cases j
  simp [retoken]

@[simp] theorem Identity.retoken_beq : (i.retoken σ == j.retoken σ) = (i == j) := by
  rw [Bool.eq_iff_iff, beq_iff_eq, beq_iff_eq, retoken_inj]

end

@[simp] theorem Declaration.hasKey_retoken (d : Declaration) (kind : Kind)
    (module qualname : String) :
    (d.retoken σ).hasKey kind module qualname = d.hasKey kind module qualname := rfl

theorem Declaration.addSite_retoken (d : Declaration) (l : Location) :
    (d.retoken σ).addSite l = (d.addSite l).retoken σ := by
  unfold addSite
  rw [show (d.retoken σ).sites = d.sites from rfl]
  split_ifs <;> rfl

namespace Table

variable (t : Table)

@[simp] theorem binding?_retoken (key : NameKey) :
    (t.retoken σ).binding? key = (t.binding? key).map (Binding.retoken σ) := by
  unfold binding? retoken
  induction t.bindings with
  | nil => rfl
  | cons e es ih =>
    rw [List.map_cons, List.lookup_cons, List.lookup_cons, ih]
    split <;> rfl

theorem bind_retoken (key : NameKey) (b : Binding) :
    (t.retoken σ).bind key (b.retoken σ) = (t.bind key b).retoken σ := by
  simp only [bind, retoken, List.filter_map, List.map_cons]
  rfl

theorem declare_retoken (kind : Kind) (module qualname : String) (site : Location) :
    (t.retoken σ).declare kind module qualname site =
      ((t.declare kind module qualname site).1.retoken σ,
        (t.declare kind module qualname site).2.retoken σ) := by
  -- keys have no token in them, so the same declaration is found
  have hfind : (t.retoken σ).entries.find? (fun d => d.hasKey kind module qualname) =
      (t.entries.find? fun d => d.hasKey kind module qualname).map (Declaration.retoken σ) := by
    rw [retoken, List.find?_map]
    rfl
  unfold declare
  rw [hfind]
  cases t.entries.find? fun d => d.hasKey kind module qualname with
  | some d =>
    have hentries : ((t.retoken σ).entries.map fun e =>
        if e.hasKey kind module qualname then e.addSite site else e) =
          (t.entries.map fun e => if e.hasKey kind module qualname then e.addSite site else e).map
            (Declaration.retoken σ) := by
      simp only [retoken, List.map_map]
      refine List.map_congr_left fun e _ => ?_
      simp only [Function.comp_apply, Declaration.hasKey_retoken, Declaration.addSite_retoken]
      split_ifs <;> rfl
    simp only [Option.map_some, hentries]
    rw [← bind_retoken]
    rfl
  | none =>
    simp only [Option.map_none]
    rw [← bind_retoken]
    simp [retoken, Declaration.retoken, Identity.retoken, Binding.retoken]

theorem addAlias_retoken (module name targetModule targetName : String) :
    (t.retoken σ).addAlias module name targetModule targetName =
      (t.addAlias module name targetModule targetName).retoken σ :=
  bind_retoken σ t _ (.sameAs _)

/-- Tokens are the same after they are permuted only if they were before. -/
@[simp] theorem isLive_retoken (i : Identity) :
    (t.retoken σ).isLive (i.retoken σ) = t.isLive i := by
  have htoken : (σ i.table == σ t.token) = (i.table == t.token) := by
    rw [Bool.eq_iff_iff, beq_iff_eq, beq_iff_eq, σ.injective.eq_iff]
  unfold isLive retoken Identity.retoken
  rw [htoken, List.length_map]

@[simp] theorem entry?_retoken (i : Identity) :
    Table.entry? (t.retoken σ) (i.retoken σ) = ( t.entry? i).map (Declaration.retoken σ) :=
  List.getElem?_map

theorem get_retoken (i : Identity) :
    (t.retoken σ).get (i.retoken σ) =
      ((t.get i).map (Declaration.retoken σ)).mapError (AnnotationError.retoken σ) := by
  unfold get
  rw [isLive_retoken, entry?_retoken]
  cases t.isLive i with
  | false => rfl
  | true => cases t.entry? i <;> rfl

/-! ### Names -/

theorem search_retoken (depth : Nat) (key : NameKey) (visited : List NameKey) :
    (t.retoken σ).search depth key visited =
      ((t.search depth key visited).1.map (Identity.retoken σ),
        (t.search depth key visited).2) := by
  induction depth generalizing key visited with
  | zero => rfl
  | succ depth ih =>
    simp only [search, binding?_retoken]
    split_ifs
    · rfl
    · cases t.binding? key with
      | some b =>
        cases b with
        | declared i => rfl
        | sameAs target => exact ih target _
      | none =>
        simp only [Option.map_none]
        cases Dotted.splitLast? key.2 with
        | none =>
          dsimp only
          cases t.binding? (submoduleKey key) with
          | none => rfl
          | some b => cases b <;> rfl
        | some split =>
          dsimp only
          rw [ih]
          generalize t.search depth (key.1, split.1) (key :: visited) = found
          obtain ⟨_ | i, visited'⟩ := found
          · rfl
          · simp only [Option.map_some, entry?_retoken]
            cases t.entry? i with
            | none => rfl
            | some owner =>
              -- the key of a member does not say which table its owner is from
              have hmember : memberKey (owner.retoken σ) split.2 = memberKey owner split.2 := rfl
              simp only [Option.map_some, hmember]
              split_ifs
              · rfl
              · exact ih _ _

theorem spelled_retoken (key : NameKey) : (t.retoken σ).spelled key = t.spelled key := by
  simp only [spelled, retoken, List.flatMap_map]
  congr 2
  refine List.flatMap_congr fun e _ => ?_
  cases e.2 <;> rfl

theorem keyBound_retoken (name : String) : (t.retoken σ).keyBound name = t.keyBound name := by
  have hlength : (t.retoken σ).entries.length = t.entries.length := List.length_map _
  rw [keyBound_eq _ ("", name), keyBound_eq t ("", name), spelled_retoken, hlength]

theorem resolve?_retoken (module name : String) :
    (t.retoken σ).resolve? module name = (t.resolve? module name).map (Identity.retoken σ) := by
  unfold resolve?
  rw [keyBound_retoken, search_retoken]

end Table

/-! ### Stores and compilations -/

theorem Store.recordsOf_retoken (s : Store) (i : Identity) :
    (s.retoken σ).recordsOf (i.retoken σ) = (s.recordsOf i).map (Record.retoken σ) := by
  unfold recordsOf retoken
  rw [List.filter_map]
  congr 1
  exact List.filter_congr fun r _ => Identity.retoken_beq σ

theorem Store.append_retoken (s : Store) (i : Identity) (type : TypeTerm) (value : Value)
    (location : Location) :
    (s.retoken σ).append (i.retoken σ) type value location =
      ((s.append i type value location).1.retoken σ,
        (s.append i type value location).2.retoken σ) := by
  have hcount : ((s.retoken σ).recordsOf (i.retoken σ)).length = (s.recordsOf i).length := by
    rw [recordsOf_retoken, List.length_map]
  unfold append
  rw [hcount]
  simp [retoken, Record.retoken]

namespace Compilation

variable (c : Compilation)

theorem declare_retoken (kind : Kind) (module qualname : String) (site : Location) :
    (c.retoken σ).declare kind module qualname site =
      ((c.declare kind module qualname site).1.retoken σ,
        (c.declare kind module qualname site).2.retoken σ) := by
  simp only [declare, retoken, Table.declare_retoken]

theorem addAlias_retoken (module name targetModule targetName : String) :
    (c.retoken σ).addAlias module name targetModule targetName =
      (c.addAlias module name targetModule targetName).retoken σ := by
  simp only [addAlias, retoken, Table.addAlias_retoken]

theorem elaborate_retoken (i : Identity) (site : Location) :
    (c.retoken σ).elaborate (i.retoken σ) site =
      ((c.elaborate i site).map fun r => (r.1.retoken σ, r.2)).mapError
        (AnnotationError.retoken σ) := by
  have hmem : (i.retoken σ, site) ∈ (c.retoken σ).store.elaborated ↔
      (i, site) ∈ c.store.elaborated := by
    simp [retoken, Store.retoken]
  rw [elaborate_eq, elaborate_eq]
  simp only [hmem]
  rw [show (c.retoken σ).table = c.table.retoken σ from rfl, Table.isLive_retoken]
  split_ifs <;> rfl

theorem record_retoken (i : Identity) (type : TypeTerm) (value : Value) (location : Location) :
    (c.retoken σ).record (i.retoken σ) type value location =
      ((c.record i type value location).map fun r => (r.1.retoken σ, r.2.retoken σ)).mapError
        (AnnotationError.retoken σ) := by
  unfold record
  rw [show (c.retoken σ).table = c.table.retoken σ from rfl, Table.get_retoken,
    show (c.retoken σ).store = c.store.retoken σ from rfl, Store.append_retoken]
  cases c.table.get i with
  | error e => rfl
  | ok d => cases value.typeOf.equals type.runtimeClass <;> rfl

end Compilation

theorem Elaboration.recordAll_retoken (i : Identity) (lvs : List (Location × Value))
    (c : Compilation) :
    recordAll (i.retoken σ) lvs (c.retoken σ) = (recordAll i lvs c).retoken σ := by
  induction lvs generalizing c with
  | nil => rfl
  | cons lv rest ih =>
    obtain ⟨l, v⟩ := lv
    rw [recordAll, recordAll, Compilation.record_retoken]
    cases c.record i v.typeOf v l with
    | error e => exact ih c
    | ok r => exact ih r.1

end Marginalia
