/-
What a name denotes.

`Table.Denotes` says what a name denotes in words of the table alone: what it is bound to, what the
name it is another name for denotes, the submodule of this name, or the member of what its
qualifier denotes.  There is no search in this relation and nothing that remembers keys, so it can
only be compared with the search from outside:

* `Table.Denotes.leads`, `Table.Leads.denotes` — a name denotes what its key leads to along some
  trail;
* `Table.denotes_of_search` — whatever keys were met before and however deep it goes, a search
  finds only what the name denotes;
* `Table.resolution_sound` — a name denotes one identity at most, and a name that is resolved
  denotes the identity that is answered, which is live; keys that are met again can keep an
  identity from being found, but never put another one in its place;
* `Table.alias_transparent` — a new alias is resolved as its target is, because a target that
  leads back over the alias leads nowhere.
-/
import Marginalia.Proofs.MemberLookup

namespace Marginalia

namespace Table

/-- A name in a module denotes an identity.  The last part of a dotted name is a member of what
the parts in front of it denote, and goes on as a name in the module of this owner. -/
inductive Denotes (t : Table) : String → String → Identity → Prop
  | declared {module name : String} {i : Identity}
    (bound : t.binding? (module, name) = some (.declared i)) : Denotes t module name i
  | sameAs {module name targetModule targetName : String} {i : Identity}
    (bound : t.binding? (module, name) = some (.sameAs (targetModule, targetName)))
    (target : Denotes t targetModule targetName i) : Denotes t module name i
  | submodule {module name : String} {i : Identity}
    (unbound : t.binding? (module, name) = none) (plain : '.' ∉ name.toList)
    (bound : t.binding? (Dotted.under module name, "") = some (.declared i)) :
    Denotes t module name i
  | member {module head x : String} {i j : Identity} {owner : Declaration}
    (unbound : t.binding? (module, head ++ "." ++ x) = none) (plain : '.' ∉ x.toList)
    (first : Denotes t module head i) (entry : t.entry? i = some owner)
    (rest : Denotes t owner.module (Dotted.under owner.qualname x) j) :
    Denotes t module (head ++ "." ++ x) j

variable {t : Table} {module name : String} {i j : Identity}

/-! ### The relation and the trails -/

theorem Denotes.leads (h : t.Denotes module name i) : ∃ trail, t.Leads (module, name) trail i := by
  induction h with
  | declared bound => exact ⟨_, .declared bound⟩
  | sameAs bound target ih =>
    rcases ih with ⟨trail, htrail⟩
    exact ⟨_, .sameAs bound htrail⟩
  | submodule unbound plain bound =>
    exact ⟨_, .submodule unbound (Dotted.splitLast?_eq_none_iff.mpr plain) bound⟩
  | @member module head x i j owner unbound plain first entry rest ih ih' =>
    rcases ih with ⟨trail, htrail⟩
    rcases ih' with ⟨trail', htrail'⟩
    exact ⟨_, .member unbound (Dotted.splitLast?_dotted plain head) htrail entry htrail'⟩

theorem Leads.denotes {key : NameKey} {trail : List NameKey} (h : t.Leads key trail i) :
    t.Denotes key.1 key.2 i := by
  induction h with
  | declared bound => exact .declared bound
  | sameAs bound rest ih => exact .sameAs bound ih
  | submodule unbound plain bound =>
    exact .submodule unbound (Dotted.splitLast?_eq_none_iff.mp plain) bound
  | @member key head x trail trail' i j owner unbound dotted first entry rest ih ih' =>
    rcases key with ⟨module, name⟩
    -- the name is the qualifier with its last part behind it
    obtain ⟨rfl, hplain⟩ := Dotted.splitLast?_eq_some dotted
    exact .member unbound hplain ih entry ih'

theorem Denotes.unique (h : t.Denotes module name i) (h' : t.Denotes module name j) : i = j := by
  obtain ⟨trail, htrail⟩ := h.leads
  obtain ⟨trail', htrail'⟩ := h'.leads
  exact (htrail.unique htrail').2

/-! ### The search -/

/-- Whatever was met before, a search finds only what the name denotes. -/
theorem denotes_of_search {depth : Nat} {met met' : List NameKey}
    (h : t.search depth (module, name) met = (some i, met')) : t.Denotes module name i := by
  obtain ⟨trail, hleads, -⟩ := search_eq_some h
  exact hleads.denotes

theorem Coherent.isLive_of_denotes (h : t.Coherent) (hname : t.Denotes module name i) :
    t.isLive i = true := by
  obtain ⟨trail, hleads⟩ := hname.leads
  obtain ⟨k, hk⟩ := hleads.exists_bound
  exact h.isLive_of_binding? hk

theorem resolve_eq_ok_iff : t.resolve module name = .ok i ↔ t.resolve? module name = some i := by
  unfold resolve
  cases t.resolve? module name <;> simp

theorem resolve_eq_error_iff {e : AnnotationError} :
    t.resolve module name = .error e ↔
      t.resolve? module name = none ∧ e = ⟨.unknownName module name, none⟩ := by
  unfold resolve
  cases t.resolve? module name <;> simp [eq_comm]

/-- **Resolving is sound.**  In every table that declarations and aliases build, a name denotes one
identity at most.  A search for it, with any keys met before, finds nothing else, and what it
finds is live; so does resolving, which begins without any keys.  When a name denotes an identity,
resolving answers this identity or that there is no such name. -/
theorem resolution_sound (token : Int) (calls : List Call) (module name : String) :
    (∀ i j, (run token calls).Denotes module name i → (run token calls).Denotes module name j →
      i = j) ∧
    (∀ depth met i met', (run token calls).search depth (module, name) met = (some i, met') →
      (run token calls).Denotes module name i ∧ (run token calls).isLive i = true) ∧
    (∀ i, (run token calls).resolve module name = .ok i →
      (run token calls).Denotes module name i ∧ (run token calls).isLive i = true) ∧
    ∀ i, (run token calls).Denotes module name i →
      (run token calls).resolve module name = .ok i ∨
        (run token calls).resolve module name = .error ⟨.unknownName module name, none⟩ := by
  have hcoherent := coherent_run token calls
  generalize run token calls = t at hcoherent ⊢
  have hsound : ∀ depth met i met', t.search depth (module, name) met = (some i, met') →
      t.Denotes module name i ∧ t.isLive i = true := by
    intro depth met i met' hsearch
    have hdenotes := denotes_of_search hsearch
    exact ⟨hdenotes, hcoherent.isLive_of_denotes hdenotes⟩
  have hresolved : ∀ i, t.resolve? module name = some i →
      t.Denotes module name i ∧ t.isLive i = true := by
    intro i hi
    exact hsound _ [] i _ (Prod.ext hi rfl)
  refine ⟨fun i j hi hj => hi.unique hj, hsound, fun i hi => hresolved i (resolve_eq_ok_iff.mp hi),
    fun i hi => ?_⟩
  cases hname : t.resolve? module name with
  | none => exact .inr (resolve_eq_error_iff.mpr ⟨hname, rfl⟩)
  | some j =>
    rw [hi.unique (hresolved j hname).1]
    exact .inl (resolve_eq_ok_iff.mpr hname)

/-- In a module that imports the package around it, the member of its own name denotes the
package.  It is not resolved, as the name of the package inside the module is met twice. -/
theorem resolution_sound_lost :
    (run 1 importsItsPackage).Denotes "pkg.mod" ("pkg.mod" ++ "." ++ "pkg") ⟨1, 0⟩ ∧
      (run 1 importsItsPackage).resolve "pkg.mod" ("pkg.mod" ++ "." ++ "pkg") =
        .error ⟨.unknownName "pkg.mod" ("pkg.mod" ++ "." ++ "pkg"), none⟩ ∧
      (run 1 importsItsPackage).resolve "pkg.mod" "pkg.mod" = .ok ⟨1, 1⟩ ∧
      (run 1 importsItsPackage).Denotes "pkg.mod" "pkg.mod" ⟨1, 1⟩ ∧
      (run 1 importsItsPackage).isLive ⟨1, 1⟩ = true := by
  have hmodule : (run 1 importsItsPackage).resolve "pkg.mod" "pkg.mod" = .ok ⟨1, 1⟩ :=
    resolve_eq_ok_iff.mpr (by decide +kernel)
  obtain ⟨-, -, hresolved, -⟩ := resolution_sound 1 importsItsPackage "pkg.mod" "pkg.mod"
  obtain ⟨hdenotes, hlive⟩ := hresolved ⟨1, 1⟩ hmodule
  have halias : (run 1 importsItsPackage).binding? ("pkg.mod", "pkg") =
      some (.sameAs ("pkg", "")) := by
    decide +kernel
  have htarget : (run 1 importsItsPackage).binding? ("pkg", "") = some (.declared ⟨1, 0⟩) := by
    decide +kernel
  have hpackage : (run 1 importsItsPackage).Denotes "pkg.mod" "pkg" ⟨1, 0⟩ :=
    .sameAs halias (.declared htarget)
  have hmember : (run 1 importsItsPackage).Denotes "pkg.mod" ("pkg.mod" ++ "." ++ "pkg") ⟨1, 0⟩ :=
    .member (by decide +kernel) (by decide) hdenotes rfl hpackage
  obtain ⟨-, -, -, hfound⟩ :=
    resolution_sound 1 importsItsPackage "pkg.mod" ("pkg.mod" ++ "." ++ "pkg")
  rcases hfound ⟨1, 0⟩ hmember with hok | herror
  · have hlost : (run 1 importsItsPackage).resolve? "pkg.mod"
        ("pkg.mod" ++ "." ++ "pkg") = none := by
      decide +kernel
    rw [resolve_eq_ok_iff, hlost] at hok
    cases hok
  · exact ⟨hmember, herror, hmodule, hdenotes, hlive⟩

/-! ### New aliases -/

/-- An alias that is resolved meets the keys its target meets, and its own key in front. -/
theorem met_of_sameAs {targetModule targetName : String}
    (h : t.binding? (module, name) = some (.sameAs (targetModule, targetName)))
    (hname : t.resolve? module name = some i) :
    t.met module name = t.met targetModule targetName ++ [(module, name)] := by
  obtain ⟨trail, hleads, hnodup⟩ := resolve?_eq_some_iff.mp hname
  rw [met_of_leads hleads hnodup]
  cases hleads with
  | sameAs bound rest =>
    rw [h] at bound
    cases bound
    rw [met_of_leads rest hnodup.of_cons, List.reverse_cons]
  | _ => simp_all

/-- **Aliases are transparent.**  In every table that declarations and aliases build, when a name
is made another name for a target, then the name and the target are resolved to the same identity,
or neither is resolved.  The target need not be declared, it can be a member or a submodule, and it
can lead back to the name; when they are resolved, the search for the name is that for the target
behind one key more. -/
theorem alias_transparent (token : Int) (calls : List Call) (module name targetModule
    targetName : String) :
    let t := (run token calls).addAlias module name targetModule targetName
    (∃ i, t.resolve module name = .ok i ∧ t.resolve targetModule targetName = .ok i ∧
      t.met module name = t.met targetModule targetName ++ [(module, name)]) ∨
    (t.resolve module name = .error ⟨.unknownName module name, none⟩ ∧
      t.resolve targetModule targetName = .error ⟨.unknownName targetModule targetName, none⟩) := by
  intro t
  have hbound : t.binding? (module, name) = some (.sameAs (targetModule, targetName)) :=
    ((run token calls).binding?_call (.addAlias module name targetModule targetName) _).trans
      (if_pos rfl)
  have hsame : t.resolve? module name = t.resolve? targetModule targetName :=
    resolve?_of_sameAs hbound
  cases hname : t.resolve? module name with
  | none =>
    right
    rw [resolve_eq_error_iff, resolve_eq_error_iff, ← hsame]
    exact ⟨⟨hname, rfl⟩, hname, rfl⟩
  | some i =>
    left
    refine ⟨i, resolve_eq_ok_iff.mpr hname, ?_, met_of_sameAs hbound hname⟩
    rw [resolve_eq_ok_iff, ← hsame]
    exact hname

end Table

end Marginalia
