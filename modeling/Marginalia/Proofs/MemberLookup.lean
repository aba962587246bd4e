/-
Members of names that denote the same declaration.

A member that is not bound itself is looked up in the declaration that its qualifier denotes.
The search remembers the keys it met on the way to that declaration, so a member whose own way
leads over one of them is not found, although it is found from the declaration's own name.

* `Table.resolve?_member_congruent_iff` — what is found is the member of the declaration, and
  it is found exactly if the two ways share no key;
* `Table.resolve?_not_congruent` — a module that imports the package around it: the package is
  found from the module's name and not from the module's name inside the package.
-/
import Marginalia.Proofs.NameSearch

namespace Marginalia

namespace Table

/-- **Member lookup.**  When a name denotes a declaration, a member of the name that is not bound
itself denotes nothing but what the member of the declaration denotes.  The two lookups agree
exactly if the second fails as well, or meets no key that was met on the way to the
declaration. -/
theorem resolve?_member_congruent_iff {token : Int} {calls : List Call} {module head x : String}
    {i : Identity} (hx : '.' ∉ x.toList)
    (hunbound : (run token calls).binding? (module, head ++ "." ++ x) = none)
    (hhead : (run token calls).resolve? module head = some i) :
    ∃ d, (run token calls).get i = .ok d ∧
      (∀ j, (run token calls).resolve? module (head ++ "." ++ x) = some j →
        (run token calls).resolve? d.module (Dotted.under d.qualname x) = some j) ∧
      ((run token calls).resolve? module (head ++ "." ++ x) =
          (run token calls).resolve? d.module (Dotted.under d.qualname x) ↔
        (run token calls).resolve? d.module (Dotted.under d.qualname x) = none ∨
          ((run token calls).met module head).Disjoint
            ((run token calls).met d.module (Dotted.under d.qualname x))) := by
  generalize ht : run token calls = t at *
  obtain ⟨d, hget, hentry, -, -⟩ := (ht ▸ coherent_run token calls).entry_of_resolve? hhead
  -- the owner is the one declaration that the head denotes
  have hmember : ∀ j, t.resolve? module (head ++ "." ++ x) = some j ↔
      t.resolve? d.module (Dotted.under d.qualname x) = some j ∧
        (t.met module head).Disjoint (t.met d.module (Dotted.under d.qualname x)) := by
    intro j
    rw [resolve?_member hx hunbound]
    constructor
    · rintro ⟨i', owner, hhead', hentry', hfound⟩
      rw [hhead] at hhead'
      cases hhead'
      rw [hentry] at hentry'
      cases hentry'
      exact hfound
    · exact fun hfound => ⟨i, d, hhead, hentry, hfound⟩
  refine ⟨d, hget, fun j hj => ((hmember j).mp hj).1, ?_⟩
  cases hfound : t.resolve? d.module (Dotted.under d.qualname x) with
  | none =>
    refine iff_of_true ?_ (.inl rfl)
    rw [Option.eq_none_iff_forall_ne_some]
    intro j hj
    have hmember' := ((hmember j).mp hj).1
    rw [hfound] at hmember'
    cases hmember'
  | some j =>
    rw [hmember, hfound]
    simp

/-- A class with a method, and another name for the class. -/
def classAndAlias : List Call :=
  [.declare .typeDef "m" "Tool" ⟨"m.py", 1, 0⟩, .declare .function "m" "Tool.run" ⟨"m.py", 2, 4⟩,
    .addAlias "m" "Alias" "m" "Tool"]

theorem resolve?_member_congruent_alias :
    (run 1 classAndAlias).binding? ("m", "Alias" ++ "." ++ "run") = none ∧
      (run 1 classAndAlias).resolve? "m" "Alias" = some ⟨1, 0⟩ ∧
      (run 1 classAndAlias).resolve? "m" ("Alias" ++ "." ++ "run") =
        (run 1 classAndAlias).resolve? "m" "Tool.run" ∧
      (run 1 classAndAlias).resolve? "m" "Tool.run" = some ⟨1, 1⟩ := by
  have hunbound : (run 1 classAndAlias).binding? ("m", "Alias" ++ "." ++ "run") = none := by
    decide +kernel
  have hhead : (run 1 classAndAlias).resolve? "m" "Alias" = some ⟨1, 0⟩ := by decide +kernel
  obtain ⟨d, hget, -, hiff⟩ := resolve?_member_congruent_iff (by decide) hunbound hhead
  cases hget
  refine ⟨hunbound, hhead, hiff.mpr (.inr ?_), by decide +kernel⟩
  have hmet : (run 1 classAndAlias).met "m" "Alias" = [("m", "Tool"), ("m", "Alias")] := by
    decide +kernel
  have hmet' : (run 1 classAndAlias).met "m" (Dotted.under "Tool" "run") = [("m", "Tool.run")] := by
    decide +kernel
  show ((run 1 classAndAlias).met "m" "Alias").Disjoint
    ((run 1 classAndAlias).met "m" (Dotted.under "Tool" "run"))
  rw [hmet, hmet']
  simp

/-- A package and a module in it that imports the package. -/
def importsItsPackage : List Call :=
  [.declare .nameSpace "pkg" "" ⟨"pkg/__init__.py", 0, 0⟩,
    .declare .nameSpace "pkg.mod" "" ⟨"pkg/mod.py", 0, 0⟩, .addAlias "pkg.mod" "pkg" "pkg" ""]

/-- The name of the module denotes the module inside it, and the name of the package is found in
the module, but not as a member of the module's name: the way over that name has met it. -/
theorem resolve?_not_congruent :
    ¬ ∀ (token : Int) (calls : List Call) (module head x : String) (i : Identity)
      (d : Declaration), '.' ∉ x.toList →
      (run token calls).binding? (module, head ++ "." ++ x) = none →
      (run token calls).resolve? module head = some i → (run token calls).get i = .ok d →
        (run token calls).resolve? module (head ++ "." ++ x) =
          (run token calls).resolve? d.module (Dotted.under d.qualname x) := by
  intro hcongruent
  have hmember := hcongruent 1 importsItsPackage "pkg.mod" "pkg.mod" "pkg" ⟨1, 1⟩
    ⟨⟨1, 1⟩, .nameSpace, "pkg.mod", "", ⟨"pkg/mod.py", 0, 0⟩, []⟩ (by decide) (by decide +kernel)
    (by decide +kernel) rfl
  have hlost : (run 1 importsItsPackage).resolve? "pkg.mod" ("pkg.mod" ++ "." ++ "pkg") = none := by
    decide +kernel
  have hfound : (run 1 importsItsPackage).resolve? "pkg.mod" "pkg" = some ⟨1, 0⟩ := by
    decide +kernel
  rw [hlost, Dotted.under_empty, hfound] at hmember
  cases hmember

end Table

end Marginalia
