/-
How far equivalence is an equivalence relation.

Equivalence of structural values is reflexive and transitive.  Frozensets are compared from
one side only, which is the same as comparing them from both as long as neither holds two
equivalent members.  Sets that tell their members apart by `==` can do so: each number that
is none is a member of its own, although all with the same bits are equivalent.

* `Value.equivalent_laws` — reflexivity, transitivity, and exactly which values have the
  equivalences that can be turned around;
* `Value.equivalent_not_symmetric` — two frozensets of numbers, one of which is equivalent
  to the other and not the other way round.
-/
import Marginalia.Proofs.Decoy

namespace Marginalia

namespace Value

/-- **Equivalence of structural values.**  It is reflexive and transitive, and what a value is
equivalent to is equivalent to it in turn exactly when no frozenset in the value holds two
equivalent members; between such values the order of the comparison does not matter. -/
theorem equivalent_laws {a : Value} (hs : a.isStructural = true) (hw : a.WellFormed) :
    equivalent a a = true ∧
      (∀ b c, equivalent a b = true → equivalent b c = true → equivalent a c = true) ∧
      (a.Separated ↔ ∀ b, b.isStructural = true → b.WellFormed →
        equivalent a b = true → equivalent b a = true) ∧
      (a.Separated → ∀ b, b.isStructural = true → b.WellFormed → b.Separated →
        equivalent a b = equivalent b a) := by
  have ha : IsConstant a := isConstant_iff.mpr ⟨hs, hw⟩
  refine ⟨equivalent_refl ha, fun b c => equivalent_trans ha, ?_, ?_⟩
  · rw [separated_iff ha]
    constructor
    · intro hsymm b hbs hbw
      exact hsymm b (isConstant_iff.mpr ⟨hbs, hbw⟩)
    · intro hsymm b hb
      exact hsymm b hb.isStructural hb.wellFormed
  · intro hsep b hbs hbw hsep'
    have hb : IsConstant b := isConstant_iff.mpr ⟨hbs, hbw⟩
    rw [Bool.eq_iff_iff]
    exact ⟨equivalent_symm ha hsep, equivalent_symm hb hsep'⟩

/-! ### Numbers that equal nothing -/

/-- The quiet number that is none, made as often as there are marks. -/
def quiet (m : Mark) : Value := float ⟨0x7ff8000000000000⟩ m

/-- Two such numbers. -/
def quietTwice : Value := frozenset [quiet 1, quiet 2]

/-- One of them and the number one. -/
def quietAndOne : Value := frozenset [quiet 3, float ⟨0x3ff0000000000000⟩ 4]

theorem quietTwice_isConstant : IsConstant quietTwice :=
  .frozenset (by simp [quiet, IsConstant.float]) (by decide +kernel)

theorem quietAndOne_isConstant : IsConstant quietAndOne :=
  .frozenset (by simp [quiet, IsConstant.float]) (by decide +kernel)

theorem quietTwice_equivalent : equivalent quietTwice quietAndOne = true := by decide

theorem quietAndOne_not_equivalent : equivalent quietAndOne quietTwice = false := by decide

theorem quietAndOne_separated : quietAndOne.Separated := by
  refine ⟨?_, ?_⟩
  · show List.Pairwise (fun v w => equivalent w v = false) _
    decide
  · simp only [quietAndOne, quiet, parts, List.forall_mem_cons]
    exact ⟨⟨trivial, by simp [parts]⟩, ⟨trivial, by simp [parts]⟩, by simp⟩

/-- Both members of the first set have the same partner in the second, whose other member
has none. -/
theorem equivalent_not_symmetric :
    ¬ ∀ a b : Value, a.isStructural = true → a.WellFormed → b.isStructural = true →
      b.WellFormed → equivalent a b = equivalent b a := by
  intro hsymm
  have hswap := hsymm quietTwice quietAndOne quietTwice_isConstant.isStructural
    quietTwice_isConstant.wellFormed quietAndOne_isConstant.isStructural
    quietAndOne_isConstant.wellFormed
  rw [quietTwice_equivalent, quietAndOne_not_equivalent] at hswap
  cases hswap

/-- The laws at the two sets: only the second is separated, and whatever it is equivalent to
is equivalent to it. -/
theorem equivalent_laws_quiet :
    quietAndOne.isStructural = true ∧ quietAndOne.WellFormed ∧
      (∀ b, b.isStructural = true → b.WellFormed →
        equivalent quietAndOne b = true → equivalent b quietAndOne = true) ∧
      quietTwice.isStructural = true ∧ quietTwice.WellFormed ∧ ¬ quietTwice.Separated := by
  have hone := quietAndOne_isConstant
  have htwice := quietTwice_isConstant
  have hlaws := equivalent_laws hone.isStructural hone.wellFormed
  have hlaws' := equivalent_laws htwice.isStructural htwice.wellFormed
  refine ⟨hone.isStructural, hone.wellFormed, hlaws.2.2.1.mp quietAndOne_separated,
    htwice.isStructural, htwice.wellFormed, fun hsep => ?_⟩
  have hback := hlaws'.2.2.1.mp hsep quietAndOne hone.isStructural hone.wellFormed
    quietTwice_equivalent
  rw [quietAndOne_not_equivalent] at hback
  cases hback

end Value

end Marginalia
