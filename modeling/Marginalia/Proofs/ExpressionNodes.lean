/-
The nodes of an expression.

The nodes are listed level by level.  As far as their order does not matter they are the
expression itself and the nodes of its parts: what holds of all nodes of an expression holds of
all nodes of every part of it.

* `Levels.flatten_beside`, `Expr.walk_call`, `Expr.walk_subscript`, `Expr.walk_tuple` — the nodes
  up to their order;
* `Levels.All` — what holds of every node.
-/
import Mathlib.Tactic
import Marginalia.Source.Expr

namespace Marginalia

namespace Levels

theorem flatten_beside (ls ms : Levels) :
    (ls.beside ms).flatten.Perm (ls.flatten ++ ms.flatten) := by
  induction ls generalizing ms with
  | nil => simp [beside]
  | cons l ls ih =>
    cases ms with
    | nil => simp [beside]
    | cons m ms =>
      rw [beside, List.flatten_cons, List.flatten_cons, List.flatten_cons, List.append_assoc,
        List.append_assoc]
      -- what is below `l` changes places with `m`, which is why only the order is lost
      refine List.Perm.append_left l (((ih ms).append_left m).trans ?_)
      rw [← List.append_assoc, ← List.append_assoc]
      exact List.perm_append_comm.append_right _

theorem flatten_under (ls : Levels) : ls.under.flatten = ls.flatten := by
  unfold under
  cases ls <;> simp

/-! ### What holds of every node -/

/-- Something holds of every node. -/
def All (Q : Expr → Prop) (ls : Levels) : Prop := ∀ x ∈ ls.flatten, Q x

variable {Q : Expr → Prop} {ls ms : Levels}

@[simp] theorem all_cons {e : Expr} : All Q ([e] :: ls) ↔ Q e ∧ ls.All Q := by
  simp [All]

@[simp] theorem all_beside : (ls.beside ms).All Q ↔ ls.All Q ∧ ms.All Q := by
  simp only [All, (flatten_beside ls ms).mem_iff, List.mem_append, or_imp, forall_and]

@[simp] theorem all_under : ls.under.All Q ↔ ls.All Q := by
  rw [All, flatten_under, All]

end Levels

/-! ### The nodes up to their order -/

theorem flatten_levelsOfAll (es : List Expr) :
    (levelsOfAll es).flatten.Perm (es.flatMap Expr.walk) := by
  induction es with
  | nil => rfl
  | cons e es ih => exact (Levels.flatten_beside _ _).trans (ih.append_left _)

theorem flatten_levelsOfKeywords (ks : List Keyword) :
    (levelsOfKeywords ks).flatten.Perm ((ks.map Keyword.value).flatMap Expr.walk) := by
  induction ks with
  | nil => rfl
  | cons k ks ih =>
    cases k <;> exact (Levels.flatten_beside _ _).trans (ih.append_left _)

namespace Expr

/-- An expression is a node of its own. -/
theorem mem_walk_self (e : Expr) : e ∈ e.walk := by
  cases e <;> simp [walk, levels]

theorem of_all_levels {Q : Expr → Prop} {e : Expr} (h : e.levels.All Q) : Q e :=
  h e e.mem_walk_self

/-- What is called, and what it is called with. -/
def callParts : Expr → List Expr
  | call _ f es ks => f :: (es ++ ks.map Keyword.value)
  | _ => []

theorem walk_call (p : Place) (f : Expr) (es : List Expr) (ks : List Keyword) :
    (call p f es ks).walk.Perm (call p f es ks :: (call p f es ks).callParts.flatMap walk) := by
  refine List.Perm.cons _ ((Levels.flatten_beside _ _).trans ?_)
  rw [callParts, List.flatMap_cons, List.flatMap_append]
  refine List.Perm.append_left _ ((Levels.flatten_beside _ _).trans ?_)
  rw [Levels.flatten_under]
  exact (flatten_levelsOfAll es).append (flatten_levelsOfKeywords ks)

theorem walk_tuple (p : Place) (es : List Expr) :
    (tuple p es).walk.Perm (tuple p es :: es.flatMap walk) :=
  List.Perm.cons _ (flatten_levelsOfAll es)

theorem walk_subscript (p : Place) (a b : Expr) :
    (subscript p a b).walk.Perm (subscript p a b :: [a, b].flatMap walk) := by
  refine List.Perm.cons _ ((Levels.flatten_beside _ _).trans ?_)
  simp [walk]

end Expr

end Marginalia
