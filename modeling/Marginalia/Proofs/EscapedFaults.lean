/-
Faults that no annotation error stands for.

An evaluation wraps what goes wrong in an operation into an annotation error at the place of the
expression.  Two faults get past that: a call that gives an argument a name which the wrapper
uses itself, and a missing key that is an integer of too many digits, for which the sentence of
the annotation error cannot be written.

* `Expr.LetsThrough` — the faults that get past, by the nodes of the expression;
* `Expr.evaluate_contained` — every evaluation answers a value, or ends in an annotation error, or
  in one of these faults;
* `Expr.evaluate_not_contained` — one that ends in the first of them.
-/
import Marginalia.Proofs.AnnotationValues

namespace Marginalia

/-- Whether a node may look for a key: by a subscript, or by what it calls. -/
def Expr.looksForKey : Expr → Bool
  | subscript .. | call .. => true
  | _ => false

/-- The refusal of an argument by a name that is taken. -/
def Fault.argumentTaken (name : String) : Fault :=
  .typeError ("ConstantEvaluator._apply() got multiple values for argument '" ++ name ++ "'")

/-- The faults that get past the annotation errors of an expression, by the node that causes
them. -/
inductive Expr.LetsThrough (e : Expr) : Fault → Prop
  | argument {x : Expr} {name : String} (node : x ∈ e.walk) (given : name ∈ x.argumentNames)
    (reserved : name ∈ reservedKeywords) : e.LetsThrough (.argumentTaken name)
  | key {x : Expr} (node : x ∈ e.walk) (looks : x.looksForKey = true) :
    e.LetsThrough .tooManyDigits

/-- An evaluation stops with a fault of its own only if that is one of some faults. -/
def Evaluation.EscapesOnly {α : Type} (F : Fault → Prop) (x : Evaluation α) : Prop :=
  ∀ c f, (outcome x c).1 = .error (.escaped f) → F f

namespace Setting

open Evaluation

variable {s : Setting} {F : Fault → Prop} {α β : Type}

theorem escapesOnly_bind {x : Evaluation α} {k : α → Evaluation β} (hx : x.EscapesOnly F)
    (hk : ∀ a c c', outcome x c = (.ok a, c') → (k a).EscapesOnly F) :
    (x >>= k).EscapesOnly F := by
  intro c f hf
  obtain hstop | ⟨a, c', hfirst, hsecond⟩ := outcome_bind_error (Prod.ext hf rfl)
  · exact hx c f (congrArg Prod.fst hstop)
  · exact hk a c c' hfirst c' f (congrArg Prod.fst hsecond)

/-- What is blamed on a place does not get past, unless the sentence for it cannot be written. -/
theorem escapesOnly_fail (p : Place) (f : Fault)
    (h : f.isWritable = false → F .tooManyDigits) : (s.fail p f : Evaluation α).EscapesOnly F := by
  unfold Setting.fail
  cases hf : f.isWritable with
  | true => exact fun _ _ h => nomatch h
  | false =>
    intro c g hg
    cases hg
    exact h hf

theorem escapesOnly_fresh (v : Value) : (fresh v).EscapesOnly F := fun _ _ h => nomatch h

theorem escapesOnly_answered (p : Place) (operands : List Held) (r : Except HostStop Value)
    (h : F .tooManyDigits) : (s.answered p operands r).EscapesOnly F := by
  unfold answered
  split
  · refine escapesOnly_bind (fun _ _ h => by cases h) fun v _ _ _ => ?_
    split
    · intro _ _ hstop
      cases hstop
    · exact escapesOnly_fresh v
  · intro _ _ hstop
    cases hstop
  · exact escapesOnly_fail p _ fun _ => h

theorem escapesOnly_invoke (p : Place) (f : Value) (positional : List Held)
    {named : List (String × Value)} (h : F .tooManyDigits)
    (hnamed : ∀ a ∈ named, a.1 ∈ reservedKeywords → F (.argumentTaken a.1)) :
    (s.invoke p f positional named).EscapesOnly F := by
  intro c g hg
  -- the names are looked at before anything is called
  cases hfound : named.find? fun a => reservedKeywords.contains a.1 with
  | some a =>
    unfold invoke at hg
    rw [hfound] at hg
    cases hg
    exact hnamed a (List.mem_of_find?_eq_some hfound)
      (List.contains_iff_mem.mp (List.find?_some hfound :))
  | none =>
    rw [outcome_invoke hfound] at hg
    exact escapesOnly_answered p _ _ h _ g hg

/-- The steps of an evaluation let faults through that its nodes cause. -/
theorem closed_escapesOnly (s : Setting) (e : Expr) :
    s.Closed (fun x => x ∈ e.walk) (EscapesOnly e.LetsThrough) where
  pure _ _ _ h := nomatch h
  bind := escapesOnly_bind
  reject _ _ _ _ h := nomatch h
  blame p f hf := escapesOnly_fail p f fun h => absurd hf (Bool.eq_false_iff.mp h)
  miss node _ := escapesOnly_fail _ _ fun _ => .key node rfl
  asOfNow _ _ _ h := nomatch h
  arranged _ _ _ h := nomatch h
  fresh := escapesOnly_fresh
  invoke node f positional _ hnamed := escapesOnly_invoke _ f positional (.key node rfl)
    fun a ha => .argument node (hnamed a ha)

end Setting

/-- The evaluation of an expression lets through what its nodes cause. -/
theorem Expr.escapesOnly_evaluate (s : Setting) (e : Expr) :
    (e.evaluate s).EscapesOnly e.LetsThrough :=
  Setting.escapesOnly_bind ((s.closed_escapesOnly e).hold e fun _ h => h)
    fun _ _ _ _ _ _ h => nomatch h

/-- **What an evaluation comes to.**  It answers a value or ends in an annotation error, unless a
call in the expression names an argument as the wrapper of calls does, or the expression looks
for a key. -/
theorem Expr.evaluate_contained (s : Setting) (e : Expr) (c : Compilation) :
    (∃ v, (outcome (e.evaluate s) c).1 = .ok v) ∨
    (∃ error, (outcome (e.evaluate s) c).1 = .error (.rejected error)) ∨
    ∃ f, (outcome (e.evaluate s) c).1 = .error (.escaped f) ∧ e.LetsThrough f := by
  have hescapes := e.escapesOnly_evaluate s c
  generalize (outcome (e.evaluate s) c).1 = result at hescapes ⊢
  obtain (error | f) | v := result
  · exact .inr (.inl ⟨error, rfl⟩)
  · exact .inr (.inr ⟨f, rfl, hescapes f rfl⟩)
  · exact .inl ⟨v, rfl⟩

/-- A conversion of an argument that is named as the wrapper names the node of the call. -/
def convertedNode : Expr :=
  .call ⟨1, 0⟩ (.name ⟨1, 0⟩ "int") [] [.given "node" (.literal ⟨1, 9⟩ (.int 1))]

/-- Not every evaluation answers a value or ends in an annotation error. -/
theorem Expr.evaluate_not_contained :
    ¬ ∀ (s : Setting) (e : Expr) (c : Compilation),
      (∃ v, (outcome (e.evaluate s) c).1 = .ok v) ∨
      ∃ error, (outcome (e.evaluate s) c).1 = .error (.rejected error) := by
  intro hclaim
  have hrun : (outcome (convertedNode.evaluate ⟨{}, {}, "m.py"⟩) (.empty 1 Kind.all)).1 =
      .error (.escaped (.argumentTaken "node")) := rfl
  obtain ⟨v, hv⟩ | ⟨error, herror⟩ := hclaim ⟨{}, {}, "m.py"⟩ convertedNode (.empty 1 Kind.all)
  · rw [hrun] at hv
    cases hv
  · rw [hrun] at herror
    cases herror

end Marginalia
