/-
What the surroundings offer to expressions.

A `Host` names values and functions.  Its functions are called with values and a
compilation, which they may change.  Whatever else can be called and is not written out here,
such as most methods of the classes of the language, is for a `Language` to carry out; it also
says in which order the members of a set are gone through.
-/
import Marginalia.Compilation
import Marginalia.Value.Construct

namespace Marginalia

/-- Why a call has no answer. -/
inductive HostStop where
  | rejected (e : AnnotationError)
  | failed (f : Fault)

/-- The order in which the members of a set are gone through, which can be another one at each
step of evaluation. -/
structure Arrangement where
  order : Nat → List Value → List Value
  perm : ∀ n vs, (order n vs).Perm vs

namespace Arrangement

/-- The natural number a value is, if it is one. -/
def natural? : Value → Option Nat
  | .int n => if n ≥ 0 then some n.toNat else none
  | _ => none

/-- Natural numbers in ascending order, other members as they come. -/
def ascend (vs : List Value) : List Value :=
  match vs.mapM natural? with
  | some ns => (ns.mergeSort (· ≤ ·)).map fun (n : Nat) => .int n
  | none => vs

theorem eq_map_of_mapM_natural {vs : List Value} {ns : List Nat}
    (h : vs.mapM natural? = some ns) : vs = ns.map fun (n : Nat) => .int n := by
  induction vs generalizing ns with
  | nil =>
    cases h
    rfl
  | cons v vs ih =>
    rw [List.mapM_cons, Option.bind_eq_bind, Option.bind_eq_some_iff] at h
    obtain ⟨n, hn, h⟩ := h
    rw [Option.bind_eq_bind, Option.bind_eq_some_iff] at h
    obtain ⟨rest, hrest, h⟩ := h
    cases h
    have hv : v = .int n := by
      cases v with
      | int k =>
        rw [natural?] at hn
        split at hn
        · rename_i hk
          cases hn
          rw [Int.toNat_of_nonneg hk]
        · cases hn
      | _ => cases hn
    rw [ih hrest, hv, List.map_cons]

/-- Members of sets of natural numbers in ascending order, those of other sets in the order in
which they were put there. -/
def ascending : Arrangement where
  order _ vs := ascend vs
  perm _ vs := by
    unfold ascend
    split
    · rename_i ns hns
      exact ((List.mergeSort_perm ns _).map _).trans (.of_eq (eq_map_of_mapM_natural hns).symm)
    · exact .refl vs

end Arrangement

/-- What the language leaves to its releases, to its runs and to its own library. -/
structure Language where
  /-- Classes, functions and type aliases can have type parameters. -/
  typeParameters : Bool := true
  arrangement : Arrangement := .ascending
  /-- Calls of methods and classes that are not written out here.  They may call what they are
  given and change objects; unless something else is said, they are refused. -/
  call : Value → Arguments → Compilation → Except HostStop Value × Compilation :=
    fun f _ c => (.error (.failed (.typeError (match f with
      | .method _ n => n ++ "() is not offered here"
      | .type t => "cannot create '" ++ t.shortName ++ "' instances"
      | f => "'" ++ f.className ++ "' object is not callable"))), c)

/-- What the surroundings offer to expressions. -/
structure Host where
  /-- Names that stand for values unless the scope says otherwise. -/
  names : List (String × Value) := []
  /-- What record classes accept in their fields. -/
  accepts : RecordClass → List Value → Except Fault Unit := fun _ _ => .ok ()
  /-- The functions offered; they may look at the compilation and change it. -/
  call : String → Arguments → Compilation → Except HostStop Value × Compilation :=
    fun n _ c => (.error (.failed (.typeError ("'" ++ n ++ "' cannot be called"))), c)
  language : Language := {}

namespace Host

/-- Calls a function of the host, or something else that is not written out here. -/
def answer (h : Host) (f : Value) : Arguments → Compilation → Except HostStop Value × Compilation :=
  match f with
  | .function n => h.call n
  | f => h.language.call f

/-- The order in which the members of a set are gone through that is made or changed now. -/
def orderIn (h : Host) (c : Compilation) : List Value → List Value :=
  h.language.arrangement.order (c.created + 1)

/-- Calls a class, which makes a value unless that is left to the language. -/
def callClass (h : Host) (t : TypeTerm) (a : Arguments) (c : Compilation) :
    Except HostStop Value × Compilation :=
  match Value.callClass? h.accepts t a with
  | some r =>
    ((r.map fun v => v.arranged (h.orderIn c)).mapError .failed, c)
  | none => h.answer (.type t) a c

/-- Calls a method; one that changes its object leaves behind what the object is then. -/
def callMethod (h : Host) (self : Value) (name : String) (a : Arguments) (c : Compilation) :
    Except HostStop Value × Compilation :=
  match self.changeBound? name a with
  | some (.ok r) =>
    let object := r.object.arranged (h.orderIn c)
    (.ok r.answer, { c with changed := c.changed.put r.mark object })
  | some (.error f) => (.error (.failed f), c)
  | none =>
    match self.callBound? name a with
    | some r => (r.mapError .failed, c)
    | none => h.answer (.method self name) a c

/-- Calls a value. -/
def callValue (h : Host) (f : Value) (a : Arguments) (c : Compilation) :
    Except HostStop Value × Compilation :=
  match f with
  | .type t => h.callClass t a c
  | .method v n => h.callMethod v n a c
  | f => h.answer f a c

end Host

end Marginalia
