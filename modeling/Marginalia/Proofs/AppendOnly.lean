/-
Records are kept as they were made.

In a session of any number of compilations, after any actions, carried out or refused:

* `Compilation.Consistent` — each record of a log belongs to an identity that the
  compilation's own table issued, holds a value of the class that its type names, and
  counts the records of its owner before it; every operation keeps this
  (`Compilation.Consistent.perform`);
* `Session.Extends` — from one state to a later one, tables only grow and logs are only
  appended to (`Session.extends_after`);
* `Session.records_append_only` — both together, in terms of what a compilation answers
  when it is asked for the annotations of an identity.
-/
import Marginalia.Proofs.Operation

namespace Marginalia

namespace Compilation

variable {c : Compilation}

/-- The joint invariant of a table and the log beside it. -/
structure Consistent (c : Compilation) : Prop where
  numbered : c.table.Numbered
  owned : ∀ r ∈ c.store.log, c.table.isLive r.owner = true
  ofClass : ∀ r ∈ c.store.log, r.value.typeOf.equals r.type.runtimeClass = true
  counted : ∀ (i : Identity) (n : Nat) (r : Record),
    (c.store.recordsOf i)[n]? = some r → r.ordinal = n

theorem consistent_empty (token : Int) (annotatable : List Kind) :
    (empty token annotatable).Consistent where
  numbered := Table.numbered_empty token
  owned := by
    intro r hr
    cases hr
  ofClass := by
    intro r hr
    cases hr
  counted := by
    intro i n r hr
    simp [empty, Store.recordsOf] at hr

theorem Consistent.perform (h : c.Consistent) (op : Operation) :
    (c.perform op).1.Consistent := by
  have hgrows := perform_grows (c := c) op
  have hnumbered := perform_numbered h.numbered op
  obtain hlog | ⟨r, hadmits, hlog⟩ := perform_log (c := c) op
  · refine ⟨hnumbered, ?_, ?_, ?_⟩
    · intro x hx
      rw [hlog] at hx
      exact hgrows.isLive (h.owned x hx)
    · rw [hlog]
      exact h.ofClass
    · unfold Store.recordsOf
      rw [hlog]
      exact h.counted
  · refine ⟨hnumbered, ?_, ?_, ?_⟩
    · intro x hx
      rw [hlog, List.mem_append, List.mem_singleton] at hx
      rcases hx with hx | rfl
      · exact hgrows.isLive (h.owned x hx)
      · exact hgrows.isLive hadmits.isLive
    · intro x hx
      rw [hlog, List.mem_append, List.mem_singleton] at hx
      rcases hx with hx | rfl
      · exact h.ofClass x hx
      · exact hadmits.ofClass
    · intro i n x hx
      rw [Store.recordsOf_of_log_eq hlog] at hx
      rcases Nat.lt_or_ge n (c.store.recordsOf i).length with hn | hn
      · rw [List.getElem?_append_left hn] at hx
        exact h.counted i n x hx
      · -- only the new record can stand behind the old ones
        rw [List.getElem?_append_right hn] at hx
        split at hx
        · rename_i howner
          rw [List.getElem?_singleton] at hx
          split at hx
          · cases hx
            rw [hadmits.ordinal, howner]
            omega
          · cases hx
        · cases hx

theorem perform_log_prefix (op : Operation) :
    c.store.log <+: (c.perform op).1.store.log := by
  obtain hlog | ⟨r, -, hlog⟩ := perform_log (c := c) op
  · rw [hlog]
  · rw [hlog]
    exact List.prefix_append _ _

end Compilation

namespace Session

variable {s s' s'' : Session}

/-- Every compilation is consistent, and carries the token of its place. -/
def Consistent (s : Session) : Prop :=
  ∀ (k : Nat) (c : Compilation), s.compilations[k]? = some c →
    c.Consistent ∧ c.table.token = k + 1

/-- A later state of a session. -/
def Extends (s s' : Session) : Prop :=
  ∀ (k : Nat) (c : Compilation), s.compilations[k]? = some c →
    ∃ c', s'.compilations[k]? = some c' ∧ c.table.Grows c'.table ∧
      c.store.log <+: c'.store.log

theorem Extends.refl (s : Session) : s.Extends s :=
  fun _ c hc => ⟨c, hc, Table.Grows.refl _, List.prefix_rfl⟩

theorem Extends.trans (h : s.Extends s') (h' : s'.Extends s'') : s.Extends s'' := by
  intro k c hc
  obtain ⟨c', hc', hgrows, hlog⟩ := h k c hc
  obtain ⟨c'', hc'', hgrows', hlog'⟩ := h' k c' hc'
  exact ⟨c'', hc'', hgrows.trans hgrows', hlog.trans hlog'⟩

/-! ### One action -/

theorem Consistent.act (h : s.Consistent) (a : Action) : (s.act a).Consistent := by
  intro k c hc
  obtain hc | ⟨annotatable, -, rfl⟩ | ⟨op, c₀, hc₀, rfl⟩ := act_cases hc
  · exact h k c hc
  · exact ⟨Compilation.consistent_empty _ _, rfl⟩
  · obtain ⟨hconsistent, htoken⟩ := h k c₀ hc₀
    exact ⟨hconsistent.perform op, (Compilation.perform_grows op).1.trans htoken⟩

theorem extends_act (s : Session) (a : Action) : s.Extends (s.act a) := by
  intro k c hc
  cases a with
  | start annotatable =>
    have hk : k < s.compilations.length := (List.getElem?_eq_some_iff.mp hc).choose
    refine ⟨c, ?_, Table.Grows.refl _, List.prefix_rfl⟩
    rw [Session.act, List.getElem?_append_left hk]
    exact hc
  | on place op =>
    refine ⟨_, by rw [Session.act, List.getElem?_modify, hc]; rfl, ?_, ?_⟩
    · split
      · exact Compilation.perform_grows op
      · exact Table.Grows.refl _
    · split
      · exact Compilation.perform_log_prefix op
      · exact List.prefix_rfl

/-! ### Any number of actions -/

theorem Consistent.after (h : s.Consistent) (actions : List Action) :
    (s.after actions).Consistent := by
  induction actions generalizing s with
  | nil => exact h
  | cons a rest ih => exact ih (h.act a)

theorem extends_after (s : Session) (actions : List Action) : s.Extends (s.after actions) := by
  induction actions generalizing s with
  | nil => exact Extends.refl s
  | cons a rest ih => exact (extends_act s a).trans (ih (s.act a))

theorem consistent_run (actions : List Action) : (run actions).Consistent := by
  refine Consistent.after ?_ actions
  intro k c hc
  simp at hc

/-- An identity is live in one compilation of a consistent session only. -/
theorem Consistent.place_unique (h : s.Consistent) {i : Identity} {j k : Nat}
    {c c' : Compilation} (hc : s.compilations[j]? = some c) (hc' : s.compilations[k]? = some c')
    (hi : c.table.isLive i = true) (hi' : c'.table.isLive i = true) : j = k := by
  -- the identity carries the token of both tables, and tokens tell places apart
  have htoken := (Table.isLive_iff.mp hi).1
  have htoken' := (Table.isLive_iff.mp hi').1
  rw [(h j c hc).2] at htoken
  rw [(h k c' hc').2] at htoken'
  omega

/-- **The annotations of an identity are append-only.**  In every state of a session, each
record that is answered for a live identity belongs to it, stands at its ordinal and holds
a value of the class its type names; an identity with records is live in the compilation
that keeps them and in no other one; and what was answered in an earlier state is the
beginning of what is answered now. -/
theorem records_append_only (before later : List Action) :
    (∀ (k : Nat) (c : Compilation) (i : Identity),
      (run (before ++ later)).compilations[k]? = some c → c.table.isLive i = true →
      ∃ rs, c.annotations i = .ok rs ∧ ∀ (n : Nat) (r : Record), rs[n]? = some r →
        r.owner = i ∧ r.ordinal = n ∧ r.value.typeOf.equals r.type.runtimeClass = true) ∧
    (∀ (j k : Nat) (c c' : Compilation) (i : Identity),
      (run (before ++ later)).compilations[j]? = some c →
      (run (before ++ later)).compilations[k]? = some c' →
      c.store.recordsOf i ≠ [] → (c'.table.isLive i = true ↔ j = k)) ∧
    (∀ (k : Nat) (c : Compilation) (i : Identity),
      (run before).compilations[k]? = some c → c.table.isLive i = true →
      ∃ c' rs rs', (run (before ++ later)).compilations[k]? = some c' ∧
        c'.table.isLive i = true ∧ c.annotations i = .ok rs ∧ c'.annotations i = .ok rs' ∧
        rs <+: rs') := by
  have hnow := consistent_run (before ++ later)
  refine ⟨?_, ?_, ?_⟩
  · intro k c i hc hlive
    refine ⟨c.store.recordsOf i, by rw [Compilation.annotations_eq, if_pos hlive], ?_⟩
    intro n r hr
    obtain ⟨hlog, howner⟩ := c.store.mem_recordsOf.mp (List.mem_of_getElem? hr)
    have hconsistent := (hnow k c hc).1
    exact ⟨howner, hconsistent.counted i n r hr, hconsistent.ofClass r hlog⟩
  · intro j k c c' i hc hc' hrecords
    obtain ⟨r, hr⟩ := List.exists_mem_of_ne_nil _ hrecords
    obtain ⟨hlog, rfl⟩ := c.store.mem_recordsOf.mp hr
    have hlive := (hnow j c hc).1.owned r hlog
    constructor
    · exact fun hlive' => hnow.place_unique hc hc' hlive hlive'
    · rintro rfl
      rw [hc] at hc'
      cases hc'
      exact hlive
  · intro k c i hc hlive
    have hextends := extends_after (run before) later
    rw [← run_append] at hextends
    obtain ⟨c', hc', hgrows, hlog⟩ := hextends k c hc
    have hlive' := hgrows.isLive hlive
    exact ⟨c', _, _, hc', hlive', by rw [Compilation.annotations_eq, if_pos hlive],
      by rw [Compilation.annotations_eq, if_pos hlive'], Store.recordsOf_prefix hlog i⟩

/-- Two compilations; in the first, a declaration is annotated under an alias of a class. -/
def sampleOpening : List Action :=
  [.start Kind.all, .start Kind.all,
    .on 0 (.declare .function "m" "f" ⟨"m.py", 1, 0⟩),
    .on 0 (.record ⟨1, 0⟩ (.aliased "Port" (.builtin .int)) (.int 7) ⟨"m.py", 1, 0⟩)]

/-- It is annotated three more times: in the second compilation, during an evaluation, and
after it was declared again.  Only the last of these is not refused. -/
def sampleSequel : List Action :=
  [.on 1 (.annotate ⟨1, 0⟩ (.int 8) ⟨"m.py", 2, 0⟩ none), .on 0 .enter,
    .on 0 (.annotate ⟨1, 0⟩ (.int 8) ⟨"m.py", 2, 0⟩ none), .on 0 .leave,
    .on 0 (.declare .function "m" "f" ⟨"m.py", 3, 0⟩),
    .on 0 (.annotate ⟨1, 0⟩ (.int 9) ⟨"m.py", 3, 0⟩ none)]

theorem records_append_only_redeclared :
    ∃ c c' rs rs', (run sampleOpening).compilations[0]? = some c ∧
      (run (sampleOpening ++ sampleSequel)).compilations[0]? = some c' ∧
      c.annotations ⟨1, 0⟩ = .ok rs ∧ c'.annotations ⟨1, 0⟩ = .ok rs' ∧ rs <+: rs' ∧
      rs.length = 1 ∧ rs'.length = 2 := by
  obtain ⟨c', rs, rs', hc', -, hrs, hrs', hprefix⟩ :=
    (records_append_only sampleOpening sampleSequel).2.2 0 _ ⟨1, 0⟩ rfl rfl
  refine ⟨_, c', rs, rs', rfl, hc', hrs, hrs', hprefix, ?_, ?_⟩
  · cases hrs
    rfl
  · cases hc'
    cases hrs'
    rfl

end Session

end Marginalia
