/-
The one annotation of a type.

The query compares the first of the records under a type with each later one, and only in
that direction.  What it is meant to answer speaks of all pairs of them (`Answers`).

* `Compilation.singleOfType_spec` — the query answers what it is meant to exactly when the
  records that the first is equivalent to are equivalent to the first; so whenever the value
  of the first is separated, and then the order of the records does not matter;
* `Compilation.singleOfType_one_sided` — two annotations that are not equivalent to each
  other, of which the query answers the first.
-/
import Marginalia.Proofs.EquivalenceRelation
import Marginalia.Proofs.Operation

namespace Marginalia

open Value

/-- All values of some records are equivalent to each other. -/
def Alike (rs : List Record) : Prop :=
  ∀ r ∈ rs, ∀ r' ∈ rs, equivalent r.value r'.value = true

/-- What the query for the one value under a type is meant to answer, given the records
under the type: nothing, the value that all of them have, or a refusal that lists them. -/
def Answers (type : TypeTerm) :
    List Record → Except AnnotationError (Option Value) → Prop
  | [], answer => answer = .ok none
  | r :: rs, answer =>
    (Alike (r :: rs) → answer = .ok (some r.value)) ∧
      (¬ Alike (r :: rs) → answer = .error ⟨.ambiguous type (r :: rs), some r.location⟩)

/-- A record whose value is structural. -/
def Record.Constant (r : Record) : Prop := r.value.isStructural = true ∧ r.value.WellFormed

theorem Record.Constant.isConstant {r : Record} (h : r.Constant) : IsConstant r.value :=
  isConstant_iff.mpr h

/-- Two of the records are compared by way of the first. -/
theorem alike_cons_iff {r : Record} {rs : List Record} (hconstant : ∀ s ∈ r :: rs, s.Constant) :
    Alike (r :: rs) ↔ (∀ s ∈ rs, equivalent r.value s.value = true) ∧
      ∀ s ∈ rs, equivalent s.value r.value = true := by
  constructor
  · intro h
    have hr : r ∈ r :: rs := List.mem_cons_self
    exact ⟨fun s hs => h r hr s (List.mem_cons_of_mem _ hs),
      fun s hs => h s (List.mem_cons_of_mem _ hs) r hr⟩
  · rintro ⟨hforth, hback⟩
    have hself := equivalent_refl (hconstant r List.mem_cons_self).isConstant
    have hforth' : ∀ s ∈ r :: rs, equivalent r.value s.value = true :=
      List.forall_mem_cons.mpr ⟨hself, hforth⟩
    have hback' : ∀ s ∈ r :: rs, equivalent s.value r.value = true :=
      List.forall_mem_cons.mpr ⟨hself, hback⟩
    intro s hs s' hs'
    -- back to the first record, and from there on
    exact equivalent_trans (hconstant s hs).isConstant (hback' s hs) (hforth' s' hs')

theorem alike_perm {rs rs' : List Record} (h : (rs.map Record.value).Perm (rs'.map Record.value))
    (hrs : Alike rs) : Alike rs' := by
  intro r hr r' hr'
  have hmem : ∀ s ∈ rs', ∃ t ∈ rs, t.value = s.value := fun s hs =>
    List.mem_map.mp (h.mem_iff.mpr (List.mem_map_of_mem hs))
  obtain ⟨s, hs, hsr⟩ := hmem r hr
  obtain ⟨s', hs', hsr'⟩ := hmem r' hr'
  rw [← hsr, ← hsr']
  exact hrs s hs s' hs'

namespace Compilation

variable {c c' : Compilation} {i i' : Identity} {type type' : TypeTerm}

/-- The records of a declaration whose type, or the type it is another name of, is the
given one, or the one that this is another name of. -/
def recordsUnder (c : Compilation) (i : Identity) (type : TypeTerm) : List Record :=
  (c.store.recordsOf i).filter fun r => r.type.dealias.equals type.dealias

/-- Every value in the store of a compilation is structural. -/
def StoresConstants (c : Compilation) : Prop := ∀ r ∈ c.store.log, r.Constant

theorem StoresConstants.recordsUnder (h : c.StoresConstants) :
    ∀ r ∈ c.recordsUnder i type, r.Constant := by
  intro r hr
  exact h r (c.store.mem_recordsOf.mp (List.mem_of_mem_filter hr)).1

theorem matchingAnnotations_eq (hlive : c.table.isLive i = true) :
    c.matchingAnnotations i type = .ok (c.recordsUnder i type) := by
  unfold matchingAnnotations
  rw [annotations_eq, if_pos hlive]
  rfl

theorem singleOfType_eq (hlive : c.table.isLive i = true) :
    c.singleOfType i type =
      match c.recordsUnder i type with
      | [] => .ok none
      | r :: rs =>
        if rs.all fun r' => r.value.equivalent r'.value then .ok (some r.value)
        else .error ⟨.ambiguous type (r :: rs), some r.location⟩ := by
  unfold singleOfType
  rw [matchingAnnotations_eq hlive]
  rfl

theorem singleOfType_answers_iff (hlive : c.table.isLive i = true) (hstored : c.StoresConstants) :
    Answers type (c.recordsUnder i type) (c.singleOfType i type) ↔
      ∀ r rs, c.recordsUnder i type = r :: rs →
        (∀ s ∈ rs, equivalent r.value s.value = true) →
        ∀ s ∈ rs, equivalent s.value r.value = true := by
  have hconstant : ∀ r ∈ c.recordsUnder i type, r.Constant := hstored.recordsUnder
  rw [singleOfType_eq hlive]
  cases hrecords : c.recordsUnder i type with
  | nil => simp [Answers]
  | cons r rs =>
    rw [hrecords] at hconstant
    have halike := alike_cons_iff hconstant
    -- the query compares the first record to all others, and never the other way round
    by_cases hall : ∀ s ∈ rs, equivalent r.value s.value = true
    · have hcode : (rs.all fun s => r.value.equivalent s.value) = true := List.all_eq_true.mpr hall
      simp only [hcode, if_true, Answers]
      constructor
      · rintro ⟨-, hambiguous⟩ r' rs' heq -
        cases heq
        have h : Alike (r :: rs) := by
          by_contra h
          cases hambiguous h
        exact (halike.mp h).2
      · intro hback
        have h : Alike (r :: rs) := halike.mpr ⟨hall, hback r rs rfl hall⟩
        exact ⟨fun _ => trivial, fun hno => absurd h hno⟩
    · have hcode : ¬ (rs.all fun s => r.value.equivalent s.value) = true :=
        fun h => hall (List.all_eq_true.mp h)
      simp only [if_neg hcode, Answers]
      refine iff_of_true ⟨fun h => absurd (halike.mp h).1 hall, fun _ => trivial⟩ ?_
      intro r' rs' heq hall'
      cases heq
      exact absurd hall' hall

theorem singleOfType_answers (hlive : c.table.isLive i = true) (hstored : c.StoresConstants)
    (hfirst : ∀ r ∈ (c.recordsUnder i type).head?, r.value.Separated) :
    Answers type (c.recordsUnder i type) (c.singleOfType i type) := by
  rw [singleOfType_answers_iff hlive hstored]
  intro r rs hrecords hall s hs
  have hr : r ∈ c.recordsUnder i type := by
    rw [hrecords]
    exact List.mem_cons_self
  refine equivalent_symm (hstored.recordsUnder r hr).isConstant (hfirst r ?_) (hall s hs)
  rw [hrecords]
  rfl

/-- Whether there is an answer is read off the records, in whatever order they are. -/
theorem singleOfType_ok_iff (hanswers : Answers type (c.recordsUnder i type)
    (c.singleOfType i type)) :
    (∃ v, c.singleOfType i type = .ok v) ↔ Alike (c.recordsUnder i type) := by
  cases hrecords : c.recordsUnder i type with
  | nil =>
    rw [hrecords] at hanswers
    refine iff_of_true ⟨none, hanswers⟩ ?_
    intro r hr
    cases hr
  | cons r rs =>
    rw [hrecords] at hanswers
    constructor
    · rintro ⟨v, hv⟩
      by_contra h
      rw [hanswers.2 h] at hv
      cases hv
    · intro h
      exact ⟨_, hanswers.1 h⟩

/-- **The one annotation of a type.**  For a live declaration in a compilation whose values
are structural, the query answers what it is meant to exactly when the records that the first
is equivalent to are all equivalent to it; it does so when the value of the first is
separated, and if all values are, it answers or refuses alike in any order of them. -/
theorem singleOfType_spec (hlive : c.table.isLive i = true) (hstored : c.StoresConstants) :
    (Answers type (c.recordsUnder i type) (c.singleOfType i type) ↔
      ∀ r rs, c.recordsUnder i type = r :: rs →
        (∀ s ∈ rs, equivalent r.value s.value = true) →
        ∀ s ∈ rs, equivalent s.value r.value = true) ∧
    ((∀ r ∈ (c.recordsUnder i type).head?, r.value.Separated) →
      Answers type (c.recordsUnder i type) (c.singleOfType i type)) ∧
    ((∀ r ∈ c.recordsUnder i type, r.value.Separated) →
      ∀ (c' : Compilation) (i' : Identity) (type' : TypeTerm), c'.table.isLive i' = true →
        c'.StoresConstants →
        ((c.recordsUnder i type).map Record.value).Perm
          ((c'.recordsUnder i' type').map Record.value) →
        ((∃ v, c.singleOfType i type = .ok v) ↔ ∃ v, c'.singleOfType i' type' = .ok v)) := by
  refine ⟨singleOfType_answers_iff hlive hstored, singleOfType_answers hlive hstored, ?_⟩
  intro hsep c' i' type' hlive' hstored' hperm
  have hsep' : ∀ r ∈ c'.recordsUnder i' type', r.value.Separated := by
    intro r hr
    obtain ⟨s, hs, hsr⟩ := List.mem_map.mp (hperm.mem_iff.mpr (List.mem_map_of_mem hr))
    rw [← hsr]
    exact hsep s hs
  have hanswers := singleOfType_answers hlive hstored
    fun r hr => hsep r (List.mem_of_mem_head? hr)
  have hanswers' := singleOfType_answers hlive' hstored'
    fun r hr => hsep' r (List.mem_of_mem_head? hr)
  rw [singleOfType_ok_iff hanswers, singleOfType_ok_iff hanswers']
  exact ⟨alike_perm hperm, alike_perm hperm.symm⟩

/-! ### An order in which the ambiguity is missed -/

/-- Two functions with the same two annotations, in one order and in the other. -/
def bothOrders : Compilation :=
  (empty 1 Kind.all).performAll
    [.declare .function "m" "f" ⟨"m.py", 1, 0⟩,
      .annotate ⟨1, 0⟩ quietTwice ⟨"m.py", 2, 0⟩ none,
      .annotate ⟨1, 0⟩ quietAndOne ⟨"m.py", 3, 0⟩ none,
      .declare .function "m" "g" ⟨"m.py", 4, 0⟩,
      .annotate ⟨1, 1⟩ quietAndOne ⟨"m.py", 5, 0⟩ none,
      .annotate ⟨1, 1⟩ quietTwice ⟨"m.py", 6, 0⟩ none]

/-- The annotations of the first function. -/
def twiceBeforeOne : List Record :=
  [⟨⟨1, 0⟩, .builtin .frozenset, quietTwice, ⟨"m.py", 2, 0⟩, 0⟩,
    ⟨⟨1, 0⟩, .builtin .frozenset, quietAndOne, ⟨"m.py", 3, 0⟩, 1⟩]

/-- The annotations of the second. -/
def oneBeforeTwice : List Record :=
  [⟨⟨1, 1⟩, .builtin .frozenset, quietAndOne, ⟨"m.py", 5, 0⟩, 0⟩,
    ⟨⟨1, 1⟩, .builtin .frozenset, quietTwice, ⟨"m.py", 6, 0⟩, 1⟩]

theorem bothOrders_log : bothOrders.store.log = twiceBeforeOne ++ oneBeforeTwice := rfl

theorem bothOrders_first :
    bothOrders.recordsUnder ⟨1, 0⟩ (.builtin .frozenset) = twiceBeforeOne := rfl

theorem bothOrders_second :
    bothOrders.recordsUnder ⟨1, 1⟩ (.builtin .frozenset) = oneBeforeTwice := rfl

theorem bothOrders_storesConstants : bothOrders.StoresConstants := by
  have hone : quietAndOne.isStructural = true ∧ quietAndOne.WellFormed :=
    ⟨quietAndOne_isConstant.isStructural, quietAndOne_isConstant.wellFormed⟩
  have htwice : quietTwice.isStructural = true ∧ quietTwice.WellFormed :=
    ⟨quietTwice_isConstant.isStructural, quietTwice_isConstant.wellFormed⟩
  intro r hr
  simp only [bothOrders_log, twiceBeforeOne, oneBeforeTwice, List.cons_append, List.nil_append,
    List.mem_cons, List.not_mem_nil, or_false] at hr
  rcases hr with rfl | rfl | rfl | rfl
  · exact htwice
  · exact hone
  · exact hone
  · exact htwice

theorem twiceBeforeOne_not_alike : ¬ Alike twiceBeforeOne := by
  intro h
  have hback := h _ (List.mem_cons_of_mem _ List.mem_cons_self) _ List.mem_cons_self
  rw [quietAndOne_not_equivalent] at hback
  cases hback

theorem oneBeforeTwice_not_alike : ¬ Alike oneBeforeTwice := by
  intro h
  have hforth := h _ List.mem_cons_self _ (List.mem_cons_of_mem _ List.mem_cons_self)
  rw [quietAndOne_not_equivalent] at hforth
  cases hforth

/-- The annotations of the first function are not equivalent to each other, and the query
answers the first of them. -/
theorem singleOfType_one_sided :
    ¬ ∀ (c : Compilation) (i : Identity) (type : TypeTerm),
      (∃ ops, c = (empty 1 Kind.all).performAll ops) → c.StoresConstants →
        c.table.isLive i = true → Answers type (c.recordsUnder i type) (c.singleOfType i type) := by
  intro hspec
  have hanswers := hspec bothOrders ⟨1, 0⟩ (.builtin .frozenset) ⟨_, rfl⟩
    bothOrders_storesConstants rfl
  rw [bothOrders_first] at hanswers
  have hrefused := hanswers.2 twiceBeforeOne_not_alike
  have hcode : bothOrders.singleOfType ⟨1, 0⟩ (.builtin .frozenset) = .ok (some quietTwice) := rfl
  rw [hcode] at hrefused
  cases hrefused

/-- The query about the second function, whose first annotation is separated, is refused as it
should be, and the one about the first function is not what it is meant to be. -/
theorem singleOfType_spec_bothOrders :
    bothOrders.StoresConstants ∧
      bothOrders.table.isLive ⟨1, 1⟩ = true ∧
      bothOrders.singleOfType ⟨1, 1⟩ (.builtin .frozenset) =
        .error ⟨.ambiguous (.builtin .frozenset) oneBeforeTwice, some ⟨"m.py", 5, 0⟩⟩ ∧
      bothOrders.table.isLive ⟨1, 0⟩ = true ∧
      ¬ Answers (.builtin .frozenset) twiceBeforeOne
        (bothOrders.singleOfType ⟨1, 0⟩ (.builtin .frozenset)) := by
  have hsecond := (@singleOfType_spec bothOrders ⟨1, 1⟩ (.builtin .frozenset) rfl
    bothOrders_storesConstants).2.1
  have hfirst := (@singleOfType_spec bothOrders ⟨1, 0⟩ (.builtin .frozenset) rfl
    bothOrders_storesConstants).1
  rw [bothOrders_second] at hsecond
  rw [bothOrders_first] at hfirst
  refine ⟨bothOrders_storesConstants, rfl, ?_, rfl, fun hanswers => ?_⟩
  · refine (hsecond fun r hr => ?_).2 oneBeforeTwice_not_alike
    cases hr
    exact quietAndOne_separated
  · have hback := hfirst.mp hanswers _ _ rfl
      (List.forall_mem_singleton.mpr quietTwice_equivalent) _ List.mem_cons_self
    rw [quietAndOne_not_equivalent] at hback
    cases hback

end Compilation

end Marginalia
