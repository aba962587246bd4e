/-
Queries by type, whatever the spelling.

A record is considered under every spelling of the type it was recorded under: aliases and notes
make no difference, distinct names do.  Neither what a type is another name of nor its class tells
equal types apart, so the spelling of a query does not matter, and the records of a declaration
fall apart by type.

* `TypeTerm.equals_symm`, `TypeTerm.equals_trans` — equality of types is symmetric and transitive;
* `TypeTerm.dealias_equals`, `TypeTerm.runtimeClass_equals` — equal types are names of equal types
  and of the same class;
* `flatMap_filter_perm` — what falls under one type each, type by type, is everything;
* `Compilation.typed_queries` — what the queries by type consider.
-/
import Marginalia.Proofs.ElaborationEffect
import Marginalia.Proofs.SingleAnnotation

namespace Marginalia

/-! ### Equality of types -/

namespace TypeTerm

variable {t u v : TypeTerm}

theorem equals_symm (h : t.equals u = true) : u.equals t = true := by
  fun_induction equals t u with
  | case3 => exact EnumClass.isSame_symm h
  | case9 t ns t' ns' ih =>
    rw [Bool.and_eq_true] at h
    rw [equals, ih h.1, Bool.true_and, Datum.equalsAll_iff]
    exact forall₂_symm_of_mem (fun d _ e => Datum.equals_symm) (Datum.equalsAll_iff.mp h.2)
  | case13 => cases h
  | _ => simp_all only [equals, Bool.and_eq_true, beq_iff_eq, and_self]

theorem equals_trans (h : t.equals u = true) (h' : u.equals v = true) : t.equals v = true := by
  fun_induction equals t u generalizing v with
  | case3 =>
    cases v <;> simp only [equals, Bool.false_eq_true] at h h' ⊢
    exact EnumClass.isSame_trans h h'
  | case9 t ns t' ns' ih =>
    cases v <;> simp only [equals, Bool.false_eq_true, Bool.and_eq_true] at h h' ⊢
    rw [Datum.equalsAll_iff] at h h' ⊢
    exact ⟨ih h.1 h'.1, forall₂_trans_of_mem (fun d _ e f => Datum.equals_trans) h.2 h'.2⟩
  | case13 => cases h
  | _ =>
    -- a type is equal to types of its own form only, and these are compared by their parts
    cases v <;> simp only [equals, Bool.false_eq_true, Bool.and_eq_true, beq_iff_eq] at h h' ⊢
    all_goals simp_all

/-- Equal types are equal to the same types. -/
theorem equals_congr_right (h : t.equals u = true) (v : TypeTerm) : v.equals t = v.equals u :=
  Bool.eq_iff_iff.mpr ⟨fun hv => equals_trans hv h, fun hv => equals_trans hv (equals_symm h)⟩

/-- Equal types are other names of equal types. -/
theorem dealias_equals (h : t.equals u = true) : t.dealias.equals u.dealias = true := by
  fun_induction equals t u with
  | case7 n t n' t' ih => exact ih (Bool.and_eq_true_iff.mp h).2
  | case9 t ns t' ns' ih => exact ih (Bool.and_eq_true_iff.mp h).1
  | case13 => cases h
  | _ => simpa only [dealias, equals] using h

/-- Values under equal types are of the same class. -/
theorem runtimeClass_equals (h : t.equals u = true) :
    t.runtimeClass.equals u.runtimeClass = true := by
  fun_induction equals t u with
  | case7 n t n' t' ih => exact ih (Bool.and_eq_true_iff.mp h).2
  | case8 n t n' t' ih => exact ih (Bool.and_eq_true_iff.mp h).2
  | case9 t ns t' ns' ih => exact ih (Bool.and_eq_true_iff.mp h).1
  | case13 => cases h
  | _ => simpa only [runtimeClass, equals] using h

/-- Another name of a type is a name of its class. -/
@[simp] theorem runtimeClass_dealias (t : TypeTerm) : t.dealias.runtimeClass = t.runtimeClass := by
  induction t with
  | aliased n t ih => exact ih
  | annotated t ns ih => exact ih
  | _ => rfl

end TypeTerm

/-! ### What falls under one of several types -/

/-- When everything in a list falls under one of several heads, and nothing under two of them,
what falls under the heads, one after the other, is everything once. -/
theorem flatMap_filter_perm {α β : Type} {R : α → β → Bool} {heads : List β} {as : List α}
    (hapart : heads.Pairwise fun b b' => ∀ a ∈ as, R a b = true → R a b' = false)
    (hcover : ∀ a ∈ as, ∃ b ∈ heads, R a b = true) :
    (heads.flatMap fun b => as.filter fun a => R a b).Perm as := by
  induction heads generalizing as with
  | nil =>
    have hnil : as = [] := List.eq_nil_iff_forall_not_mem.mpr fun a ha => by
      obtain ⟨b, hb, -⟩ := hcover a ha
      cases hb
    rw [hnil]
    exact List.Perm.nil
  | cons b heads ih =>
    obtain ⟨hfirst, hrest⟩ := List.pairwise_cons.mp hapart
    have hothers : ∀ b' ∈ heads, (as.filter fun a => R a b') =
        (as.filter fun a => !R a b).filter fun a => R a b' := by
      intro b' hb'
      rw [List.filter_filter]
      refine List.filter_congr fun a ha => ?_
      cases hab : R a b with
      | false => simp
      | true => simp [hfirst b' hb' a ha hab]
    have hlater : (heads.flatMap fun b' => as.filter fun a => R a b').Perm
        (as.filter fun a => !R a b) := by
      rw [List.flatMap_congr hothers]
      refine ih (hrest.imp fun h a ha => h a (List.mem_of_mem_filter ha)) fun a ha => ?_
      obtain ⟨hmem, hnot⟩ := List.mem_filter.mp ha
      obtain ⟨b', hb', hab'⟩ := hcover a hmem
      obtain rfl | hb' := List.mem_cons.mp hb'
      · simp [hab'] at hnot
      · exact ⟨b', hb', hab'⟩
    rw [List.flatMap_cons]
    exact (hlater.append_left _).trans (List.filter_append_perm (fun a => R a b) as)

/-! ### Queries -/

/-- Whether two answers to the query for the one value under a type agree: the same value, nothing
both times, or refusals that list the same records. -/
def SameAnswer : Except AnnotationError (Option Value) → Except AnnotationError (Option Value) →
    Prop
  | .ok v, .ok w => v = w
  | .error e, .error e' => ∃ t u rs, e.cause = .ambiguous t rs ∧ e'.cause = .ambiguous u rs ∧
      e.location = e'.location
  | _, _ => False

namespace Compilation

variable {c : Compilation} {i : Identity} {t u : TypeTerm}

theorem hasOfType_eq (hlive : c.table.isLive i = true) :
    c.hasOfType i t = .ok (!(c.recordsUnder i t).isEmpty) := by
  unfold hasOfType
  rw [matchingAnnotations_eq hlive]
  rfl

theorem annotationsOfType_eq (hlive : c.table.isLive i = true) :
    c.annotationsOfType i t = .ok ((c.store.recordsOf i).filter fun r => r.type.equals t) := by
  unfold annotationsOfType
  rw [annotations_eq, if_pos hlive]
  rfl

theorem mem_recordsUnder_iff {r : Record} : r ∈ c.recordsUnder i t ↔
    r ∈ c.store.recordsOf i ∧ r.type.dealias.equals t.dealias = true :=
  List.mem_filter

/-- Under two names of one type the same records are considered. -/
theorem recordsUnder_congr (h : t.dealias.equals u.dealias = true) :
    c.recordsUnder i t = c.recordsUnder i u :=
  List.filter_congr fun r _ => TypeTerm.equals_congr_right h r.type.dealias

theorem singleOfType_congr (hlive : c.table.isLive i = true)
    (h : c.recordsUnder i t = c.recordsUnder i u) :
    SameAnswer (c.singleOfType i t) (c.singleOfType i u) := by
  rw [singleOfType_eq hlive, singleOfType_eq hlive, h]
  cases c.recordsUnder i u with
  | nil => exact rfl
  | cons r rs =>
    show SameAnswer (if _ then _ else _) (if _ then _ else _)
    by_cases hall : (rs.all fun r' => r.value.equivalent r'.value) = true
    · rw [if_pos hall, if_pos hall]
      rfl
    · rw [if_neg hall, if_neg hall]
      exact ⟨t, u, r :: rs, rfl, rfl, rfl⟩

/-- What was recorded under exactly a type is considered under it, in the same order. -/
theorem sublist_recordsUnder :
    ((c.store.recordsOf i).filter fun r => r.type.equals t).Sublist (c.recordsUnder i t) := by
  have hsame : ((c.store.recordsOf i).filter fun r => r.type.equals t) =
      (c.recordsUnder i t).filter fun r => r.type.equals t := by
    rw [recordsUnder, List.filter_filter]
    refine List.filter_congr fun r _ => ?_
    cases hr : r.type.equals t with
    | false => rfl
    | true => rw [TypeTerm.dealias_equals hr, Bool.and_self]
  rw [hsame]
  exact List.filter_sublist

/-- What is considered under a type is of its class. -/
theorem class_of_mem_recordsUnder (hc : c.Consistent) {r : Record} (hr : r ∈ c.recordsUnder i t) :
    r.value.typeOf.equals t.runtimeClass = true := by
  obtain ⟨hmem, hsame⟩ := mem_recordsUnder_iff.mp hr
  have hclass := TypeTerm.runtimeClass_equals hsame
  rw [TypeTerm.runtimeClass_dealias, TypeTerm.runtimeClass_dealias] at hclass
  exact TypeTerm.equals_trans (hc.ofClass r (c.store.mem_recordsOf.mp hmem).1) hclass

/-- **Queries by type.**  For a live declaration of any compilation that is reached: two spellings
of one type are answered alike; what was recorded under exactly a type is among what is considered
under it, in order; whatever is considered under a type is of exactly its class; a record is
considered under the types that its own type is a spelling of and under no other; and types that
are no spellings of each other, if every record falls under one of them, split the records of the
declaration without loss or overlap. -/
theorem typed_queries {token : Int} {kinds : List Kind} (hreached : (empty token kinds).Reaches c)
    (hlive : c.table.isLive i = true) :
    ∃ rs, c.annotations i = .ok rs ∧
      (∀ t u, t.dealias.equals u.dealias = true →
        c.hasOfType i t = c.hasOfType i u ∧
          SameAnswer (c.singleOfType i t) (c.singleOfType i u)) ∧
      (∀ t, ∃ exactly considered, c.annotationsOfType i t = .ok exactly ∧
        c.matchingAnnotations i t = .ok considered ∧ exactly.Sublist considered ∧
        considered.Sublist rs ∧ c.hasOfType i t = .ok (!considered.isEmpty) ∧
        (∀ r ∈ considered, r.value.typeOf.equals t.runtimeClass = true) ∧
        ∀ r ∈ rs, r ∈ considered ↔ t.dealias.equals r.type.dealias = true) ∧
      ∀ ts : List TypeTerm, ts.Pairwise (fun t u => t.dealias.equals u.dealias = false) →
        (∀ r ∈ rs, ∃ t ∈ ts, r.type.dealias.equals t.dealias = true) →
        (ts.flatMap (c.recordsUnder i)).Perm rs := by
  have hc : c.Consistent := hreached.consistent (consistent_empty token kinds)
  refine ⟨c.store.recordsOf i, by rw [annotations_eq, if_pos hlive], ?_, ?_, ?_⟩
  · intro t u h
    have hsame : c.recordsUnder i t = c.recordsUnder i u := recordsUnder_congr h
    exact ⟨by rw [hasOfType_eq hlive, hasOfType_eq hlive, hsame], singleOfType_congr hlive hsame⟩
  · intro t
    refine ⟨_, _, annotationsOfType_eq hlive, matchingAnnotations_eq hlive, sublist_recordsUnder,
      List.filter_sublist, hasOfType_eq hlive, fun r hr => class_of_mem_recordsUnder hc hr, ?_⟩
    intro r hr
    rw [mem_recordsUnder_iff]
    exact ⟨fun h => TypeTerm.equals_symm h.2, fun h => ⟨hr, TypeTerm.equals_symm h⟩⟩
  · intro ts hapart hcover
    refine flatMap_filter_perm (hapart.imp ?_) hcover
    intro t u hother r _ ht
    -- a record under both would make them spellings of one type
    by_contra hu
    rw [Bool.not_eq_false] at hu
    rw [TypeTerm.equals_trans (TypeTerm.equals_symm ht) hu] at hother
    cases hother

/-- An alias of a class, with a note. -/
def notedPort : TypeTerm := .annotated (.aliased "Port" (.builtin .int)) [.text "doc"]

/-- A distinct name for that alias. -/
def portId : TypeTerm := .distinct "PortId" (.aliased "Port" (.builtin .int))

/-- A function is given a number under a noted alias of its class, under a distinct name, and under
its class itself. -/
def spellings : List Operation :=
  [.declare .function "m" "f" ⟨"m.py", 1, 0⟩,
    .annotate ⟨1, 0⟩ (.int 7) ⟨"m.py", 2, 0⟩ (some notedPort),
    .annotate ⟨1, 0⟩ (.int 8) ⟨"m.py", 3, 0⟩ (some portId),
    .annotate ⟨1, 0⟩ (.int 7) ⟨"m.py", 4, 0⟩ none]

/-- The compilation after these operations. -/
def spelled : Compilation :=
  (empty 1 Kind.all).performAll spellings

/-- Under any spelling of the class there are two of the three numbers; with the one under the
distinct name, they are all there are. -/
theorem typed_queries_spelled :
    (empty 1 Kind.all).Reaches spelled ∧ spelled.table.isLive ⟨1, 0⟩ = true ∧
      notedPort.dealias.equals (.builtin .int) = true ∧
      SameAnswer (spelled.singleOfType ⟨1, 0⟩ notedPort)
        (spelled.singleOfType ⟨1, 0⟩ (.builtin .int)) ∧
      (∃ rs, spelled.annotations ⟨1, 0⟩ = .ok rs ∧ rs.length = 3 ∧
        ([notedPort, portId].flatMap (spelled.recordsUnder ⟨1, 0⟩)).Perm rs) := by
  have hreached : (empty 1 Kind.all).Reaches spelled := ⟨spellings, 0, [], rfl⟩
  obtain ⟨rs, hrs, hspelling, -, hsplit⟩ :=
    typed_queries (c := spelled) (i := ⟨1, 0⟩) hreached rfl
  obtain rfl : rs = spelled.store.recordsOf ⟨1, 0⟩ := (Except.ok.inj hrs).symm
  refine ⟨hreached, rfl, rfl, (hspelling _ _ rfl).2, _, hrs, rfl, hsplit _ ?_ ?_⟩
  · exact List.pairwise_pair.mpr rfl
  · have htypes : (spelled.store.recordsOf ⟨1, 0⟩).map Record.type =
        [notedPort, portId, .builtin .int] := rfl
    intro r hr
    have htype : r.type ∈ [notedPort, portId, .builtin .int] :=
      htypes ▸ List.mem_map_of_mem hr
    simp only [List.mem_cons, List.not_mem_nil, or_false] at htype
    obtain h | h | h := htype
    · exact ⟨notedPort, by simp, by rw [h]; rfl⟩
    · exact ⟨portId, by simp, by rw [h]; rfl⟩
    · exact ⟨notedPort, by simp, by rw [h]; rfl⟩

end Compilation

end Marginalia
