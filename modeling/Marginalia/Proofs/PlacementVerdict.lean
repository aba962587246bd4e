/-
When annotations may stand where they are written.

A placement is accepted or refused as a whole.  A vendor's name before a group with annotations
is looked for first, in all groups; only then does it matter where the groups stand, and only if
there is an annotation at all.  A refusal is blamed on the first annotation of the group that has
the vendor's name, else on the first annotation of all groups.

* `Placement.refusedAs_mixed`, `Placement.refusedAs_of_not_applicable` — the two ways to be refused;
* `Placement.placement_verdict` — when a placement is accepted and with which annotations, and
  why and at which place it is refused.
-/
import Mathlib.Tactic
import Marginalia.Placement

namespace Marginalia

variable {α : Type}

/-- Whether an item carries an annotation. -/
def Item.isAnnotation (i : Item α) : Bool := i.carried?.isSome

/-- The item that an annotation is carried by. -/
def AnnotationItem.item (a : AnnotationItem α) : Item α := ⟨a.location, .value a.expression⟩

/-- Whether the first annotation among items is written at a place. -/
def FirstAnnotationAt (items : List (Item α)) (l : Location) : Prop :=
  ∃ front i behind, items = front ++ i :: behind ∧ (∀ j ∈ front, j.isAnnotation = false) ∧
    i.isAnnotation = true ∧ i.location = l

/-- Whether a group has a vendor's name before it and an annotation in it. -/
def Group.Mixed (g : Group α) : Prop := g.vendor ≠ none ∧ ∃ i ∈ g.items, i.isAnnotation = true

theorem Item.carried?_eq_some_iff {i : Item α} {a : AnnotationItem α} :
    i.carried? = some a ↔ i = a.item := by
  obtain ⟨l, content⟩ := i
  obtain ⟨l', e⟩ := a
  cases content <;> simp [Item.carried?, AnnotationItem.item]

theorem Item.isAnnotation_eq_false_iff {i : Item α} :
    i.isAnnotation = false ↔ i.carried? = none := by
  rw [Item.isAnnotation, Option.isSome_eq_false_iff, Option.isNone_iff_eq_none]

/-- The annotations among items are the items that carry one, in their order. -/
theorem map_item_carried (items : List (Item α)) :
    (items.filterMap Item.carried?).map AnnotationItem.item =
      items.filter Item.isAnnotation := by
  induction items with
  | nil => rfl
  | cons i items ih =>
    cases h : i.carried? with
    | none =>
      rw [List.filterMap_cons_none h, List.filter_cons_of_neg (by simp [Item.isAnnotation, h]), ih]
    | some a =>
      rw [List.filterMap_cons_some h, List.filter_cons_of_pos (by simp [Item.isAnnotation, h]),
        List.map_cons, ih, Item.carried?_eq_some_iff.mp h]

/-- The first annotation among items is at the head of those that they carry. -/
theorem firstAnnotationAt_iff {items : List (Item α)} {l : Location} :
    FirstAnnotationAt items l ↔
      ∃ a rest, items.filterMap Item.carried? = a :: rest ∧ a.location = l := by
  constructor
  · rintro ⟨front, i, behind, rfl, hfront, hi, rfl⟩
    obtain ⟨a, ha⟩ := Option.isSome_iff_exists.mp hi
    have hnone : front.filterMap Item.carried? = [] :=
      List.filterMap_eq_nil_iff.mpr fun j hj => Item.isAnnotation_eq_false_iff.mp (hfront j hj)
    refine ⟨a, behind.filterMap Item.carried?, ?_, ?_⟩
    · rw [List.filterMap_append, hnone, List.nil_append, List.filterMap_cons_some ha]
    · rw [Item.carried?_eq_some_iff.mp ha]
      rfl
  · rintro ⟨a, rest, hitems, rfl⟩
    obtain ⟨front, i, behind, rfl, hfront, hi, -⟩ := List.filterMap_eq_cons_iff.mp hitems
    refine ⟨front, i, behind, rfl, ?_, ?_, ?_⟩
    · intro j hj
      exact Item.isAnnotation_eq_false_iff.mpr (hfront j hj)
    · rw [Item.isAnnotation, hi]
      rfl
    · rw [Item.carried?_eq_some_iff.mp hi]
      rfl

/-- If any item carries an annotation, there is a first one. -/
theorem exists_annotation_iff {items : List (Item α)} :
    (∃ i ∈ items, i.isAnnotation = true) ↔ ∃ l, FirstAnnotationAt items l := by
  constructor
  · rintro ⟨i, hi, hcarries⟩
    obtain ⟨a, ha⟩ := Option.isSome_iff_exists.mp hcarries
    have hmem : a ∈ items.filterMap Item.carried? := List.mem_filterMap.mpr ⟨i, hi, ha⟩
    obtain ⟨b, rest, hannotations⟩ := List.exists_cons_of_ne_nil (List.ne_nil_of_mem hmem)
    exact ⟨b.location, firstAnnotationAt_iff.mpr ⟨b, rest, hannotations, rfl⟩⟩
  · rintro ⟨l, front, i, behind, rfl, -, hi, -⟩
    exact ⟨i, List.mem_append_right _ List.mem_cons_self, hi⟩

namespace Group

variable {g : Group α}

/-- A group is refused when it is mixed, at its first annotation. -/
theorem mixed?_eq_some_iff {e : AnnotationError} :
    g.mixed? = some e ↔
      ∃ v l, g.vendor = some v ∧ FirstAnnotationAt g.items l ∧ e = ⟨.mixedGroup v, some l⟩ := by
  rw [mixed?]
  constructor
  · intro h
    split at h
    · rename_i v a rest hvendor hannotations
      exact ⟨v, a.location, hvendor, firstAnnotationAt_iff.mpr ⟨a, rest, hannotations, rfl⟩,
        (Option.some.inj h).symm⟩
    · cases h
  · rintro ⟨v, l, hvendor, hfirst, rfl⟩
    obtain ⟨a, rest, hannotations, rfl⟩ := firstAnnotationAt_iff.mp hfirst
    rw [hvendor, annotations, hannotations]

theorem mixed?_eq_none_iff : g.mixed? = none ↔ ¬ g.Mixed := by
  rw [Option.eq_none_iff_forall_ne_some, Mixed, exists_annotation_iff]
  constructor
  · rintro h ⟨hvendor, l, hfirst⟩
    obtain ⟨v, hv⟩ := Option.ne_none_iff_exists'.mp hvendor
    exact h _ (mixed?_eq_some_iff.mpr ⟨v, l, hv, hfirst, rfl⟩)
  · rintro h e he
    obtain ⟨v, l, hv, hfirst, -⟩ := mixed?_eq_some_iff.mp he
    exact h ⟨by simp [hv], l, hfirst⟩

end Group

namespace Placement

variable {p : Placement α} {annotatable : List Kind}

/-- The items of all groups, in the order they are written. -/
def items (p : Placement α) : List (Item α) := p.groups.flatMap Group.items

/-- Whether annotations may stand at a place: a declaration of a kind that can be annotated. -/
def Applicable (p : Placement α) (annotatable : List Kind) : Prop :=
  p.position = .declaration ∧ ∃ k ∈ annotatable, p.construct = some k

theorem annotations_eq (p : Placement α) : p.annotations = p.items.filterMap Item.carried? := by
  rw [annotations, items, List.filterMap_flatMap]
  rfl

/-- Nothing speaks against annotations exactly where they may stand. -/
theorem objection?_eq_none_iff : p.objection? annotatable = none ↔ p.Applicable annotatable := by
  rw [objection?, Applicable]
  split <;> simp_all

/-- What speaks against annotations where they may not stand: a type specifier, or that nothing is
declared that they could be about. -/
theorem exists_objection (h : ¬ p.Applicable annotatable) :
    ∃ c, p.objection? annotatable = some c ∧ c.kind =
      if p.position = .typeSpecifier then "IllegalAppertainanceError"
      else "NoApplicableConstructError" := by
  rw [Applicable] at h
  unfold objection?
  cases hposition : p.position with
  | typeSpecifier => exact ⟨.onTypeSpecifier, rfl, rfl⟩
  | statement => exact ⟨.withoutConstruct, rfl, rfl⟩
  | declaration =>
    cases hconstruct : p.construct with
    | none => exact ⟨.withoutConstruct, rfl, rfl⟩
    | some k =>
      have hkind : k ∉ annotatable := fun hk => h ⟨hposition, k, hk, hconstruct⟩
      exact ⟨.kindNotAnnotatable k, if_neg hkind, rfl⟩

/-- Whether a placement is refused with an error of some class, blamed on a place. -/
def RefusedAs (p : Placement α) (annotatable : List Kind) (kind : String) (l : Location) : Prop :=
  ∃ e, p.validate annotatable = .error e ∧ e.kind = kind ∧ e.location = some l

/-- The first mixed group decides, whatever else is wrong. -/
theorem refusedAs_mixed {front behind : List (Group α)} {g : Group α} {l : Location}
    (hgroups : p.groups = front ++ g :: behind) (hfront : ∀ g' ∈ front, ¬ g'.Mixed)
    (hvendor : g.vendor ≠ none) (hfirst : FirstAnnotationAt g.items l) :
    p.RefusedAs annotatable "MixedAttributeGroupError" l := by
  obtain ⟨v, hv⟩ := Option.ne_none_iff_exists'.mp hvendor
  have hnone : front.findSome? Group.mixed? = none :=
    List.findSome?_eq_none_iff.mpr fun g' hg' => Group.mixed?_eq_none_iff.mpr (hfront g' hg')
  have hmixed : p.groups.findSome? Group.mixed? = some ⟨.mixedGroup v, some l⟩ := by
    rw [hgroups, List.findSome?_append, hnone, Option.none_or, List.findSome?_cons,
      Group.mixed?_eq_some_iff.mpr ⟨v, l, hv, hfirst, rfl⟩]
  refine ⟨⟨.mixedGroup v, some l⟩, ?_, rfl, rfl⟩
  rw [validate, hmixed]

/-- Without a mixed group, the items and their place decide. -/
theorem validate_eq (h : ∀ g ∈ p.groups, ¬ g.Mixed) :
    p.validate annotatable = match p.items.filterMap Item.carried?, p.objection? annotatable with
      | a :: _, some c => .error ⟨c, some a.location⟩
      | as, _ => .ok as := by
  have hnone : p.groups.findSome? Group.mixed? = none :=
    List.findSome?_eq_none_iff.mpr fun g hg => Group.mixed?_eq_none_iff.mpr (h g hg)
  unfold validate
  rw [hnone, annotations_eq]
  cases p.items.filterMap Item.carried? <;> cases p.objection? annotatable <;> rfl

theorem validate_of_applicable (h : ∀ g ∈ p.groups, ¬ g.Mixed)
    (hplace : (∃ i ∈ p.items, i.isAnnotation = true) → p.Applicable annotatable) :
    p.validate annotatable = .ok (p.items.filterMap Item.carried?) := by
  rw [validate_eq h]
  cases hannotations : p.items.filterMap Item.carried? with
  | nil => rfl
  | cons a rest =>
    have hfirst : FirstAnnotationAt p.items a.location :=
      firstAnnotationAt_iff.mpr ⟨a, rest, hannotations, rfl⟩
    have hnone := objection?_eq_none_iff.mpr (hplace (exists_annotation_iff.mpr ⟨_, hfirst⟩))
    simp only [hnone]

theorem refusedAs_of_not_applicable {l : Location} (h : ∀ g ∈ p.groups, ¬ g.Mixed)
    (hfirst : FirstAnnotationAt p.items l) (hplace : ¬ p.Applicable annotatable) :
    p.RefusedAs annotatable (if p.position = .typeSpecifier then "IllegalAppertainanceError"
      else "NoApplicableConstructError") l := by
  obtain ⟨a, rest, hannotations, rfl⟩ := firstAnnotationAt_iff.mp hfirst
  obtain ⟨c, hobjection, hkind⟩ := exists_objection hplace
  refine ⟨⟨c, some a.location⟩, ?_, hkind, rfl⟩
  simp only [validate_eq h, hannotations, hobjection]

/-- If any group is mixed, there is a first one. -/
theorem exists_first_mixed (h : ∃ g ∈ p.groups, g.Mixed) :
    ∃ front g behind l, p.groups = front ++ g :: behind ∧ (∀ g' ∈ front, ¬ g'.Mixed) ∧
      g.Mixed ∧ FirstAnnotationAt g.items l := by
  obtain ⟨g, hg, hmixed⟩ := h
  -- the search for a refusal stops at the first mixed group
  have hsome : (p.groups.findSome? Group.mixed?).isSome = true := by
    rw [List.isSome_findSome?, List.any_eq_true]
    refine ⟨g, hg, ?_⟩
    by_contra hnone
    rw [Option.not_isSome_iff_eq_none, Group.mixed?_eq_none_iff] at hnone
    exact hnone hmixed
  obtain ⟨e, he⟩ := Option.isSome_iff_exists.mp hsome
  obtain ⟨front, g, behind, hgroups, hhere, hfront⟩ := List.findSome?_eq_some_iff.mp he
  obtain ⟨v, l, hv, hfirst, -⟩ := Group.mixed?_eq_some_iff.mp hhere
  refine ⟨front, g, behind, l, hgroups, ?_, ?_, hfirst⟩
  · exact fun g' hg' => Group.mixed?_eq_none_iff.mp (hfront g' hg')
  · by_contra hnot
    rw [Group.mixed?_eq_none_iff.mpr hnot] at hhere
    cases hhere

/-- **What becomes of a placement.**  It is accepted exactly when no group is mixed and annotations
may stand there, if there are any; the answer is then the annotations of all groups, in the order
they are written.  If a group is mixed, it is refused for the first such group, whatever else is
wrong, and blamed on the first annotation of that group.  Else, if there are annotations where they
may not stand, it is refused for its position or for want of a construct, and blamed on the first
of them. -/
theorem placement_verdict (p : Placement α) (annotatable : List Kind) :
    ((∃ as, p.validate annotatable = .ok as) ↔
      (∀ g ∈ p.groups, ¬ g.Mixed) ∧
        ((∃ i ∈ p.items, i.isAnnotation = true) → p.Applicable annotatable)) ∧
    (∀ as, p.validate annotatable = .ok as →
      as.map AnnotationItem.item = p.items.filter Item.isAnnotation) ∧
    ((∃ g ∈ p.groups, g.Mixed) →
      ∃ front g behind l, p.groups = front ++ g :: behind ∧ (∀ g' ∈ front, ¬ g'.Mixed) ∧
        g.Mixed ∧ FirstAnnotationAt g.items l ∧
        p.RefusedAs annotatable "MixedAttributeGroupError" l) ∧
    ((∀ g ∈ p.groups, ¬ g.Mixed) → (∃ i ∈ p.items, i.isAnnotation = true) →
      ¬ p.Applicable annotatable →
      ∃ l, FirstAnnotationAt p.items l ∧ p.RefusedAs annotatable
        (if p.position = .typeSpecifier then "IllegalAppertainanceError"
          else "NoApplicableConstructError") l) := by
  have hmixed : (∃ g ∈ p.groups, g.Mixed) →
      ∃ front g behind l, p.groups = front ++ g :: behind ∧ (∀ g' ∈ front, ¬ g'.Mixed) ∧
        g.Mixed ∧ FirstAnnotationAt g.items l ∧
        p.RefusedAs annotatable "MixedAttributeGroupError" l := by
    intro h
    obtain ⟨front, g, behind, l, hgroups, hfront, hg, hfirst⟩ := exists_first_mixed h
    exact ⟨front, g, behind, l, hgroups, hfront, hg, hfirst,
      refusedAs_mixed hgroups hfront hg.1 hfirst⟩
  have hplaced : (∀ g ∈ p.groups, ¬ g.Mixed) → (∃ i ∈ p.items, i.isAnnotation = true) →
      ¬ p.Applicable annotatable →
      ∃ l, FirstAnnotationAt p.items l ∧ p.RefusedAs annotatable
        (if p.position = .typeSpecifier then "IllegalAppertainanceError"
          else "NoApplicableConstructError") l := by
    intro h hannotation hplace
    obtain ⟨l, hfirst⟩ := exists_annotation_iff.mp hannotation
    exact ⟨l, hfirst, refusedAs_of_not_applicable h hfirst hplace⟩
  -- what is accepted is not refused, so it has neither fault
  have haccepted : ∀ as, p.validate annotatable = .ok as → (∀ g ∈ p.groups, ¬ g.Mixed) ∧
      ((∃ i ∈ p.items, i.isAnnotation = true) → p.Applicable annotatable) := by
    intro as has
    have hpure : ∀ g ∈ p.groups, ¬ g.Mixed := by
      intro g hg hgm
      obtain ⟨_, _, _, _, -, -, -, -, e, he, -⟩ := hmixed ⟨g, hg, hgm⟩
      cases has.symm.trans he
    refine ⟨hpure, fun hannotation => ?_⟩
    by_contra hplace
    obtain ⟨_, -, e, he, -⟩ := hplaced hpure hannotation hplace
    cases has.symm.trans he
  refine ⟨⟨?_, ?_⟩, ?_, hmixed, hplaced⟩
  · rintro ⟨as, has⟩
    exact haccepted as has
  · rintro ⟨h, hplace⟩
    exact ⟨_, validate_of_applicable h hplace⟩
  intro as has
  obtain ⟨h, hplace⟩ := haccepted as has
  cases has.symm.trans (validate_of_applicable h hplace)
  exact map_item_carried p.items

/-- Two groups with a vendor's name on a type specifier: only the second holds annotations. -/
def lateVendor : Placement String where
  construct := none
  position := .typeSpecifier
  groups :=
    [⟨[⟨⟨"m.py", 1, 0⟩, .value "1"⟩], ⟨"m.py", 1, 0⟩, none⟩,
      ⟨[⟨⟨"m.py", 2, 0⟩, .attribute "cold"⟩], ⟨"m.py", 2, 0⟩, some "gnu"⟩,
      ⟨[⟨⟨"m.py", 3, 0⟩, .attribute "hot"⟩, ⟨⟨"m.py", 3, 8⟩, .value "2"⟩], ⟨"m.py", 3, 0⟩,
        some "gnu"⟩]

/-- It is refused for that group, not for its position; blamed on the annotation behind the plain
attribute. -/
theorem placement_verdict_lateVendor :
    (∃ g ∈ lateVendor.groups, g.Mixed) ∧
      lateVendor.RefusedAs Kind.all "MixedAttributeGroupError" ⟨"m.py", 3, 8⟩ := by
  have hmixed : ∃ g ∈ lateVendor.groups, g.Mixed :=
    ⟨_, List.mem_cons_of_mem _ (List.mem_cons_of_mem _ List.mem_cons_self), by simp,
      _, List.mem_cons_of_mem _ List.mem_cons_self, rfl⟩
  refine ⟨hmixed, ?_⟩
  obtain ⟨_, _, _, l, -, -, -, -, e, he, hkind, hlocation⟩ :=
    (placement_verdict lateVendor Kind.all).2.2.1 hmixed
  have hrun : lateVendor.validate Kind.all =
      .error ⟨.mixedGroup "gnu", some ⟨"m.py", 3, 8⟩⟩ := rfl
  refine ⟨e, he, hkind, ?_⟩
  cases he.symm.trans hrun
  rfl

end Placement

end Marginalia
