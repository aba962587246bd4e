/-
The laws of equivalence between structural values.

* `Value.equivalent_refl`, `Value.equivalent_trans` — equivalence is reflexive and
  transitive;
* `Value.Separated` — no frozenset inside a value has two members that are equivalent,
  which members that are told apart by `==` can be when they are numbers that equal nothing;
* `Value.equivalent_symm` — the equivalences of a separated value can be turned around: the
  partners that its members find in a set of the same size are all of that set.
-/
import Marginalia.Proofs.StructuralValue

namespace Marginalia

/-! ### Lists item by item -/

theorem forall₂_trans_of_mem {α : Type} {R : α → α → Prop} {as bs cs : List α}
    (h : ∀ a ∈ as, ∀ b c, R a b → R b c → R a c) (hab : List.Forall₂ R as bs)
    (hbc : List.Forall₂ R bs cs) : List.Forall₂ R as cs := by
  induction hab generalizing cs with
  | nil => exact hbc
  | @cons a b as bs hR _ ih =>
    cases hbc with
    | cons hR' hbc =>
      exact .cons (h a List.mem_cons_self b _ hR hR')
        (ih (fun a ha => h a (List.mem_cons_of_mem _ ha)) hbc)

theorem forall₂_symm_of_mem {α : Type} {R : α → α → Prop} {as bs : List α}
    (h : ∀ a ∈ as, ∀ b, R a b → R b a) (hab : List.Forall₂ R as bs) :
    List.Forall₂ R bs as := by
  induction hab with
  | nil => exact .nil
  | @cons a b as bs hR _ ih =>
    exact .cons (h a List.mem_cons_self b hR) (ih fun a ha => h a (List.mem_cons_of_mem _ ha))

/-! ### Data -/

namespace Datum

/-- Induction over data, where the items of a list are data too. -/
@[elab_as_elim]
theorem byItems {P : Datum → Prop} (nothing : P nothing) (flag : ∀ b, P (flag b))
    (number : ∀ n, P (number n)) (text : ∀ s, P (text s))
    (items : ∀ ds, (∀ d ∈ ds, P d) → P (items ds)) (d : Datum) : P d :=
  @Datum.rec P (fun ds => ∀ d ∈ ds, P d) nothing flag number text items
    (by simp) (fun d ds hd hds => List.forall_mem_cons.mpr ⟨hd, hds⟩) d

section Kinds

attribute [local simp] equals equalsAll asNumber?

theorem equalsAll_iff {ds es : List Datum} :
    equalsAll ds es = true ↔ List.Forall₂ (fun d e => d.equals e = true) ds es := by
  induction ds generalizing es with
  | nil => cases es <;> simp
  | cons d ds ih => cases es <;> simp [ih]

theorem equals_nothing_iff {d : Datum} : nothing.equals d = true ↔ d = nothing := by
  cases d <;> simp

theorem equals_text_iff {s : String} {d : Datum} : (text s).equals d = true ↔ d = text s := by
  cases d <;> simp
  exact eq_comm

theorem equals_items_iff {ds : List Datum} {d : Datum} :
    (items ds).equals d = true ↔
      ∃ es, d = items es ∧ List.Forall₂ (fun d e => d.equals e = true) ds es := by
  cases d <;> simp [equalsAll_iff]

/-- A flag or a number is equal to what counts as the same number. -/
theorem equals_iff_of_asNumber? {d e : Datum} {n : Int} (h : d.asNumber? = some n) :
    d.equals e = true ↔ e.asNumber? = some n := by
  cases d <;> simp at h <;> subst h <;> simp

end Kinds

theorem equals_refl (d : Datum) : d.equals d = true := by
  induction d using byItems with
  | nothing => rw [equals_nothing_iff]
  | flag b => exact (equals_iff_of_asNumber? rfl).mpr rfl
  | number n => exact (equals_iff_of_asNumber? rfl).mpr rfl
  | text s => rw [equals_text_iff]
  | items ds ih => exact equals_items_iff.mpr ⟨ds, rfl, List.forall₂_same.mpr ih⟩

theorem equals_symm {d e : Datum} (h : d.equals e = true) : e.equals d = true := by
  induction d using byItems generalizing e with
  | nothing =>
    rw [equals_nothing_iff] at h
    rw [h, equals_nothing_iff]
  | flag b => exact (equals_iff_of_asNumber? ((equals_iff_of_asNumber? rfl).mp h)).mpr rfl
  | number n => exact (equals_iff_of_asNumber? ((equals_iff_of_asNumber? rfl).mp h)).mpr rfl
  | text s =>
    rw [equals_text_iff] at h
    rw [h, equals_text_iff]
  | items ds ih =>
    obtain ⟨es, rfl, hall⟩ := equals_items_iff.mp h
    exact equals_items_iff.mpr ⟨ds, rfl, forall₂_symm_of_mem (fun d hd e => ih d hd) hall⟩

theorem equals_trans {d e f : Datum} (h : d.equals e = true) (h' : e.equals f = true) :
    d.equals f = true := by
  induction d using byItems generalizing e f with
  | nothing =>
    rw [equals_nothing_iff] at h
    rwa [h] at h'
  | flag b =>
    have hnumber := (equals_iff_of_asNumber? rfl).mp h
    exact (equals_iff_of_asNumber? rfl).mpr ((equals_iff_of_asNumber? hnumber).mp h')
  | number n =>
    have hnumber := (equals_iff_of_asNumber? rfl).mp h
    exact (equals_iff_of_asNumber? rfl).mpr ((equals_iff_of_asNumber? hnumber).mp h')
  | text s =>
    rw [equals_text_iff] at h
    rwa [h] at h'
  | items ds ih =>
    obtain ⟨es, rfl, hall⟩ := equals_items_iff.mp h
    obtain ⟨fs, rfl, hall'⟩ := equals_items_iff.mp h'
    exact equals_items_iff.mpr ⟨fs, rfl,
      forall₂_trans_of_mem (fun d hd e f => ih d hd) hall hall'⟩

end Datum

namespace EnumClass

theorem isSame_symm {c d : EnumClass} (h : c.isSame d = true) : d.isSame c = true := by
  simp_all [isSame]

theorem isSame_trans {c d e : EnumClass} (h : c.isSame d = true) (h' : d.isSame e = true) :
    c.isSame e = true := by
  simp_all [isSame]

end EnumClass

namespace Value

variable {v w a b c : Value} {vs ws : List Value}

/-! ### What a value is equivalent to -/

section Partners

attribute [local simp] equivalent equivalentAll partnered

theorem equivalentAll_iff :
    equivalentAll vs ws = true ↔ List.Forall₂ (fun v w => equivalent v w = true) vs ws := by
  induction vs generalizing ws with
  | nil => cases ws <;> simp
  | cons v vs ih => cases ws <;> simp [ih]

theorem partnered_iff :
    partnered vs ws = true ↔ ∀ v ∈ vs, ∃ w ∈ ws, equivalent v w = true := by
  induction vs with
  | nil => simp
  | cons v vs ih => simp [ih]

/-- The values that are nothing beside their content and have no parts. -/
def IsAtom : Value → Prop
  | nothing | bool _ | int _ | str _ | bytes _ => True
  | _ => False

theorem builtin_equals_iff {b : Builtin} {t : TypeTerm} :
    (TypeTerm.builtin b).equals t = true ↔ t = .builtin b := by
  cases t <;> simp [TypeTerm.equals]
  exact eq_comm

theorem IsAtom.of_typeOf (hv : v.IsAtom) (h : v.typeOf.equals w.typeOf = true) : w.IsAtom := by
  cases v <;> simp [IsAtom] at hv <;> rw [typeOf, builtin_equals_iff] at h <;>
    unfold typeOf at h <;> split at h <;> simp_all [IsAtom]
  all_goals split at h <;> cases h

theorem equivalent_atom_iff (hv : v.IsAtom) : equivalent v w = true ↔ w = v := by
  constructor
  · intro h
    have hparts : v.typeOf.equals w.typeOf = true ∧ v.equals w = true := by
      cases v <;> simp [IsAtom] at hv <;> simpa [equivalent, sameClass] using h
    have hw := hv.of_typeOf hparts.1
    cases v <;> cases w <;> simp [IsAtom] at hv hw <;>
      simp_all [typeOf, TypeTerm.equals, equals, isUndefined, matching, plain, sameUndefined,
        equalsAtom, quantity?, Quantity.equals, bytes?]
    rename_i x y
    cases x <;> cases y <;> simp_all
  · rintro rfl
    cases w <;> simp [IsAtom] at hv <;>
      simp [sameClass, typeOf, TypeTerm.equals, equals, isUndefined, matching, plain,
        equalsAtom, quantity?, Quantity.equals, bytes?]

/-- The mark of a number does not count. -/
theorem equivalent_float_iff {x : Binary64} {m : Mark} :
    equivalent (float x m) w = true ↔ ∃ n, w = float x n := by
  cases w <;> simp
  exact eq_comm

theorem equivalent_complex_iff {x y : Binary64} {m : Mark} :
    equivalent (complex x y m) w = true ↔ ∃ n, w = complex x y n := by
  cases w <;> simp
  exact and_congr eq_comm eq_comm

theorem equivalent_member_iff {c : EnumClass} {d : Datum} :
    equivalent (member c d) w = true ↔
      ∃ c' d', w = member c' d' ∧ c.isSame c' = true ∧ d.equals d' = true := by
  cases w <;> simp

theorem equivalent_tuple_iff :
    equivalent (tuple vs) w = true ↔
      ∃ ws, w = tuple ws ∧ List.Forall₂ (fun v w => equivalent v w = true) vs ws := by
  cases w <;> simp [equivalentAll_iff]

theorem equivalent_frozenset_iff :
    equivalent (frozenset vs) w = true ↔
      ∃ ws, w = frozenset ws ∧ vs.length = ws.length ∧
        ∀ v ∈ vs, ∃ w ∈ ws, equivalent v w = true := by
  cases w <;> simp [partnered_iff]

theorem equivalent_derived_iff {c : DerivedClass} :
    equivalent (derived c v) w = true ↔
      ∃ d w', w = derived d w' ∧ c.module = d.module ∧ c.name = d.name ∧
        equivalent v w' = true := by
  cases w <;> simp [and_assoc]

theorem equivalent_record_iff {c : RecordClass} {m : Mark} :
    equivalent (record c m vs) w = true ↔
      ∃ d n ws, w = record d n ws ∧ c.module = d.module ∧ c.name = d.name ∧
        List.Forall₂ (fun v w => equivalent v w = true) vs ws := by
  cases w <;> simp [equivalentAll_iff, and_assoc]

end Partners

/-! ### Reflexivity and transitivity -/

theorem equivalent_refl (h : IsConstant v) : equivalent v v = true := by
  induction h with
  | float x m => exact equivalent_float_iff.mpr ⟨m, rfl⟩
  | complex x y m => exact equivalent_complex_iff.mpr ⟨m, rfl⟩
  | member c d =>
    exact equivalent_member_iff.mpr ⟨c, d, rfl, by simp [EnumClass.isSame], d.equals_refl⟩
  | tuple inside ih => exact equivalent_tuple_iff.mpr ⟨_, rfl, List.forall₂_same.mpr ih⟩
  | frozenset inside distinct ih =>
    exact equivalent_frozenset_iff.mpr ⟨_, rfl, rfl, fun v hv => ⟨v, hv, ih v hv⟩⟩
  | derivedTuple c base made ih => exact equivalent_derived_iff.mpr ⟨c, _, rfl, rfl, rfl, ih⟩
  | derivedSet c base made ih => exact equivalent_derived_iff.mpr ⟨c, _, rfl, rfl, rfl, ih⟩
  | record c m frozen equatable length inside ih =>
    exact equivalent_record_iff.mpr ⟨c, m, _, rfl, rfl, rfl, List.forall₂_same.mpr ih⟩
  | _ => exact (equivalent_atom_iff (by trivial)).mpr rfl

/-- Transitivity holds whatever sets are involved: partners of partners are partners. -/
theorem equivalent_trans (h : IsConstant a) (hab : equivalent a b = true)
    (hbc : equivalent b c = true) : equivalent a c = true := by
  induction h generalizing b c with
  | float x m =>
    obtain ⟨n, rfl⟩ := equivalent_float_iff.mp hab
    exact equivalent_float_iff.mpr (equivalent_float_iff.mp hbc)
  | complex x y m =>
    obtain ⟨n, rfl⟩ := equivalent_complex_iff.mp hab
    exact equivalent_complex_iff.mpr (equivalent_complex_iff.mp hbc)
  | member e d =>
    obtain ⟨e', d', rfl, he, hd⟩ := equivalent_member_iff.mp hab
    obtain ⟨e'', d'', rfl, he', hd'⟩ := equivalent_member_iff.mp hbc
    exact equivalent_member_iff.mpr ⟨e'', d'', rfl, EnumClass.isSame_trans he he',
      Datum.equals_trans hd hd'⟩
  | tuple inside ih =>
    obtain ⟨ws, rfl, hvw⟩ := equivalent_tuple_iff.mp hab
    obtain ⟨xs, rfl, hwx⟩ := equivalent_tuple_iff.mp hbc
    exact equivalent_tuple_iff.mpr
      ⟨xs, rfl, forall₂_trans_of_mem (fun v hv w x => ih v hv) hvw hwx⟩
  | frozenset inside distinct ih =>
    obtain ⟨ws, rfl, hlength, hvw⟩ := equivalent_frozenset_iff.mp hab
    obtain ⟨xs, rfl, hlength', hwx⟩ := equivalent_frozenset_iff.mp hbc
    refine equivalent_frozenset_iff.mpr ⟨xs, rfl, hlength.trans hlength', fun v hv => ?_⟩
    obtain ⟨w, hw, hpartner⟩ := hvw v hv
    obtain ⟨x, hx, hpartner'⟩ := hwx w hw
    exact ⟨x, hx, ih v hv hpartner hpartner'⟩
  | derivedTuple e base made ih | derivedSet e base made ih =>
    obtain ⟨e', w, rfl, hmodule, hname, hvw⟩ := equivalent_derived_iff.mp hab
    obtain ⟨e'', x, rfl, hmodule', hname', hwx⟩ := equivalent_derived_iff.mp hbc
    exact equivalent_derived_iff.mpr
      ⟨e'', x, rfl, hmodule.trans hmodule', hname.trans hname', ih hvw hwx⟩
  | record e m frozen equatable length inside ih =>
    obtain ⟨e', m', ws, rfl, hmodule, hname, hvw⟩ := equivalent_record_iff.mp hab
    obtain ⟨e'', m'', xs, rfl, hmodule', hname', hwx⟩ := equivalent_record_iff.mp hbc
    exact equivalent_record_iff.mpr ⟨e'', m'', xs, rfl, hmodule.trans hmodule',
      hname.trans hname', forall₂_trans_of_mem (fun v hv w x => ih v hv) hvw hwx⟩
  | _ =>
    rwa [(equivalent_atom_iff (by trivial)).mp hab] at hbc

/-! ### Symmetry -/

/-- A frozenset does not hold two members of which the later is equivalent to the earlier. -/
def HoldsOnce : Value → Prop
  | frozenset vs => vs.Pairwise fun v w => equivalent w v = false
  | _ => True

/-- No frozenset in a value holds two equivalent members. -/
def Separated (v : Value) : Prop := v.Throughout HoldsOnce

theorem Separated.inside (h : a.Separated) : ∀ v ∈ a.parts, v.Separated := Throughout.inside h

/-- If the members of a list all have partners in another list of its length, and no two of
them share one, every member of the other list is such a partner. -/
theorem exists_partner {α : Type} {R : α → α → Prop} {as bs : List α}
    (hlength : as.length = bs.length) (hpartner : ∀ a ∈ as, ∃ b ∈ bs, R a b)
    (hshared : as.Pairwise fun a a' => ∀ b ∈ bs, R a b → ¬ R a' b) :
    ∀ b ∈ bs, ∃ a ∈ as, R a b := by
  induction as generalizing bs with
  | nil =>
    intro b hb
    rw [List.length_nil, eq_comm, List.length_eq_zero_iff] at hlength
    simp [hlength] at hb
  | cons a as ih =>
    obtain ⟨b₀, hb₀, hR⟩ := hpartner a List.mem_cons_self
    obtain ⟨l, r, rfl⟩ := List.append_of_mem hb₀
    rw [List.pairwise_cons] at hshared
    -- the others have their partners beside the partner of the first
    have hrest : ∀ b ∈ l ++ r, ∃ a ∈ as, R a b := by
      apply ih
      · simp only [List.length_cons, List.length_append] at hlength ⊢
        omega
      · intro a' ha'
        obtain ⟨b, hb, hR'⟩ := hpartner a' (List.mem_cons_of_mem _ ha')
        refine ⟨b, ?_, hR'⟩
        have hne : b ≠ b₀ := by
          rintro rfl
          exact hshared.1 a' ha' b hb₀ hR hR'
        simpa [hne] using hb
      · exact hshared.2.imp fun h b hb => h b (by simp at hb ⊢; tauto)
    intro b hb
    rcases eq_or_ne b b₀ with rfl | hne
    · exact ⟨a, List.mem_cons_self, hR⟩
    · obtain ⟨a', ha', hR'⟩ := hrest b (by simpa [hne] using hb)
      exact ⟨a', List.mem_cons_of_mem _ ha', hR'⟩

theorem equivalent_symm (h : IsConstant a) (hs : a.Separated) (hab : equivalent a b = true) :
    equivalent b a = true := by
  induction h generalizing b with
  | float x m =>
    obtain ⟨n, rfl⟩ := equivalent_float_iff.mp hab
    exact equivalent_float_iff.mpr ⟨m, rfl⟩
  | complex x y m =>
    obtain ⟨n, rfl⟩ := equivalent_complex_iff.mp hab
    exact equivalent_complex_iff.mpr ⟨m, rfl⟩
  | member e d =>
    obtain ⟨e', d', rfl, he, hd⟩ := equivalent_member_iff.mp hab
    exact equivalent_member_iff.mpr
      ⟨e, d, rfl, EnumClass.isSame_symm he, Datum.equals_symm hd⟩
  | tuple inside ih =>
    obtain ⟨ws, rfl, hvw⟩ := equivalent_tuple_iff.mp hab
    exact equivalent_tuple_iff.mpr
      ⟨_, rfl, forall₂_symm_of_mem (fun v hv w => ih v hv (hs.inside v hv)) hvw⟩
  | @frozenset vs inside distinct ih =>
    obtain ⟨ws, rfl, hlength, hvw⟩ := equivalent_frozenset_iff.mp hab
    have honce : vs.Pairwise fun v w => equivalent w v = false := hs.here
    -- two members with one partner would be equivalent to each other
    have hshared : vs.Pairwise fun v v' => ∀ w ∈ ws, equivalent v w = true →
        ¬ equivalent v' w = true := by
      refine honce.imp_of_mem fun {v v'} hv hv' hne w _ hvw hv'w => ?_
      have hwv := ih v hv (hs.inside v hv) hvw
      rw [equivalent_trans (inside v' hv') hv'w hwv] at hne
      cases hne
    refine equivalent_frozenset_iff.mpr ⟨vs, rfl, hlength.symm, fun w hw => ?_⟩
    obtain ⟨v, hv, hpartner⟩ := exists_partner hlength hvw hshared w hw
    exact ⟨v, hv, ih v hv (hs.inside v hv) hpartner⟩
  | derivedTuple e base made ih | derivedSet e base made ih =>
    obtain ⟨e', w, rfl, hmodule, hname, hvw⟩ := equivalent_derived_iff.mp hab
    exact equivalent_derived_iff.mpr ⟨e, _, rfl, hmodule.symm, hname.symm,
      ih (hs.inside _ (List.mem_singleton_self _)) hvw⟩
  | record e m frozen equatable length inside ih =>
    obtain ⟨e', m', ws, rfl, hmodule, hname, hvw⟩ := equivalent_record_iff.mp hab
    exact equivalent_record_iff.mpr ⟨e, m, _, rfl, hmodule.symm, hname.symm,
      forall₂_symm_of_mem (fun v hv w => ih v hv (hs.inside v hv)) hvw⟩
  | _ =>
    obtain rfl := (equivalent_atom_iff (by trivial)).mp hab
    exact hab

end Value

end Marginalia
