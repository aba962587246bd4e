/-
Values that pass for another until the comparison is turned around.

A value that holds a frozenset with two equivalent members is equivalent to a value that is
not equivalent to it.  To find one, a member that has an equivalent beside it is replaced by
something of another kind, which leaves every member of the old set a partner in the new one.

* `Value.Decoy` — what a replacement for a value has to satisfy: it is equivalent to nothing
  of a given size, and `==` tells it apart from whatever it tells the value apart from, so
  that a set it is put into still is one;
* `Value.deep` — values that are too deeply nested to match a value of a given size;
* `Value.exists_decoy` — a value that is not separated is equivalent to a decoy of it.
-/
import Marginalia.Proofs.EquivalenceLaws

namespace Marginalia

namespace Value

variable {v w x : Value} {l r vs ws : List Value}

/-! ### What a structural value matches -/

section Matching

attribute [local simp] matching matchingAll allFound matchingFields

theorem matchingAll_iff :
    matchingAll vs ws = true ↔ List.Forall₂ (fun v w => matching v w = true) vs ws := by
  induction vs generalizing ws with
  | nil => cases ws <;> simp
  | cons v vs ih => cases ws <;> simp [ih]

theorem allFound_iff :
    allFound vs ws = true ↔ ∀ v ∈ vs, ∃ w ∈ ws, matching v w = true := by
  induction vs with
  | nil => simp
  | cons v vs ih => simp [ih]

/-- A value without parts is no container, whether compared by identity or by content. -/
theorem atom_ne_container (h : (∃ ws, w = tuple ws) ∨ (∃ ws, w = frozenset ws) ∨
    ∃ c m ws, w = record c m ws) : (sameUndefined v w || equalsAtom v w) = false := by
  have hsame : sameUndefined v w = false := by
    unfold sameUndefined
    rcases h with ⟨ws, rfl⟩ | ⟨ws, rfl⟩ | ⟨c, m, ws, rfl⟩ <;> split <;> simp_all [plain]
  have hequals : equalsAtom v w = false := by
    unfold equalsAtom
    rcases h with ⟨ws, rfl⟩ | ⟨ws, rfl⟩ | ⟨c, m, ws, rfl⟩ <;>
      simp only [plain, quantity?, bytes?] <;> split <;> simp_all
  rw [hsame, hequals, Bool.or_false]

theorem plain_member_ne_tuple (c : EnumClass) (d : Datum) : (member c d).plain ≠ tuple ws := by
  simp only [plain]
  split <;> cases d <;> simp [Datum.toValue]

theorem plain_member_setItems? (c : EnumClass) (d : Datum) :
    (member c d).plain.setItems? = none := by
  simp only [plain]
  split <;> cases d <;> simp [Datum.toValue, setItems?]

theorem tuple_matching_iff :
    matching (tuple vs) w = true ↔
      ∃ ws, w.plain = tuple ws ∧ List.Forall₂ (fun v w => matching v w = true) vs ws := by
  rw [matching]
  split
  · rename_i ws hw
    simp [hw, matchingAll_iff]
  · rename_i hw
    refine iff_of_false (by simp) ?_
    rintro ⟨ws, hws, -⟩
    exact hw ws hws

theorem frozenset_matching_iff :
    matching (frozenset vs) w = true ↔
      ∃ ws, w.plain.setItems? = some ws ∧ vs.length = ws.length ∧
        ∀ v ∈ vs, ∃ w ∈ ws, matching v w = true := by
  rw [matching]
  split
  · rename_i ws hw
    simp [hw, allFound_iff]
  · rename_i hw
    simp [hw]

theorem matching_derived (c : DerivedClass) : matching (derived c v) w = matching v w := by
  rw [matching]

theorem record_matching_iff {c : RecordClass} {m : Mark} (hc : c.equatable = true) :
    matching (record c m vs) w = true ↔
      ∃ d n ws, w = record d n ws ∧ c.module = d.module ∧ c.name = d.name ∧
        matchingFields c.fields vs ws = true := by
  rw [matching.eq_def]
  cases w <;> simp [hc, and_assoc]

end Matching

theorem matching_tuple_iff (h : IsConstant v) :
    matching v (tuple ws) = true ↔
      ∃ vs, v.plain = tuple vs ∧ List.Forall₂ (fun v w => matching v w = true) vs ws := by
  have hatom := @atom_ne_container v (tuple ws) (.inl ⟨ws, rfl⟩)
  cases h with
  | tuple inside => simp [tuple_matching_iff, plain]
  | frozenset inside distinct => simp [frozenset_matching_iff, plain, setItems?]
  | derivedTuple c base made => simp [matching_derived, tuple_matching_iff, plain]
  | derivedSet c base made => simp [matching_derived, frozenset_matching_iff, plain, setItems?]
  | record c m frozen equatable length inside => simp [record_matching_iff equatable, plain]
  | member c d =>
    rw [matching] <;> simp [hatom, plain_member_ne_tuple]
  | _ => rw [matching] <;> simp [hatom, plain]

theorem matching_frozenset_iff (h : IsConstant v) :
    matching v (frozenset ws) = true ↔
      ∃ vs, v.plain.setItems? = some vs ∧ vs.length = ws.length ∧
        ∀ v ∈ vs, ∃ w ∈ ws, matching v w = true := by
  have hatom := @atom_ne_container v (frozenset ws) (.inr (.inl ⟨ws, rfl⟩))
  cases h with
  | tuple inside => simp [tuple_matching_iff, plain, setItems?]
  | frozenset inside distinct => simp [frozenset_matching_iff, plain, setItems?]
  | derivedTuple c base made => simp [matching_derived, tuple_matching_iff, plain, setItems?]
  | derivedSet c base made => simp [matching_derived, frozenset_matching_iff, plain, setItems?]
  | record c m frozen equatable length inside =>
    simp [record_matching_iff equatable, plain, setItems?]
  | member c d =>
    rw [matching] <;> simp [hatom, plain_member_setItems?]
  | _ => rw [matching] <;> simp [hatom, plain, setItems?]

theorem matching_record_iff {c : RecordClass} {m : Mark} (h : IsConstant v) :
    matching v (record c m ws) = true ↔
      ∃ d n vs, v = record d n vs ∧ d.module = c.module ∧ d.name = c.name ∧
        matchingFields d.fields vs ws = true := by
  have hatom := @atom_ne_container v (record c m ws) (.inr (.inr ⟨c, m, ws, rfl⟩))
  cases h with
  | tuple inside => simp [tuple_matching_iff, plain]
  | frozenset inside distinct => simp [frozenset_matching_iff, plain, setItems?]
  | derivedTuple e base made => simp [matching_derived, tuple_matching_iff, plain]
  | derivedSet e base made => simp [matching_derived, frozenset_matching_iff, plain, setItems?]
  | record d n frozen equatable length inside => simp [record_matching_iff equatable]
  | _ => rw [matching] <;> simp [hatom]

theorem IsConstant.of_derived {c : DerivedClass} (h : IsConstant (Value.derived c v)) :
    IsConstant v := by
  cases h <;> assumption

/-- An object of a derived class is matched where the object it is derived from is. -/
theorem IsConstant.matching_derived_right {c : DerivedClass} (h : IsConstant w)
    (hv : IsConstant (Value.derived c v)) : matching w (Value.derived c v) = matching w v := by
  induction h with
  | derivedTuple d base made ih | derivedSet d base made ih =>
    rw [matching_derived, matching_derived, ih]
  | _ =>
    cases hv <;> simp [matching, plain, sameUndefined, equalsAtom, quantity?, bytes?]

/-- What a structural tuple holds, and what a tuple it is derived from holds. -/
theorem IsConstant.of_plain_tuple (h : IsConstant w) (hw : w.plain = Value.tuple ws) :
    ∀ x ∈ ws, IsConstant x ∧ sizeOf x < sizeOf w := by
  intro x hx
  have hsize := List.sizeOf_lt_of_mem hx
  cases h with
  | tuple inside =>
    cases hw
    exact ⟨inside x hx, by simp; omega⟩
  | derivedTuple c base made =>
    cases hw
    cases base with
    | tuple inside => exact ⟨inside x hx, by simp; omega⟩
  | member c d => exact absurd hw (plain_member_ne_tuple c d)
  | _ => simp [plain] at hw

theorem IsConstant.of_plain_setItems? (h : IsConstant w) (hw : w.plain.setItems? = some ws) :
    ∀ x ∈ ws, IsConstant x ∧ sizeOf x < sizeOf w := by
  intro x hx
  have hsize := List.sizeOf_lt_of_mem hx
  cases h with
  | frozenset inside distinct =>
    cases hw
    exact ⟨inside x hx, by simp; omega⟩
  | derivedSet c base made =>
    cases hw
    cases base with
    | frozenset inside distinct => exact ⟨inside x hx, by simp; omega⟩
  | member c d => simp [plain_member_setItems?] at hw
  | _ => simp [plain, setItems?] at hw

theorem IsConstant.of_record {c : RecordClass} {m : Mark}
    (h : IsConstant (Value.record c m ws)) :
    ∀ x ∈ ws, IsConstant x ∧ sizeOf x < sizeOf (Value.record c m ws) := by
  intro x hx
  have hsize := List.sizeOf_lt_of_mem hx
  cases h with
  | record _ _ frozen equatable length inside => exact ⟨inside x hx, by simp; omega⟩

/-! ### Replacing an item of a list -/

theorem forall₂_replace_left {R : Value → Value → Prop} (h : ∀ w ∈ ws, R x w → R v w)
    (hR : List.Forall₂ R (l ++ x :: r) ws) : List.Forall₂ R (l ++ v :: r) ws := by
  induction l generalizing ws with
  | nil =>
    obtain _ | ⟨hxw, hrest⟩ := hR
    exact .cons (h _ List.mem_cons_self hxw) hrest
  | cons u l ih =>
    obtain _ | ⟨huw, hrest⟩ := hR
    exact .cons huw (ih (fun w hw => h w (List.mem_cons_of_mem _ hw)) hrest)

theorem forall₂_replace_right {R : Value → Value → Prop} (h : ∀ w ∈ ws, R w x → R w v)
    (hR : List.Forall₂ R ws (l ++ x :: r)) : List.Forall₂ R ws (l ++ v :: r) := by
  have hflip : List.Forall₂ (flip R) (l ++ x :: r) ws := List.Forall₂.flip hR
  exact (forall₂_replace_left (R := flip R) h hflip).flip

theorem forall₂_replaced {R : Value → Value → Prop}
    (hR : List.Forall₂ R (l ++ x :: r) ws) : ∃ w ∈ ws, R x w := by
  induction l generalizing ws with
  | nil =>
    obtain _ | ⟨hxw, hrest⟩ := hR
    exact ⟨_, List.mem_cons_self, hxw⟩
  | cons u l ih =>
    obtain _ | ⟨huw, hrest⟩ := hR
    obtain ⟨w, hw, hxw⟩ := ih hrest
    exact ⟨w, List.mem_cons_of_mem _ hw, hxw⟩

theorem pairwise_replace {R : Value → Value → Prop} (hl : ∀ u ∈ l, R u v → R u x)
    (hr : ∀ u ∈ r, R v u → R x u) (hR : (l ++ v :: r).Pairwise R) :
    (l ++ x :: r).Pairwise R := by
  simp only [List.pairwise_append, List.pairwise_cons, List.forall_mem_cons] at hR ⊢
  obtain ⟨hleft, ⟨hv, hright⟩, hacross⟩ := hR
  exact ⟨hleft, ⟨fun u hu => hr u hu (hv u hu), hright⟩,
    fun u hu => ⟨hl u hu (hacross u hu).1, (hacross u hu).2⟩⟩

theorem matchingFields_replace_left {fs : List RecordField}
    (h : ∀ w ∈ ws, matching x w = true → matching v w = true)
    (hR : matchingFields fs (l ++ x :: r) ws = true) :
    matchingFields fs (l ++ v :: r) ws = true := by
  induction l generalizing fs ws with
  | nil =>
    obtain _ | ⟨f, fs⟩ := fs <;> obtain _ | ⟨w, ws⟩ := ws <;> simp [matchingFields] at hR ⊢
    exact ⟨hR.1.imp_right (h w List.mem_cons_self), hR.2⟩
  | cons u l ih =>
    obtain _ | ⟨f, fs⟩ := fs <;> obtain _ | ⟨w, ws⟩ := ws <;> simp [matchingFields] at hR ⊢
    exact ⟨hR.1, ih (fun w hw => h w (List.mem_cons_of_mem _ hw)) hR.2⟩

theorem matchingFields_replace_right {fs : List RecordField}
    (h : ∀ w ∈ ws, matching w x = true → matching w v = true)
    (hR : matchingFields fs ws (l ++ x :: r) = true) :
    matchingFields fs ws (l ++ v :: r) = true := by
  induction l generalizing fs ws with
  | nil =>
    obtain _ | ⟨f, fs⟩ := fs <;> obtain _ | ⟨w, ws⟩ := ws <;> simp [matchingFields] at hR ⊢
    exact ⟨hR.1.imp_right (h w List.mem_cons_self), hR.2⟩
  | cons u l ih =>
    obtain _ | ⟨f, fs⟩ := fs <;> obtain _ | ⟨w, ws⟩ := ws <;> simp [matchingFields] at hR ⊢
    exact ⟨hR.1, ih (fun w hw => h w (List.mem_cons_of_mem _ hw)) hR.2⟩

/-! ### Decoys -/

/-- `b` is equivalent to no value of size `n`, and among these matches only what `a` does. -/
structure Decoy (n : Nat) (a b : Value) : Prop where
  constant : IsConstant b
  unlike : ∀ w, IsConstant w → sizeOf w ≤ n → equivalent b w = false
  matching_of : ∀ w, IsConstant w → sizeOf w ≤ n → matching b w = true → matching a w = true
  of_matching : ∀ w, IsConstant w → sizeOf w ≤ n → matching w b = true → matching w a = true

/-- A tuple in a tuple in a tuple, so many deep. -/
def deep : Nat → Value
  | 0 => tuple []
  | n + 1 => tuple [deep n]

theorem deep_isConstant (n : Nat) : IsConstant (deep n) := by
  induction n with
  | zero => exact .tuple (by simp)
  | succ n ih => exact .tuple (by simpa using ih)

theorem equivalent_deep {n : Nat} (hn : sizeOf w ≤ n) : equivalent (deep n) w = false := by
  induction n generalizing w with
  | zero => cases w <;> simp at hn
  | succ n ih =>
    rw [Bool.eq_false_iff]
    intro h
    obtain ⟨ws, rfl, hall⟩ := equivalent_tuple_iff.mp h
    obtain ⟨x, hx, hequiv⟩ := forall₂_replaced (l := []) hall
    have hsize := List.sizeOf_lt_of_mem hx
    simp only [tuple.sizeOf_spec] at hn
    rw [ih (by omega)] at hequiv
    cases hequiv

theorem deep_matching {n : Nat} (h : IsConstant w) (hn : sizeOf w ≤ n) :
    matching (deep n) w = false := by
  induction n generalizing w with
  | zero => cases w <;> simp at hn
  | succ n ih =>
    rw [Bool.eq_false_iff]
    intro hmatch
    obtain ⟨ws, hws, hall⟩ := tuple_matching_iff.mp hmatch
    obtain ⟨x, hx, hmatch'⟩ := forall₂_replaced (l := []) hall
    obtain ⟨hconstant, hsize⟩ := h.of_plain_tuple hws x hx
    rw [ih hconstant (by omega)] at hmatch'
    cases hmatch'

theorem matching_deep {n : Nat} (h : IsConstant w) (hn : sizeOf w ≤ n) :
    matching w (deep n) = false := by
  induction n generalizing w with
  | zero => cases w <;> simp at hn
  | succ n ih =>
    rw [Bool.eq_false_iff]
    intro hmatch
    obtain ⟨ws, hws, hall⟩ := (matching_tuple_iff h).mp hmatch
    have hflip : List.Forall₂ (flip fun v w => matching v w = true) [deep n] ws :=
      List.Forall₂.flip hall
    obtain ⟨x, hx, hmatch'⟩ := forall₂_replaced (l := []) hflip
    obtain ⟨hconstant, hsize⟩ := h.of_plain_tuple hws x hx
    have hmatch' : matching x (deep n) = true := hmatch'
    rw [ih hconstant (by omega)] at hmatch'
    cases hmatch'

theorem deep_decoy (n : Nat) (a : Value) : Decoy n a (deep n) where
  constant := deep_isConstant n
  unlike w _ hn := equivalent_deep hn
  matching_of w hw hn hmatch := by
    rw [deep_matching hw hn] at hmatch
    cases hmatch
  of_matching w hw hn hmatch := by
    rw [matching_deep hw hn] at hmatch
    cases hmatch

namespace Decoy

variable {n k : Nat} {a b : Value}

theorem mono (hk : n ≤ k) (h : Decoy k a b) : Decoy n a b where
  constant := h.constant
  unlike w hw hn := h.unlike w hw (hn.trans hk)
  matching_of w hw hn := h.matching_of w hw (hn.trans hk)
  of_matching w hw hn := h.of_matching w hw (hn.trans hk)

/-- What all the items of a list are, they still are when one is replaced. -/
theorem constant_replace (h : Decoy n v x) (hvs : ∀ u ∈ l ++ v :: r, IsConstant u) :
    ∀ u ∈ l ++ x :: r, IsConstant u := by
  have hx := h.constant
  simp only [List.mem_append, List.mem_cons] at hvs ⊢
  rintro u (hu | rfl | hu)
  · exact hvs u (.inl hu)
  · exact hx
  · exact hvs u (.inr (.inr hu))

theorem tuple (h : Decoy n v x) (hvs : ∀ u ∈ l ++ v :: r, IsConstant u) :
    Decoy n (tuple (l ++ v :: r)) (tuple (l ++ x :: r)) where
  constant := .tuple (h.constant_replace hvs)
  unlike w hw hn := by
    rw [Bool.eq_false_iff]
    intro hequiv
    obtain ⟨ws, rfl, hall⟩ := equivalent_tuple_iff.mp hequiv
    obtain ⟨u, hu, hxu⟩ := forall₂_replaced hall
    obtain ⟨hconstant, hsize⟩ := hw.of_plain_tuple rfl u hu
    rw [h.unlike u hconstant (by omega)] at hxu
    cases hxu
  matching_of w hw hn hmatch := by
    obtain ⟨ws, hws, hall⟩ := tuple_matching_iff.mp hmatch
    refine tuple_matching_iff.mpr ⟨ws, hws, forall₂_replace_left (fun u hu => ?_) hall⟩
    obtain ⟨hconstant, hsize⟩ := hw.of_plain_tuple hws u hu
    exact h.matching_of u hconstant (by omega)
  of_matching w hw hn hmatch := by
    obtain ⟨ws, hws, hall⟩ := (matching_tuple_iff hw).mp hmatch
    refine (matching_tuple_iff hw).mpr ⟨ws, hws, forall₂_replace_right (fun u hu => ?_) hall⟩
    obtain ⟨hconstant, hsize⟩ := hw.of_plain_tuple hws u hu
    exact h.of_matching u hconstant (by omega)

/-- The members of a set stay distinct: the decoy matches none that its model does not. -/
theorem frozenset (h : Decoy n v x) (hvs : ∀ u ∈ l ++ v :: r, IsConstant u)
    (hn : ∀ u ∈ l ++ v :: r, sizeOf u ≤ n)
    (hdistinct : (l ++ v :: r).Pairwise fun u w => matching w u = false) :
    Decoy n (frozenset (l ++ v :: r)) (frozenset (l ++ x :: r)) where
  constant := by
    refine .frozenset (h.constant_replace hvs) (pairwise_replace ?_ ?_ hdistinct)
    · intro u hu hne
      have hmem : u ∈ l ++ v :: r := by simp [hu]
      rw [Bool.eq_false_iff] at hne ⊢
      exact fun hmatch => hne (h.matching_of u (hvs u hmem) (hn u hmem) hmatch)
    · intro u hu hne
      have hmem : u ∈ l ++ v :: r := by simp [hu]
      rw [Bool.eq_false_iff] at hne ⊢
      exact fun hmatch => hne (h.of_matching u (hvs u hmem) (hn u hmem) hmatch)
  unlike w hw hk := by
    rw [Bool.eq_false_iff]
    intro hequiv
    obtain ⟨ws, rfl, -, hpartner⟩ := equivalent_frozenset_iff.mp hequiv
    obtain ⟨u, hu, hxu⟩ := hpartner x (by simp)
    obtain ⟨hconstant, hsize⟩ := hw.of_plain_setItems? rfl u hu
    rw [h.unlike u hconstant (by omega)] at hxu
    cases hxu
  matching_of w hw hk hmatch := by
    obtain ⟨ws, hws, hlength, hfound⟩ := frozenset_matching_iff.mp hmatch
    refine frozenset_matching_iff.mpr ⟨ws, hws, by simpa using hlength, fun u hu => ?_⟩
    rcases List.mem_append.mp hu with hu | hu
    · exact hfound u (by simp [hu])
    · rcases List.mem_cons.mp hu with rfl | hu
      · obtain ⟨u, hu, hxu⟩ := hfound x (by simp)
        obtain ⟨hconstant, hsize⟩ := hw.of_plain_setItems? hws u hu
        exact ⟨u, hu, h.matching_of u hconstant (by omega) hxu⟩
      · exact hfound u (by simp [hu])
  of_matching w hw hk hmatch := by
    obtain ⟨ws, hws, hlength, hfound⟩ := (matching_frozenset_iff hw).mp hmatch
    refine (matching_frozenset_iff hw).mpr ⟨ws, hws, by simpa using hlength, fun u hu => ?_⟩
    obtain ⟨hconstant, hsize⟩ := hw.of_plain_setItems? hws u hu
    obtain ⟨y, hy, huy⟩ := hfound u hu
    rcases List.mem_append.mp hy with hy | hy
    · exact ⟨y, by simp [hy], huy⟩
    · rcases List.mem_cons.mp hy with rfl | hy
      · exact ⟨v, by simp, h.of_matching u hconstant (by omega) huy⟩
      · exact ⟨y, by simp [hy], huy⟩

theorem record {c : RecordClass} (m : Mark) (frozen : c.frozen = true)
    (equatable : c.equatable = true) (length : (l ++ v :: r).length = c.fields.length)
    (h : Decoy n v x) (hvs : ∀ u ∈ l ++ v :: r, IsConstant u) :
    Decoy n (record c m (l ++ v :: r)) (record c m (l ++ x :: r)) where
  constant := .record c m frozen equatable (by simpa using length) (h.constant_replace hvs)
  unlike w hw hn := by
    rw [Bool.eq_false_iff]
    intro hequiv
    obtain ⟨d, k, ws, rfl, -, -, hall⟩ := equivalent_record_iff.mp hequiv
    obtain ⟨u, hu, hxu⟩ := forall₂_replaced hall
    obtain ⟨hconstant, hsize⟩ := hw.of_record u hu
    rw [h.unlike u hconstant (by omega)] at hxu
    cases hxu
  matching_of w hw hn hmatch := by
    obtain ⟨d, k, ws, rfl, hmodule, hname, hfields⟩ := (record_matching_iff equatable).mp hmatch
    refine (record_matching_iff equatable).mpr ⟨d, k, ws, rfl, hmodule, hname,
      matchingFields_replace_left (fun u hu => ?_) hfields⟩
    obtain ⟨hconstant, hsize⟩ := hw.of_record u hu
    exact h.matching_of u hconstant (by omega)
  of_matching w hw hn hmatch := by
    obtain ⟨d, k, ws, rfl, hmodule, hname, hfields⟩ := (matching_record_iff hw).mp hmatch
    refine (matching_record_iff hw).mpr ⟨d, k, ws, rfl, hmodule, hname,
      matchingFields_replace_right (fun u hu => ?_) hfields⟩
    obtain ⟨hconstant, hsize⟩ := hw.of_record u hu
    exact h.of_matching u hconstant (by omega)

theorem derived {c : DerivedClass} (ha : IsConstant (derived c a)) (hb : IsConstant (derived c b))
    (h : Decoy n a b) : Decoy n (derived c a) (derived c b) where
  constant := hb
  unlike w hw hn := by
    rw [Bool.eq_false_iff]
    intro hequiv
    obtain ⟨d, u, rfl, -, -, hu⟩ := equivalent_derived_iff.mp hequiv
    simp only [derived.sizeOf_spec] at hn
    rw [h.unlike u hw.of_derived (by omega)] at hu
    cases hu
  matching_of w hw hn := by
    rw [matching_derived, matching_derived]
    exact h.matching_of w hw hn
  of_matching w hw hn := by
    rw [hw.matching_derived_right ha, hw.matching_derived_right hb]
    exact h.of_matching w hw hn

end Decoy

theorem not_separated (hs : ¬ v.Separated) : ¬ v.HoldsOnce ∨ ∃ u ∈ v.parts, ¬ u.Separated := by
  by_contra hno
  push Not at hno
  exact hs ⟨hno.1, hno.2⟩

theorem exists_of_not_pairwise {R : Value → Value → Prop} (h : ¬ vs.Pairwise R) :
    ∃ l v r, vs = l ++ v :: r ∧ ∃ u ∈ l, ¬ R u v := by
  rw [List.pairwise_iff_getElem] at h
  push Not at h
  obtain ⟨i, j, hi, hj, hij, hR⟩ := h
  refine ⟨vs.take j, vs[j], vs.drop (j + 1), by simp, vs[i], ?_, hR⟩
  exact List.mem_take_iff_getElem.mpr ⟨i, by omega, rfl⟩

/-- The decoy of a set, in which `v` has an equivalent beside the place of `v`. -/
theorem exists_decoy_frozenset {n : Nat} (hvs : ∀ u ∈ l ++ v :: r, IsConstant u)
    (hdistinct : (l ++ v :: r).Pairwise fun u w => matching w u = false)
    (hdecoy : ∀ k, ∃ x, Decoy k v x ∧ ∃ y ∈ l ++ x :: r, equivalent v y = true) :
    ∃ b, Decoy n (frozenset (l ++ v :: r)) b ∧
      equivalent (frozenset (l ++ v :: r)) b = true := by
  -- the decoy has to differ from the members it joins as well as from what it hides from
  obtain ⟨x, hx, y, hy, hvy⟩ := hdecoy (max n (sizeOf (frozenset (l ++ v :: r))))
  refine ⟨frozenset (l ++ x :: r), ?_, ?_⟩
  · refine (hx.frozenset hvs (fun u hu => ?_) hdistinct).mono (Nat.le_max_left ..)
    have hsize := List.sizeOf_lt_of_mem hu
    simp only [frozenset.sizeOf_spec]
    omega
  · refine equivalent_frozenset_iff.mpr ⟨_, rfl, by simp, fun u hu => ?_⟩
    have hself := equivalent_refl (hvs u hu)
    rcases List.mem_append.mp hu with hu | hu
    · exact ⟨u, by simp [hu], hself⟩
    · rcases List.mem_cons.mp hu with rfl | hu
      · exact ⟨y, hy, hvy⟩
      · exact ⟨u, by simp [hu], hself⟩

theorem forall₂_equivalent_replace (hvs : ∀ u ∈ l ++ v :: r, IsConstant u)
    (hvx : equivalent v x = true) :
    List.Forall₂ (fun v w => equivalent v w = true) (l ++ v :: r) (l ++ x :: r) := by
  refine forall₂_replace_right (x := v) (fun u hu huv => ?_)
    (List.forall₂_same.mpr fun u hu => equivalent_refl (hvs u hu))
  exact equivalent_trans (hvs u hu) huv hvx

/-- A value that is not separated is equivalent to one that is equivalent to nothing of a
given size. -/
theorem exists_decoy {a : Value} (h : IsConstant a) (hs : ¬ a.Separated) (n : Nat) :
    ∃ b, Decoy n a b ∧ equivalent a b = true := by
  induction h generalizing n with
  | @tuple vs inside ih =>
    obtain hhere | ⟨v, hv, hs⟩ := not_separated hs
    · exact absurd trivial hhere
    · obtain ⟨x, hx, hvx⟩ := ih v hv hs n
      obtain ⟨l, r, rfl⟩ := List.append_of_mem hv
      exact ⟨_, hx.tuple inside,
        equivalent_tuple_iff.mpr ⟨_, rfl, forall₂_equivalent_replace inside hvx⟩⟩
  | @frozenset vs inside distinct ih =>
    obtain hhere | ⟨v, hv, hs⟩ := not_separated hs
    · -- the later of two equivalent members gives way, and has the earlier for a partner
      obtain ⟨l, v, r, rfl, u, hu, hvu⟩ := exists_of_not_pairwise hhere
      refine exists_decoy_frozenset inside distinct fun k => ⟨deep k, deep_decoy k v, u, ?_, ?_⟩
      · simp [hu]
      · simpa using hvu
    · have hx := ih v hv hs
      obtain ⟨l, r, rfl⟩ := List.append_of_mem hv
      refine exists_decoy_frozenset inside distinct fun k => ?_
      obtain ⟨x, hx, hvx⟩ := hx k
      exact ⟨x, hx, x, by simp, hvx⟩
  | derivedTuple c base made ih =>
    obtain hhere | ⟨v, hv, hs⟩ := not_separated hs
    · exact absurd trivial hhere
    · obtain rfl := List.mem_singleton.mp hv
      obtain ⟨b, hb, hequiv⟩ := ih hs n
      obtain ⟨ws, rfl, hall⟩ := equivalent_tuple_iff.mp hequiv
      have hlength := hall.length_eq
      refine ⟨derived c (tuple ws), hb.derived (.derivedTuple c base made) ?_,
        equivalent_derived_iff.mpr ⟨c, _, rfl, rfl, rfl, hequiv⟩⟩
      exact .derivedTuple c hb.constant
        ⟨made.1, fun names hnames => hlength.symm.trans (made.2 names hnames)⟩
  | derivedSet c base made ih =>
    obtain hhere | ⟨v, hv, hs⟩ := not_separated hs
    · exact absurd trivial hhere
    · obtain rfl := List.mem_singleton.mp hv
      obtain ⟨b, hb, hequiv⟩ := ih hs n
      obtain ⟨ws, rfl, hlength, -⟩ := equivalent_frozenset_iff.mp hequiv
      refine ⟨derived c (frozenset ws), hb.derived (.derivedSet c base made) ?_,
        equivalent_derived_iff.mpr ⟨c, _, rfl, rfl, rfl, hequiv⟩⟩
      exact .derivedSet c hb.constant
        ⟨made.1, fun names hnames => hlength.symm.trans (made.2 names hnames)⟩
  | @record c m vs frozen equatable length inside ih =>
    obtain hhere | ⟨v, hv, hs⟩ := not_separated hs
    · exact absurd trivial hhere
    · obtain ⟨x, hx, hvx⟩ := ih v hv hs n
      obtain ⟨l, r, rfl⟩ := List.append_of_mem hv
      exact ⟨_, hx.record m frozen equatable length inside,
        equivalent_record_iff.mpr
          ⟨c, m, _, rfl, rfl, rfl, forall₂_equivalent_replace inside hvx⟩⟩
  | _ => exact absurd ⟨trivial, by simp [parts]⟩ hs

/-- The equivalences that cannot be turned around are those of the values that are not
separated. -/
theorem separated_iff {a : Value} (h : IsConstant a) :
    a.Separated ↔ ∀ b, IsConstant b → equivalent a b = true → equivalent b a = true := by
  constructor
  · intro hs b _ hab
    exact equivalent_symm h hs hab
  · intro hsymm
    by_contra hs
    -- a decoy of the size of the value itself is not equivalent to it
    obtain ⟨b, hb, hab⟩ := exists_decoy h hs (sizeOf a)
    have hba := hsymm b hb.constant hab
    rw [hb.unlike a h le_rfl] at hba
    cases hba

end Value

end Marginalia
