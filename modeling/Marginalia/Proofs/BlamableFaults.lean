/-
Faults that can be blamed on a place.

What goes wrong in an operation is blamed on the place of the expression, in a sentence that
names the fault.  One kind of fault has a sentence that cannot always be written: a key that is
missing may hold an integer of too many digits.  Only operations that look for a key end in it;
no operator, no question and no attribute does.

* `Blamable` — every fault that a result can be is one whose sentence can be written;
* `Value.blamable_operate`, `Value.blamable_compare`, `Value.blamable_contains`,
  `Value.blamable_truth`, `Value.blamable_items`, `Value.blamable_readAttribute` — operations
  whose results are;
* `Value.subscript_fault` — a subscript ends in another fault only if it misses the key.
-/
import Mathlib.Tactic
import Marginalia.Value.Methods
import Marginalia.Value.Operate

namespace Marginalia

variable {α β : Type}

/-- A result that is no fault, or one whose sentence can be written. -/
def Blamable (r : Except Fault α) : Prop := ∀ f, r = .error f → f.isWritable = true

namespace Blamable

@[simp] theorem ok (a : α) : Blamable (.ok a) := nofun

@[simp] theorem pure (a : α) : Blamable (Pure.pure a : Except Fault α) := ok a

@[simp] theorem error_iff {f : Fault} :
    Blamable (.error f : Except Fault α) ↔ f.isWritable = true :=
  ⟨fun h => h f rfl, fun h _ hf => Except.error.inj hf ▸ h⟩

@[simp] theorem throw_iff {f : Fault} :
    Blamable (throw f : Except Fault α) ↔ f.isWritable = true := error_iff

theorem bind {x : Except Fault α} {k : α → Except Fault β} (hx : Blamable x)
    (hk : ∀ a, Blamable (k a)) : Blamable (x >>= k) := by
  cases x with
  | ok a => exact hk a
  | error f => exact error_iff.mpr (hx f rfl)

@[simp] theorem map_iff {x : Except Fault α} {k : α → β} : Blamable (x.map k) ↔ Blamable x := by
  cases x with
  | ok a => exact iff_of_true (ok _) (ok _)
  | error f => exact error_iff.trans error_iff.symm

@[simp] theorem fmap_iff {x : Except Fault α} {k : α → β} : Blamable (k <$> x) ↔ Blamable x :=
  map_iff

@[simp] theorem ite_iff {p : Prop} [Decidable p] {x y : Except Fault α} :
    Blamable (if p then x else y) ↔ (p → Blamable x) ∧ (¬p → Blamable y) := by
  split <;> simp_all

theorem getD {o : Option (Except Fault α)} {x : Except Fault α} (ho : ∀ r, o = some r → Blamable r)
    (hx : Blamable x) : Blamable (o.getD x) := by
  cases o with
  | none => exact hx
  | some r => exact ho r rfl

end Blamable

attribute [simp] Fault.isWritable

theorem isWritable_tooManyDigits : Fault.tooManyDigits.isWritable = true := rfl

/-! ### Questions -/

namespace Value

@[simp] theorem blamable_truth (v : Value) : Blamable v.truth := by
  unfold truth
  split <;> try simp
  · split <;> simp
  · split <;> simp

theorem blamable_compareContents (op : Comparison) (v w : Value) :
    Blamable (compareContents op v w) := by
  unfold compareContents
  repeat' split
  all_goals try simp
  unfold refuseOrder unordered
  split <;> simp

theorem blamable_compareAtoms (op : Comparison) (v w : Value) :
    Blamable (compareAtoms op v w) := by
  unfold compareAtoms
  repeat' split
  all_goals first | exact blamable_compareContents op v w | simp [unordered]

theorem blamable_compareTurned (op : Comparison) (turned : Bool) (v w : Value) :
    Blamable (if turned then compareAtoms op.mirror w v else compareAtoms op v w) := by
  split <;> exact blamable_compareAtoms _ _ _

-- a comparison goes into tuples, lists and what is derived from tuples, item by item
mutual

theorem blamable_compareAsked (op : Comparison) : ∀ (turned : Bool) (v w : Value),
    Blamable (compareAsked op turned v w)
  | turned, tuple vs, w => by
    have h := blamable_compareTurned op turned (tuple vs) w
    rw [compareAsked]
    split
    · exact blamable_compareItems op _ vs _
    · exact h
  | turned, list m vs, w => by
    have h := blamable_compareTurned op turned (list m vs) w
    rw [compareAsked]
    split
    · exact blamable_compareItems op _ vs _
    · exact h
  | turned, derived c v, w => by
    have h := blamable_compareTurned op turned (derived c v) w
    cases v with
    | tuple vs =>
      rw [compareAsked]
      split
      · exact blamable_compareItems op _ vs _
      · exact h
    | _ => exact h
  | turned, nothing, w | turned, ellipsis, w | turned, bool _, w | turned, int _, w
  | turned, float .., w | turned, complex .., w | turned, str _, w | turned, bytes _, w
  | turned, bytearray .., w | turned, set .., w | turned, frozenset _, w | turned, dict .., w
  | turned, slice .., w | turned, member .., w | turned, record .., w | turned, object .., w
  | turned, type _, w | turned, function _, w | turned, method .., w | turned, slot .., w
  | turned, space .., w => blamable_compareTurned op turned _ w

theorem blamable_compareItems (op : Comparison) : ∀ (turned : Bool) (vs ws : List Value),
    Blamable (compareItems op turned vs ws)
  | _, [], [] | _, [], _ :: _ | _, _ :: _, [] => by simp [compareItems]
  | turned, v :: vs, w :: ws => by
    rw [compareItems]
    split
    · exact blamable_compareItems op turned vs ws
    · exact blamable_compareAsked op turned v w

end

@[simp] theorem blamable_compare (op : Comparison) (v w : Value) : Blamable (compare op v w) :=
  blamable_compareAsked op false v w

@[simp] theorem blamable_items (v : Value) : Blamable v.items := by
  unfold items
  repeat' split
  all_goals simp

@[simp] theorem blamable_hashable (v : Value) : Blamable v.hashable := by
  unfold hashable
  split <;> simp

theorem blamable_bitsContain (c : EnumClass) (d : Datum) (v : Value) :
    Blamable (bitsContain c d v) := by
  unfold bitsContain
  repeat' split
  all_goals simp

@[simp] theorem blamable_amongMembers (v : Value) (vs : List Value) :
    Blamable (v.amongMembers vs) := by
  unfold amongMembers
  split
  · simp
  · exact (blamable_hashable v).bind fun _ => .pure _

@[simp] theorem blamable_contains (v inside : Value) : Blamable (v.contains inside) := by
  have hkey (vs : List Value) : Blamable (do v.hashable; return v.isAmong vs) :=
    (blamable_hashable v).bind fun _ => .pure _
  unfold contains amongItems
  repeat' split
  all_goals first
    | exact blamable_bitsContain _ _ _
    | exact hkey _
    | exact blamable_amongMembers _ _
    | simp

theorem blamable_realOfInt (n : Int) : Blamable (realOfInt n) := by
  unfold realOfInt
  split <;> simp

theorem blamable_slicePart (v : Value) : Blamable v.slicePart := by
  unfold slicePart
  split
  · simp
  · split <;> simp

theorem blamable_slicePositions (start stop step : Option Int) (length : Nat) :
    Blamable (slicePositions start stop step length) := by
  unfold slicePositions
  simp

theorem blamable_sliced (start stop step : Value) (xs : List α) :
    Blamable (sliced start stop step xs) := by
  refine (blamable_slicePart step).bind fun k => ?_
  have hparts : Blamable (do
      let first ← slicePart start
      let last ← slicePart stop
      let ps ← slicePositions first last k xs.length
      return ps.filterMap fun i => xs[i]?) :=
    (blamable_slicePart start).bind fun _ => (blamable_slicePart stop).bind fun _ =>
      (blamable_slicePositions _ _ _ _).bind fun _ => .pure _
  dsimp only
  split
  -- a step of zero is refused before the bounds are read
  · exact .bind (Blamable.throw_iff.mpr rfl) fun _ => hparts
  · exact hparts

theorem blamable_itemAt (what : String) (n : Int) (xs : List α) : Blamable (itemAt what n xs) := by
  unfold itemAt
  split
  · simp
  · split <;> simp

theorem blamable_pick (what refusal : String) (xs : List α) (one : α → Value)
    (many : List α → Value) (i : Value) : Blamable (pick what refusal xs one many i) := by
  unfold pick
  split
  · exact Blamable.map_iff.mpr (blamable_itemAt _ _ _)
  · split
    · exact Blamable.map_iff.mpr (blamable_sliced _ _ _ _)
    · simp

/-- A subscript that ends in a fault whose sentence cannot be written misses the key. -/
theorem subscript_fault {v i : Value} {f : Fault} (h : v.subscript i = .error f)
    (hf : f.isWritable = false) : f = .missingKey i := by
  have hblamed {r : Except Fault Value} (hr : Blamable r) (h : r = .error f) :
      f = .missingKey i := absurd (hr f h) (Bool.eq_false_iff.mp hf)
  have hkeyed {r : Except Fault Value} (hr : ∀ f, r = .error f → f = .missingKey i)
      (h : (do i.hashable; r) = .error f) : f = .missingKey i := by
    cases hi : i.hashable with
    | ok u =>
      rw [hi] at h
      exact hr f h
    | error g =>
      rw [hi] at h
      cases h
      exact absurd (blamable_hashable i f hi) (Bool.eq_false_iff.mp hf)
  unfold subscript at h
  split at h
  -- mappings and enumerations are the two that look for a key
  case h_6 =>
    refine hkeyed (fun f hf => ?_) h
    split at hf <;> cases hf
    rfl
  case h_7 =>
    refine hkeyed (fun f hf => ?_) h
    repeat' split at hf
    all_goals
      cases hf
      try rfl
  case h_10 =>
    refine hblamed ?_ h
    split <;> simp
  all_goals first | exact hblamed (blamable_pick _ _ _ _ _ _) h | exact hblamed (by simp) h

end Value

/-! ### Templates -/

namespace Template

theorem blamable_next (s : Supply) : Blamable s.next := by
  unfold Supply.next
  split <;> simp

theorem blamable_starred (l : SizeLimit) (v : Value) : Blamable (starred l v) := by
  unfold starred
  dsimp only
  split
  · simp
  · simp
  · exact .bind (Blamable.throw_iff.mpr rfl) fun n => by simp

theorem blamable_takeSize (l : SizeLimit) (cs : List Char) (s : Supply) :
    Blamable (takeSize l cs s) := by
  unfold takeSize
  split
  · exact (blamable_next s).bind fun r => (blamable_starred l _).bind fun n => .pure _
  · refine Blamable.bind ?_ fun r => .pure _
    unfold takeDigits
    dsimp only
    split <;> simp

theorem blamable_pad (f : Flags) (numeric : Bool) (width : Nat) (sign body : String) :
    Blamable (pad f numeric width sign body) := by
  unfold pad
  repeat' split
  all_goals simp

theorem blamable_writable (v : Value) : Blamable (writable v) := by
  unfold writable
  split
  · simp
  · exact Blamable.error_iff.mpr isWritable_tooManyDigits

theorem blamable_bytesFor (v : Value) : Blamable (bytesFor v) := by
  unfold bytesFor
  split <;> simp

theorem blamable_textFor {form : Form} {letter : Char} {v : Value} {r : Except Fault String}
    (h : textFor? form letter v = some r) : Blamable r := by
  have hwritten (g : Value → String) : Blamable (do return g (← writable v)) :=
    (blamable_writable v).bind fun _ => .pure _
  unfold textFor? at h
  split at h <;> cases h
  · exact hwritten _
  · exact hwritten _
  · exact hwritten _
  · exact hwritten _
  · exact blamable_bytesFor v
  · exact blamable_bytesFor v

theorem blamable_characterFor (v : Value) : Blamable (characterFor v) := by
  have hnumber (n : Int) : Blamable (characterFor.ofNumber n) := by
    unfold characterFor.ofNumber
    split <;> simp
  unfold characterFor
  repeat' split
  all_goals first | exact hnumber _ | simp

theorem blamable_byteFor (v : Value) : Blamable (byteFor v) := by
  have hnumber (n : Int) : Blamable (byteFor.ofNumber n) := by
    unfold byteFor.ofNumber
    split <;> simp
  unfold byteFor
  split <;> first | exact hnumber _ | simp

theorem blamable_integerFor (letter : Char) (v : Value) : Blamable (integerFor letter v) := by
  have hrefuse (based : Bool) : Blamable (integerFor.refuse letter v based) := by
    simp [integerFor.refuse]
  unfold integerFor
  split <;> simp [hrefuse]

theorem blamable_integerText (letter : Char) (least n : Nat) :
    Blamable (integerText letter least n) := by
  unfold integerText
  dsimp only
  split <;> simp

theorem blamable_realFor (form : Form) (v : Value) : Blamable (realFor form v) := by
  unfold realFor
  split
  · exact Value.blamable_realOfInt _
  · simp
  · simp

theorem blamable_convert (form : Form) (f : Flags) (width : Nat) (precision : Option Nat)
    (letter : Char) (v : Value) : Blamable (convert form f width precision letter v) := by
  unfold convert
  split
  · rename_i r hr
    exact (blamable_textFor hr).bind fun _ => blamable_pad _ _ _ _ _
  · split
    · cases form with
      | text => exact (blamable_characterFor v).bind fun c => blamable_pad _ _ _ _ _
      | bytes => exact (blamable_byteFor v).bind fun c => blamable_pad _ _ _ _ _
    -- the letters of reals are what the match leaves over
    case h_8 =>
      refine (blamable_realFor form v).bind fun x => ?_
      have hshown := blamable_pad f true width
      dsimp only
      split
      · exact Blamable.throw_iff.mpr rfl
      · exact hshown _ _
    all_goals
      refine (blamable_integerFor _ v).bind fun n => ?_
      dsimp only
      split
      · exact Blamable.throw_iff.mpr isWritable_tooManyDigits
      · exact (blamable_integerText _ _ _).bind fun _ => blamable_pad _ _ _ _ _

/-- The keys of a template are texts or bytes, which can be written. -/
theorem isWritable_keyValue (form : Form) (key : List Char) :
    (keyValue form key).isWritable = true := by
  cases form <;> rfl

theorem blamable_takeKeyed (form : Form) (cs : List Char) (s : Supply) :
    Blamable (takeKeyed form cs s) := by
  unfold takeKeyed
  repeat' split
  all_goals try simp
  -- the key is made from the template itself, so it can be written if it is missing
  rename_i m key rest _
  intro f hf
  by_contra hwritable
  obtain rfl := Value.subscript_fault hf (Bool.eq_false_iff.mpr hwritable)
  exact hwritable (isWritable_keyValue form key)

theorem blamable_takePrecision (form : Form) (cs : List Char) (s : Supply) :
    Blamable (takePrecision form cs s) := by
  unfold takePrecision
  split
  · exact (blamable_takeSize _ _ s).bind fun _ => .pure _
  · exact .pure _

theorem blamable_convertNext (form : Form) (total : Nat) (f : Flags) (width : Nat)
    (precision : Option Nat) (cs : List Char) (s : Supply) :
    Blamable (convertNext form total f width precision cs s) := by
  unfold convertNext
  split
  · simp
  · rename_i c rest
    refine (blamable_next s).bind fun r => ?_
    have hconverted : Blamable (do return (← convert form f width precision c r.1, rest, r.2)) :=
      (blamable_convert form f width precision c r.1).bind fun _ => .pure _
    have hletter (i : Nat) : (badLetter form c i).isWritable = true := by
      unfold badLetter
      dsimp only
      split <;> rfl
    dsimp only
    split
    · exact Blamable.throw_iff.mpr (hletter _)
    · exact hconverted

theorem blamable_fillPlace (form : Form) (total : Nat) (cs : List Char) (s : Supply) :
    Blamable (fillPlace form total cs s) :=
  (blamable_takeKeyed form cs s).bind fun _ => (blamable_takeSize _ _ _).bind fun _ =>
    (blamable_takePrecision form _ _).bind fun _ => blamable_convertNext _ _ _ _ _ _ _

theorem blamable_fillFrom (form : Form) (total fuel : Nat) (cs : List Char) (s : Supply) :
    Blamable (fillFrom form total fuel cs s) := by
  fun_induction fillFrom form total fuel cs s with
  | case1 | case2 => exact .ok _
  | case3 _ _ _ ih | case5 _ _ _ _ _ _ ih => exact ih.bind fun _ => .pure _
  | case4 s fuel cs _ ih =>
    exact (blamable_fillPlace form total _ _).bind fun r => (ih _ _).bind fun _ => .pure _

theorem blamable_fillChars (form : Form) (cs : List Char) (v : Value) :
    Blamable (fillChars form cs v) := by
  unfold fillChars
  refine (blamable_fillFrom form _ _ cs _).bind fun r => ?_
  simp

theorem blamable_fill (template : String) (v : Value) : Blamable (fill template v) :=
  (blamable_fillChars .text _ v).bind fun _ => .pure _

theorem blamable_fillBytes (template : List UInt8) (v : Value) :
    Blamable (fillBytes template v) :=
  (blamable_fillChars .bytes _ v).bind fun _ => .pure _

end Template

namespace Value

/-! ### Operators -/

theorem blamable_power (x y : Binary64) : Blamable (x.power y) := by
  have hpositive (x : Binary64) : Blamable (x.positivePower y) := by
    unfold Binary64.positivePower
    dsimp only
    split <;> simp
  simp [Binary64.power, hpositive]

theorem blamable_partsPower (a b : Parts) : Blamable (Parts.power a b) := by
  unfold Parts.power
  refine Blamable.bind ?_ fun r => by simp
  simp only [Blamable.ite_iff]
  refine ⟨fun _ => ⟨by simp, fun _ => ?_⟩, fun _ => ⟨by simp, fun _ => ?_⟩⟩
  · split <;> simp
  · split <;> simp

theorem blamable_realPower (x y : Binary64) : Blamable (Quantity.realPower x y) := by
  refine (blamable_power x y).bind fun r => ?_
  cases r with
  | some z => simp
  | none => exact (blamable_partsPower _ _).bind fun _ => .pure _

theorem blamable_intPower (m n : Int) : Blamable (Quantity.intPower m n) := by
  have hpower (k : Nat) : Blamable (IntBits.power m k) := by
    unfold IntBits.power
    repeat' split
    all_goals simp
  have hreal : Blamable (do Quantity.realPower (← realOfInt m) (← realOfInt n)) :=
    (blamable_realOfInt m).bind fun x => (blamable_realOfInt n).bind fun y =>
      blamable_realPower x y
  unfold Quantity.intPower
  split
  · exact (hpower _).bind fun k => .pure _
  · exact hreal

theorem blamable_toReal {q : Quantity} {r : Except Fault Binary64} (h : q.toReal? = some r) :
    Blamable r := by
  cases q with
  | int n =>
    cases h
    exact blamable_realOfInt n
  | real x =>
    cases h
    exact .ok x
  | complex a b => cases h

theorem blamable_toParts (q : Quantity) : Blamable q.toParts := by
  cases q with
  | int n => exact Blamable.map_iff.mpr (blamable_realOfInt n)
  | real x => exact .ok _
  | complex a b => exact .ok _

theorem blamable_shiftLeft (m n : Int) : Blamable (IntBits.shiftLeft m n) := by
  unfold IntBits.shiftLeft
  repeat' split
  all_goals simp

theorem blamable_shiftRight (m n : Int) : Blamable (IntBits.shiftRight m n) := by
  unfold IntBits.shiftRight
  repeat' split
  all_goals simp

theorem blamable_intRule {op : BinaryOp} {rule : Int → Int → Except Fault Value}
    (h : Quantity.intRule op = some rule) (m n : Int) : Blamable (rule m n) := by
  cases op with
  | pow =>
    cases h
    exact blamable_intPower m n
  | shiftLeft =>
    cases h
    exact Blamable.map_iff.mpr (blamable_shiftLeft m n)
  | shiftRight =>
    cases h
    exact Blamable.map_iff.mpr (blamable_shiftRight m n)
  | div =>
    cases h
    unfold Quantity.intQuotient
    repeat' split
    all_goals simp
  | floorDiv | mod =>
    cases h
    dsimp only
    split <;> simp
  | matMul => cases h
  | _ =>
    cases h
    exact .ok _

theorem blamable_realRule {op : BinaryOp} {rule : Binary64 → Binary64 → Except Fault Value}
    (h : Quantity.realRule op = some rule) (x y : Binary64) : Blamable (rule x y) := by
  cases op with
  | pow =>
    cases h
    exact blamable_realPower x y
  | div | floorDiv | mod =>
    cases h
    dsimp only
    split <;> simp
  | add | sub | mul =>
    cases h
    exact .ok _
  | _ => cases h

theorem blamable_partsRule {op : BinaryOp} {rule : Parts → Parts → Except Fault Value}
    (h : Quantity.partsRule op = some rule) (a b : Parts) : Blamable (rule a b) := by
  cases op with
  | pow =>
    cases h
    exact Blamable.map_iff.mpr (blamable_partsPower a b)
  | div =>
    cases h
    dsimp only
    split <;> simp
  | add | sub | mul =>
    cases h
    exact .ok _
  | _ => cases h

theorem blamable_apply {op : BinaryOp} {a b : Quantity} {r : Except Fault Value}
    (h : a.apply op b = some r) : Blamable r := by
  unfold Quantity.apply at h
  split at h
  · obtain ⟨rule, hrule, rfl⟩ := Option.map_eq_some_iff.mp h
    exact blamable_intRule hrule _ _
  · split at h
    · rename_i x y hx hy
      obtain ⟨rule, hrule, rfl⟩ := Option.map_eq_some_iff.mp h
      exact (blamable_toReal hx).bind fun x => (blamable_toReal hy).bind fun y =>
        blamable_realRule hrule x y
    · obtain ⟨rule, hrule, rfl⟩ := Option.map_eq_some_iff.mp h
      exact (blamable_toParts a).bind fun x => (blamable_toParts b).bind fun y =>
        blamable_partsRule hrule x y

theorem blamable_concat {v w : Value} {r : Except Fault Value} (h : v.concat? w = some r) :
    Blamable r := by
  unfold concat? at h
  split at h <;> cases h
  all_goals split <;> simp

theorem blamable_repeat {v : Value} {n : Int} {r : Except Fault Value} (h : v.repeat? n = some r) :
    Blamable r := by
  unfold repeat? at h
  generalize v.plain = u at h
  cases u with
  | str _ | tuple _ | list _ _ | bytes _ | bytearray _ _ =>
    cases h
    split
    · simp
    · dsimp only
      split <;> simp
  | _ => cases h

theorem blamable_multiplySequence (v w : Value) : Blamable (multiplySequence v w) := by
  unfold multiplySequence
  repeat' split
  all_goals first | exact .getD (fun r => blamable_repeat) (by simp) | simp [noRule]

theorem blamable_fillTemplate (v w : Value) : Blamable (fillTemplate v w) := by
  unfold fillTemplate
  split
  · exact Blamable.map_iff.mpr (Template.blamable_fill _ _)
  · exact Blamable.map_iff.mpr (Template.blamable_fillBytes _ _)
  · exact Blamable.map_iff.mpr (Template.blamable_fillBytes _ _)
  · simp [noRule]

theorem blamable_unite (v w : Value) : Blamable (unite v w) := by
  unfold unite
  split
  · simp
  · cases unionOf? v w <;> simp [noRule]

theorem blamable_operateOther (op : BinaryOp) (v w : Value) : Blamable (operateOther op v w) := by
  unfold operateOther
  split
  · exact .getD (fun r => blamable_concat) (by simp [noRule])
  · exact blamable_multiplySequence v w
  · exact blamable_fillTemplate v w
  -- sets and flags go first; what is left can only be a union of types
  · cases (combineSets? op v w).or (combineBits? op v w) with
    | some r => simp
    | none =>
      rw [Option.map_none, Option.getD_none]
      split
      · exact blamable_unite v w
      · simp [noRule]

@[simp] theorem blamable_operate (op : BinaryOp) (v w : Value) : Blamable (operate op v w) := by
  unfold operate
  repeat' split
  all_goals first
    | exact blamable_operateOther op v w
    | exact .getD (fun r => blamable_apply) (by simp [noRule])
    | simp

@[simp] theorem blamable_operateUnary (op : UnaryOp) (v : Value) :
    Blamable (operateUnary op v) := by
  unfold operateUnary
  repeat' split
  all_goals first | exact Blamable.map_iff.mpr (blamable_truth v) | simp

/-! ### Attributes -/

@[simp] theorem blamable_readAttribute (v : Value) (name : String) :
    Blamable (v.readAttribute name) := by
  unfold readAttribute readMethod
  repeat' split
  all_goals simp

/-! ### Loops over what has to be hashable -/

theorem blamable_forHashable {α : Type} (g : α → Value) (xs : List α) :
    Blamable (forIn xs PUnit.unit fun x _ => do
      (g x).hashable
      pure (ForInStep.yield PUnit.unit) : Except Fault PUnit) := by
  induction xs with
  | nil => exact .ok _
  | cons x xs ih =>
    rw [List.forIn_cons]
    exact ((blamable_hashable (g x)).bind fun _ => .pure _).bind fun r => by
      cases r with
      | done u => exact .pure u
      | yield u => exact ih

/-- A set of hashable values. -/
theorem blamable_hashables (vs : List Value) (v : Value) :
    Blamable (do
      for v in vs do v.hashable
      return v) :=
  (blamable_forHashable id vs).bind fun _ => .pure v

/-- A mapping with hashable keys. -/
theorem blamable_hashableKeys (entries : List (Value × Value)) (v : Value) :
    Blamable (do
      for (k, _) in entries do k.hashable
      return v) :=
  (blamable_forHashable Prod.fst entries).bind fun _ => .pure v

end Value

end Marginalia
