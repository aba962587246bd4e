/-
Operators on values with their objects numbered anew.

What an operator makes of renumbered values is what it makes of the values, renumbered; what it
refuses, it refuses in the same words.

* `Value.truth_renumber`, `Value.compare_renumber` — truth and order;
* `Value.items_renumber`, `Value.contains_renumber`, `Value.subscript_renumber` — what is found
  in a value;
* `Template.fill_renumber` — templates are filled with the same text;
* `Value.operate_renumber`, `Value.operateUnary_renumber` — the operators.
-/
import Marginalia.Proofs.Renumbering

namespace Marginalia

/-! ### Results -/

section Results

variable {ε α β γ : Type}

@[simp] theorem map_ok (g : α → β) (a : α) : (Except.ok a : Except ε α).map g = .ok (g a) := rfl

@[simp] theorem map_error (g : α → β) (e : ε) : (Except.error e : Except ε α).map g = .error e :=
  rfl

/-- What stands under a key when what stands under each key is mapped. -/
theorem lookup_map_snd {κ : Type} [BEq κ] (g : α → β) (key : κ) (es : List (κ × α)) :
    (es.map fun e => (e.1, g e.2)).lookup key = (es.lookup key).map g := by
  induction es with
  | nil => rfl
  | cons e es ih =>
    rw [List.map_cons, List.lookup_cons, List.lookup_cons, ih]
    split <;> rfl

@[simp] theorem map_bind_eq (g : β → γ) (x : Except ε α) (k : α → Except ε β) :
    (x >>= k).map g = x >>= fun a => (k a).map g := by
  cases x <;> rfl

@[simp] theorem bind_map_eq (g : α → β) (x : Except ε α) (k : β → Except ε γ) :
    x.map g >>= k = x >>= fun a => k (g a) := by
  cases x <;> rfl

@[simp] theorem map_pure_eq (g : α → β) (a : α) :
    (pure a : Except ε α).map g = pure (g a) := rfl

@[simp] theorem map_throw_eq (g : α → β) (e : ε) :
    (throw e : Except ε α).map g = throw e := rfl

@[simp] theorem map_map_eq (g : α → β) (g' : β → γ) (x : Except ε α) :
    (x.map g).map g' = x.map fun a => g' (g a) := by
  cases x <;> rfl

@[simp] theorem fmap_eq_map (g : α → β) (x : Except ε α) : g <$> x = x.map g := rfl

/-- A choice between two results. -/
@[simp] theorem map_ite (g : α → β) (p : Prop) [Decidable p] (x y : Except ε α) :
    (if p then x else y).map g = if p then x.map g else y.map g := by
  split <;> rfl

/-- A result, or another one where there is none. -/
theorem getD_map_eq (g : α → β) (x : Option (Except ε α)) (y : Except ε α) :
    (x.map (Except.map g)).getD (y.map g) = (x.getD y).map g := by
  cases x <;> rfl

end Results

/-! ### Numbers -/

namespace Quantity

variable (f : Renumbering)

@[simp] theorem ofParts_renumber (p : Parts) : (ofParts p).renumber f = ofParts p := by
  simp [ofParts]

theorem intQuotient_renumber (m n : Int) :
    (intQuotient m n).map (Value.renumber f) = intQuotient m n := by
  unfold intQuotient
  split
  · rfl
  · split <;> simp

theorem realPower_renumber (x y : Binary64) :
    (realPower x y).map (Value.renumber f) = realPower x y := by
  unfold realPower
  rw [map_bind_eq]
  congr 1
  funext r
  cases r <;> simp

theorem intPower_renumber (m n : Int) :
    (intPower m n).map (Value.renumber f) = intPower m n := by
  unfold intPower
  split <;> simp [realPower_renumber]

theorem intRule_renumber {op : BinaryOp} {rule : Int → Int → Except Fault Value}
    (h : intRule op = some rule) (m n : Int) : (rule m n).map (Value.renumber f) = rule m n := by
  cases op <;> cases h <;>
    first
    | exact intQuotient_renumber f m n
    | exact intPower_renumber f m n
    | simp

theorem realRule_renumber {op : BinaryOp} {rule : Binary64 → Binary64 → Except Fault Value}
    (h : realRule op = some rule) (x y : Binary64) :
    (rule x y).map (Value.renumber f) = rule x y := by
  cases op <;> cases h <;>
    first
    | exact realPower_renumber f x y
    | simp

theorem partsRule_renumber {op : BinaryOp} {rule : Parts → Parts → Except Fault Value}
    (h : partsRule op = some rule) (a b : Parts) :
    (rule a b).map (Value.renumber f) = rule a b := by
  cases op with
  | div =>
    cases h
    dsimp only
    split <;> simp
  | add | sub | mul | pow =>
    cases h
    simp
  | _ => cases h

/-- Arithmetic makes numbers that have no number as objects yet. -/
theorem apply_renumber (op : BinaryOp) (a b : Quantity) :
    (a.apply op b).map (Except.map (Value.renumber f)) = a.apply op b := by
  unfold apply
  split
  · cases h : intRule op with
    | none => rfl
    | some rule => simp [intRule_renumber f h]
  · split
    · cases h : realRule op with
      | none => rfl
      | some rule => simp [realRule_renumber f h]
    · cases h : partsRule op with
      | none => rfl
      | some rule => simp [partsRule_renumber f h]

end Quantity

namespace Value

variable (f : Renumbering)

/-! ### Truth and order -/

@[simp] theorem truth_renumber (v : Value) : (v.renumber f).truth = v.truth := by
  unfold truth
  rw [plain_renumber]
  cases v.plain <;> simp

@[simp] theorem isDerived_renumber (v : Value) : (v.renumber f).isDerived = v.isDerived := by
  cases v <;> simp [isDerived]

theorem ownAnswer_renumber (op : Comparison) (v w : Value) :
    ownAnswer? op (v.renumber f) (w.renumber f) = (ownAnswer? op v w).map (renumber f) := by
  unfold ownAnswer?
  cases op with
  | less => cases v <;> simp
  | greater => cases w <;> simp
  | _ => rfl

theorem unordered_renumber {α : Type} (op : Comparison) (v w : Value) :
    (unordered op (v.renumber f) (w.renumber f) : Except Fault α) = unordered op v w := by
  simp [unordered]

@[simp] theorem refuseOrder_renumber (op : Comparison) (v w : Value) :
    refuseOrder op (v.renumber f) (w.renumber f) = (refuseOrder op v w).map (renumber f) := by
  have h := unordered_renumber f (α := Value) op v w
  cases v with
  | space ns vs => cases w <;> first | rfl | exact h
  | _ => exact h

@[simp] theorem holdsOfSets_renumber (op : Comparison) (vs ws : List Value) :
    holdsOfSets op (vs.map (renumber f)) (ws.map (renumber f)) = holdsOfSets op vs ws := by
  cases op <;> simp [holdsOfSets, allFound_renumber]

theorem compareContents_renumber (op : Comparison) (v w : Value) :
    compareContents op (v.renumber f) (w.renumber f) =
      (compareContents op v w).map (renumber f) := by
  have h := refuseOrder_renumber f op v w
  unfold compareContents
  simp only [plain_renumber]
  generalize v.plain = a, w.plain = b
  cases a with
  | str s => cases b <;> first | rfl | exact h
  | bytes bs | bytearray m bs => cases b <;> first | rfl | exact h
  | set m vs | frozenset vs => cases b <;> first | exact h | simp [bytes?, setItems?]
  | _ => exact h

theorem compareAtoms_renumber (op : Comparison) (v w : Value) :
    compareAtoms op (v.renumber f) (w.renumber f) = (compareAtoms op v w).map (renumber f) := by
  unfold compareAtoms
  rw [ownAnswer_renumber]
  cases ownAnswer? op v w with
  | some a => rfl
  | none =>
    simp only [quantity_renumber, Option.map_none, unordered_renumber, compareContents_renumber]
    split
    · split <;> simp [unordered]
    · rfl

/-- The question as it is put to values that are not compared item by item. -/
theorem compareTurned_renumber (op : Comparison) (turned : Bool) (v w : Value) :
    (if turned then compareAtoms op.mirror (w.renumber f) (v.renumber f)
      else compareAtoms op (v.renumber f) (w.renumber f)) =
    (if turned then compareAtoms op.mirror w v else compareAtoms op v w).map (renumber f) := by
  simp only [compareAtoms_renumber, map_ite]

mutual

theorem compareAsked_renumber (op : Comparison) : ∀ (turned : Bool) (v w : Value),
    compareAsked op turned (v.renumber f) (w.renumber f) =
      (compareAsked op turned v w).map (renumber f)
  -- item by item with a value of the same kind, as a whole with any other
  | turned, tuple vs, w => by
    have h := compareTurned_renumber f op turned (tuple vs) w
    simp only [renumber, renumberAll_eq] at h
    simp only [renumber, renumberAll_eq, compareAsked, plain_renumber, isDerived_renumber]
    cases w.plain with
    | tuple ws => simpa using compareItems_renumber op _ vs ws
    | _ => exact h
  | turned, list m vs, w => by
    have h := compareTurned_renumber f op turned (list m vs) w
    simp only [renumber, renumberAll_eq] at h
    simp only [renumber, renumberAll_eq, compareAsked, plain_renumber]
    cases w.plain with
    | list n ws => simpa using compareItems_renumber op turned vs ws
    | _ => exact h
  | turned, derived c v, w => by
    have h := compareTurned_renumber f op turned (derived c v) w
    simp only [renumber] at h
    cases v with
    | tuple vs =>
      simp only [renumber, renumberAll_eq] at h
      simp only [renumber, renumberAll_eq, compareAsked, plain_renumber, isDerived_renumber]
      cases w.plain with
      | tuple ws => simpa using compareItems_renumber op _ vs ws
      | _ => exact h
    | _ =>
      simp only [renumber, renumberAll_eq] at h
      simp only [renumber, renumberAll_eq, compareAsked]
      exact h
  | turned, nothing, w | turned, ellipsis, w | turned, bool _, w | turned, int _, w
  | turned, float .., w | turned, complex .., w | turned, str _, w | turned, bytes _, w
  | turned, bytearray .., w | turned, set .., w | turned, frozenset _, w | turned, dict .., w
  | turned, slice .., w | turned, member .., w | turned, record .., w | turned, object .., w
  | turned, type _, w | turned, function _, w | turned, method .., w | turned, slot .., w
  | turned, space .., w => by
    have h := compareTurned_renumber f op turned
    rw [compareAsked, compareAsked]
    · exact h _ _
    all_goals simp

theorem compareItems_renumber (op : Comparison) : ∀ (turned : Bool) (vs ws : List Value),
    compareItems op turned (vs.map (renumber f)) (ws.map (renumber f)) =
      (compareItems op turned vs ws).map (renumber f)
  | turned, [], [] | turned, [], _ :: _ | turned, _ :: _, [] => by simp [compareItems]
  | turned, v :: vs, w :: ws => by
    simp only [List.map_cons, compareItems, matching_renumber]
    split
    · exact compareItems_renumber op turned vs ws
    · exact compareAsked_renumber op turned v w

end

@[simp] theorem compare_renumber (op : Comparison) (v w : Value) :
    compare op (v.renumber f) (w.renumber f) = (compare op v w).map (renumber f) :=
  compareAsked_renumber f op false v w

/-! ### What is found in a value -/

@[simp] theorem ofByte_renumber (b : UInt8) : (ofByte b).renumber f = ofByte b := by
  simp [ofByte]

@[simp] theorem items_renumber (v : Value) :
    (v.renumber f).items = v.items.map (List.map (renumber f)) := by
  unfold items
  simp only [plain_renumber, className_renumber]
  cases v.plain with
  | type t => cases t <;> simp [EnumClass.memberValues]
  | member c d =>
    simp only [renumber]
    split
    · simp only [map_ok, List.map_filterMap]
      congr 2
      funext m
      obtain ⟨name, d⟩ := m
      cases d with
      | number k =>
        dsimp only
        split <;> simp
      | _ => rfl
    · simp
  | _ => simp

@[simp] theorem index_renumber (v : Value) : (v.renumber f).index? = v.index? := by
  unfold index?
  rw [plain_renumber]
  cases v.plain <;> simp

@[simp] theorem hashable_renumber (v : Value) : (v.renumber f).hashable = v.hashable := by
  simp [hashable]

theorem bitsContain_renumber (c : EnumClass) (d : Datum) (v : Value) :
    bitsContain c d (v.renumber f) = bitsContain c d v := by
  have h := typeName_renumber f v
  unfold bitsContain
  rw [h]
  cases v <;> rfl

@[simp] theorem amongMembers_renumber (v : Value) (vs : List Value) :
    (v.renumber f).amongMembers (vs.map (renumber f)) = v.amongMembers vs := by
  unfold amongMembers
  rw [isAmong_renumber, hashable_renumber]
  cases v <;> rfl

@[simp] theorem amongItems_renumber (v other : Value) (className : String) :
    (v.renumber f).amongItems (other.renumber f) className = v.amongItems other className := by
  unfold amongItems
  rw [items_renumber]
  cases other.items <;> simp

@[simp] theorem contains_renumber (v w : Value) :
    (v.renumber f).contains (w.renumber f) = v.contains w := by
  have hother := fun b => amongItems_renumber f v b w.className
  unfold contains
  simp only [plain_renumber, className_renumber, index_renumber, typeName_renumber,
    bitsContain_renumber]
  generalize w.plain = b
  specialize hother b
  cases b with
  | str s =>
    simp only [renumber]
    cases v.plain <;> simp
  | bytes bs | bytearray m bs => simp
  | tuple vs | list m vs | set m vs | frozenset vs | dict m ks vs => simp
  | type t =>
    cases t with
    | enumeration c => cases v <;> rfl
    | _ => exact hother
  | member c d => simp
  | _ => exact hother

theorem slicePart_renumber (v : Value) : slicePart (v.renumber f) = slicePart v := by
  have h := index_renumber f v
  cases v <;> simp_all [slicePart]

section Sequences

variable {α β : Type} (g : α → β) (xs : List α)

theorem itemAt_map (what : String) (n : Int) :
    itemAt what n (xs.map g) = (itemAt what n xs).map g := by
  unfold itemAt
  split
  · rfl
  · rw [List.length_map]
    cases position? n xs.length with
    | none => rfl
    | some i => cases h : xs[i]? <;> simp [h]

theorem sliced_renumber (a b c : Value) :
    sliced (a.renumber f) (b.renumber f) (c.renumber f) (xs.map g) =
      (sliced a b c xs).map (List.map g) := by
  unfold sliced
  simp [slicePart_renumber, List.map_filterMap]

theorem pick_renumber {what refusal : String} {one : α → Value} {one' : β → Value}
    {many : List α → Value} {many' : List β → Value}
    (hone : ∀ x, one' (g x) = (one x).renumber f)
    (hmany : ∀ xs, many' (xs.map g) = (many xs).renumber f) (i : Value) :
    pick what refusal (xs.map g) one' many' (i.renumber f) =
      (pick what refusal xs one many i).map (renumber f) := by
  unfold pick
  rw [index_renumber]
  cases i.index? with
  | some n => simp [itemAt_map, hone]
  | none => cases i <;> simp [sliced_renumber, hmany]

/-- The same for a sequence of texts or bytes, in which there are no objects. -/
theorem pick_renumber_id {what refusal : String} {one : α → Value} {many : List α → Value}
    (hone : ∀ x, (one x).renumber f = one x) (hmany : ∀ xs, (many xs).renumber f = many xs)
    (i : Value) :
    pick what refusal xs one many (i.renumber f) =
      (pick what refusal xs one many i).map (renumber f) := by
  have h : pick what refusal (xs.map id) one many (i.renumber f) =
      (pick what refusal xs one many i).map (renumber f) :=
    pick_renumber f id xs (fun x => (hone x).symm) (fun xs => by rw [List.map_id, hmany]) i
  rwa [List.map_id] at h

end Sequences

theorem lookupKey_renumber (key : Value) : ∀ ks vs : List Value,
    lookupKey (key.renumber f) (ks.map (renumber f)) (vs.map (renumber f)) =
      (lookupKey key ks vs).map (renumber f)
  | [], _ | _ :: _, [] => by simp [lookupKey]
  | k :: ks, v :: vs => by
    simp only [List.map_cons, lookupKey, matching_renumber, lookupKey_renumber key ks vs]
    split <;> rfl

@[simp] theorem bracketText_renumber (v : Value) : (v.renumber f).bracketText = v.bracketText := by
  have h := written_renumber f v
  cases v <;> first | rfl | exact h

@[simp] theorem bracketsText_renumber (v : Value) :
    (v.renumber f).bracketsText = v.bracketsText := by
  have h := bracketText_renumber f v
  cases v with
  | tuple vs => cases vs <;> simp [bracketsText, Function.comp_def]
  | _ => exact h

@[simp] theorem genericOf_renumber (t : TypeTerm) (i : Value) :
    genericOf t (i.renumber f) = genericOf t i := by
  simp [genericOf]

/-- Whatever is taken out of a value is taken out renumbered, unless a key is missing. -/
theorem subscript_renumber (v i : Value) :
    (v.subscript i = .error (.missingKey i) ∧
        (v.renumber f).subscript (i.renumber f) = .error (.missingKey (i.renumber f))) ∨
      (v.renumber f).subscript (i.renumber f) = (v.subscript i).map (renumber f) := by
  unfold subscript
  simp only [plain_renumber, className_renumber, hashable_renumber]
  generalize v.plain = a
  cases a with
  | str s | bytes bs | bytearray m bs =>
    right
    simp only [renumber]
    exact pick_renumber_id f _ (by simp) (by simp) i
  | tuple vs | list m vs =>
    right
    simp only [renumber, renumberAll_eq]
    exact pick_renumber f (renumber f) vs (by simp) (by simp) i
  -- the fault carries the key that is missing, so it is not the same fault
  | dict m ks vs =>
    cases i.hashable with
    | error e => exact .inr rfl
    | ok _ =>
      have h := lookupKey_renumber f i ks vs
      simp only [renumber, renumberAll_eq, h]
      cases lookupKey i ks vs with
      | none => exact .inl ⟨rfl, rfl⟩
      | some w => exact .inr rfl
  | type t =>
    cases t with
    | enumeration c =>
      cases i.hashable with
      | error e => exact .inr rfl
      | ok _ =>
        cases i.plain with
        | str n =>
          simp only [renumber]
          cases c.content? n with
          | none => exact .inl ⟨rfl, rfl⟩
          | some d => exact .inr rfl
        | _ => exact .inl ⟨rfl, rfl⟩
    | builtin b =>
      right
      have h := fun t => genericOf_renumber f t i
      cases b <;> first | rfl | exact congrArg Except.ok (h _)
    | derived c =>
      right
      simp only [renumber, genericOf_renumber]
      split <;> rfl
    | _ => exact .inr rfl
  | _ => exact .inr rfl

end Value

/-! ### Templates -/

namespace Template

open Value

variable (f : Renumbering)

/-- What is left to put into a template, renumbered. -/
def Supply.renumber (s : Supply) : Supply :=
  ⟨s.pending.map (Value.renumber f), s.mapping.map (Value.renumber f)⟩

@[simp] theorem ofValue_renumber (form : Form) (v : Value) :
    Supply.ofValue form (v.renumber f) = (Supply.ofValue form v).renumber f := by
  unfold Supply.ofValue
  rw [plain_renumber]
  cases v.plain with
  | type t => cases t <;> rfl
  | bytes bs | bytearray m bs => cases form <;> rfl
  | tuple vs => simp [Supply.renumber]
  | _ => rfl

theorem next_renumber (s : Supply) :
    (s.renumber f).next = s.next.map fun r => (r.1.renumber f, r.2.renumber f) := by
  obtain ⟨pending, mapping⟩ := s
  cases pending <;> rfl

@[simp] theorem starred_renumber (l : SizeLimit) (v : Value) :
    starred l (v.renumber f) = starred l v := by
  unfold starred
  rw [plain_renumber]
  cases v.plain <;> rfl

theorem takeSize_renumber (l : SizeLimit) (cs : List Char) (s : Supply) :
    takeSize l cs (s.renumber f) =
      (takeSize l cs s).map fun r => (r.1, r.2.1, r.2.2.renumber f) := by
  unfold takeSize
  split
  · simp [next_renumber]
  · simp

@[simp] theorem integerFor_renumber (letter : Char) (v : Value) :
    integerFor letter (v.renumber f) = integerFor letter v := by
  unfold integerFor integerFor.refuse
  simp only [plain_renumber, className_renumber]
  cases v.plain <;> rfl

@[simp] theorem realFor_renumber (form : Form) (v : Value) :
    realFor form (v.renumber f) = realFor form v := by
  simp [realFor]

@[simp] theorem characterFor_renumber (v : Value) :
    characterFor (v.renumber f) = characterFor v := by
  unfold characterFor
  rw [plain_renumber]
  cases v.plain <;> rfl

@[simp] theorem byteFor_renumber (v : Value) : byteFor (v.renumber f) = byteFor v := by
  unfold byteFor
  rw [plain_renumber]
  cases v.plain with
  | bytearray m bs =>
    obtain _ | ⟨b, _ | _⟩ := bs <;> rfl
  | _ => rfl

@[simp] theorem bytesFor_renumber (v : Value) : bytesFor (v.renumber f) = bytesFor v := by
  simp [bytesFor]

@[simp] theorem asciiWritten_renumber (v : Value) :
    asciiWritten (v.renumber f) = asciiWritten v := by
  simp [asciiWritten]

@[simp] theorem writable_renumber (v : Value) :
    writable (v.renumber f) = (writable v).map (Value.renumber f) := by
  simp [writable]

@[simp] theorem textFor_renumber (form : Form) (letter : Char) (v : Value) :
    textFor? form letter (v.renumber f) = textFor? form letter v := by
  unfold textFor?
  simp

@[simp] theorem convert_renumber (form : Form) (g : Flags) (width : Nat) (precision : Option Nat)
    (letter : Char) (v : Value) :
    convert form g width precision letter (v.renumber f) =
      convert form g width precision letter v := by
  unfold convert
  simp

@[simp] theorem keyValue_renumber (form : Form) (key : List Char) :
    (keyValue form key).renumber f = keyValue form key := by
  cases form <;> rfl

/-- A key is a text or bytes, so that no object is missing where it is. -/
theorem subscript_key_renumber (m : Value) (form : Form) (key : List Char) :
    (m.renumber f).subscript (keyValue form key) =
      (m.subscript (keyValue form key)).map (Value.renumber f) := by
  obtain ⟨h, h'⟩ | h := subscript_renumber f m (keyValue form key)
  · rw [keyValue_renumber] at h'
    rw [h, h', map_error]
  · rwa [keyValue_renumber] at h

theorem takeKeyed_renumber (form : Form) (cs : List Char) (s : Supply) :
    takeKeyed form cs (s.renumber f) =
      (takeKeyed form cs s).map fun r => (r.1, r.2.renumber f) := by
  unfold takeKeyed
  obtain ⟨pending, mapping⟩ := s
  split
  · cases mapping with
    | none => rfl
    | some m =>
      simp only [Supply.renumber, Option.map_some]
      split
      · rfl
      · simp [subscript_key_renumber]
  · rfl

theorem takePrecision_renumber (form : Form) (cs : List Char) (s : Supply) :
    takePrecision form cs (s.renumber f) =
      (takePrecision form cs s).map fun r => (r.1, r.2.1, r.2.2.renumber f) := by
  unfold takePrecision
  split
  · simp [takeSize_renumber]
  · rfl

theorem convertNext_renumber (form : Form) (total : Nat) (g : Flags) (width : Nat)
    (precision : Option Nat) (cs : List Char) (s : Supply) :
    convertNext form total g width precision cs (s.renumber f) =
      (convertNext form total g width precision cs s).map
        fun r => (r.1, r.2.1, r.2.2.renumber f) := by
  unfold convertNext
  cases cs with
  | nil => rfl
  | cons c rest =>
    simp [next_renumber]

theorem fillPlace_renumber (form : Form) (total : Nat) (cs : List Char) (s : Supply) :
    fillPlace form total cs (s.renumber f) =
      (fillPlace form total cs s).map fun r => (r.1, r.2.1, r.2.2.renumber f) := by
  unfold fillPlace
  simp [takeKeyed_renumber, takeSize_renumber, takePrecision_renumber, convertNext_renumber]

theorem fillFrom_renumber (form : Form) (total fuel : Nat) (cs : List Char) (s : Supply) :
    fillFrom form total fuel cs (s.renumber f) =
      (fillFrom form total fuel cs s).map fun r => (r.1, r.2.renumber f) := by
  induction fuel generalizing cs s with
  | zero => simp [fillFrom]
  | succ fuel ih =>
    unfold fillFrom
    split <;> simp_all [fillPlace_renumber]

@[simp] theorem fillChars_renumber (form : Form) (cs : List Char) (v : Value) :
    fillChars form cs (v.renumber f) = fillChars form cs v := by
  unfold fillChars
  rw [ofValue_renumber, fillFrom_renumber, bind_map_eq]
  simp [Supply.renumber]

@[simp] theorem fill_renumber (template : String) (v : Value) :
    fill template (v.renumber f) = fill template v := by
  simp [fill]

@[simp] theorem fillBytes_renumber (template : List UInt8) (v : Value) :
    fillBytes template (v.renumber f) = fillBytes template v := by
  simp [fillBytes]

end Template

/-! ### Operators -/

namespace Value

variable (f : Renumbering)

theorem noRule_renumber {α : Type} (op : BinaryOp) (v w : Value) :
    (noRule op (v.renumber f) (w.renumber f) : Except Fault α) = noRule op v w := by
  simp [noRule]

@[simp] theorem map_noRule {α β : Type} (g : α → β) (op : BinaryOp) (v w : Value) :
    (noRule op v w).map g = noRule op v w := rfl

theorem concat_renumber (v w : Value) :
    (v.renumber f).concat? (w.renumber f) = (v.concat? w).map (Except.map (renumber f)) := by
  unfold concat?
  simp only [plain_renumber, className_renumber]
  generalize v.plain = a, w.plain = b
  cases a with
  | str s => cases b <;> rfl
  | tuple vs => cases b <;> simp
  | list m vs => cases b <;> simp
  | bytes bs =>
    simp only [renumber, bytes_renumber]
    cases b.bytes? <;> rfl
  | bytearray m bs =>
    simp only [renumber, bytes_renumber]
    cases b.bytes? <;> simp
  | _ => rfl

theorem repeated_map {α β : Type} (g : α → β) (xs : List α) (n : Nat) :
    repeated (xs.map g) n = (repeated xs n).map g := by
  simp [repeated, List.map_flatten, List.map_replicate]

theorem repeat_renumber (v : Value) (n : Int) :
    (v.renumber f).repeat? n = (v.repeat? n).map (Except.map (renumber f)) := by
  unfold repeat?
  simp only [plain_renumber]
  cases v.plain <;> simp [repeated_map]

@[simp] theorem isSequence_renumber (v : Value) : (v.renumber f).isSequence = v.isSequence := by
  simp [isSequence, repeat_renumber]

theorem multiplySequence_renumber (v w : Value) :
    multiplySequence (v.renumber f) (w.renumber f) =
      (multiplySequence v w).map (renumber f) := by
  unfold multiplySequence
  simp only [isSequence_renumber, index_renumber, repeat_renumber, className_renumber,
    noRule_renumber, map_ite]
  have hrepeat (x : Value) (n : Int) (e : Fault) :
      ((x.repeat? n).map (Except.map (renumber f))).getD (.error e) =
        ((x.repeat? n).getD (.error e)).map (renumber f) := by
    cases x.repeat? n <;> rfl
  cases v.index? <;> cases w.index? <;> simp [hrepeat]

theorem setRule_renumber {op : BinaryOp} {rule : List Value → List Value → List Value}
    (h : setRule? op = some rule) (vs ws : List Value) :
    rule (vs.map (renumber f)) (ws.map (renumber f)) = (rule vs ws).map (renumber f) := by
  cases op with
  | bitOr | sub | bitXor =>
    cases h
    simp [List.filter_map, Function.comp_def]
  | bitAnd =>
    cases h
    by_cases hshorter : vs.length < ws.length <;>
      simp [hshorter, List.filter_map, Function.comp_def]
  | _ => cases h

theorem combineSets_renumber (op : BinaryOp) (v w : Value) :
    combineSets? op (v.renumber f) (w.renumber f) = (combineSets? op v w).map (renumber f) := by
  unfold combineSets?
  simp only [plain_renumber, setItems_renumber]
  cases h : setRule? op with
  | none => rfl
  | some rule =>
    cases w.plain.setItems? with
    | none => cases v.plain <;> rfl
    | some ws => cases v.plain <;> simp [setRule_renumber f h]

theorem putKey_renumber (key value : Value) : ∀ ks vs : List Value,
    putKey (key.renumber f) (value.renumber f) (ks.map (renumber f)) (vs.map (renumber f)) =
      ((putKey key value ks vs).1.map (renumber f), (putKey key value ks vs).2.map (renumber f))
  | [], _ | _ :: _, [] => by simp [putKey]
  | k :: ks, v :: vs => by
    simp only [List.map_cons, putKey, matching_renumber, putKey_renumber key value ks vs]
    split <;> simp

theorem mappingOf_renumber (entries : List (Value × Value)) :
    mappingOf (entries.map fun e => (e.1.renumber f, e.2.renumber f)) =
      (mappingOf entries).renumber f := by
  -- the entries put so far are renumbered, too
  have hfrom : ∀ m : List Value × List Value,
      (entries.map fun e => (e.1.renumber f, e.2.renumber f)).foldl putEntry
          (m.1.map (renumber f), m.2.map (renumber f)) =
        ((entries.foldl putEntry m).1.map (renumber f),
          (entries.foldl putEntry m).2.map (renumber f)) := by
    induction entries with
    | nil => exact fun m => rfl
    | cons e entries ih =>
      intro m
      rw [List.map_cons, List.foldl_cons, List.foldl_cons, ← ih, putEntry, putEntry,
        putKey_renumber]
  have h := hfrom ([], [])
  rw [List.map_nil] at h
  unfold mappingOf
  rw [h]
  simp

/-- The combination of two members, in which there are no objects. -/
theorem combineBits_renumber (op : BinaryOp) (v w : Value) :
    combineBits? op (v.renumber f) (w.renumber f) = (combineBits? op v w).map (renumber f) := by
  unfold combineBits?
  cases bitsRule? op with
  | none => rfl
  | some rule =>
    cases v with
    | member c d =>
      cases w with
      | member c' d' =>
        cases d with
        | number m =>
          cases d' with
          | number n =>
            simp only [renumber]
            split <;> rfl
          | _ => rfl
        | _ => rfl
      | _ => cases d <;> rfl
    | _ => rfl

@[simp] theorem unionParts_renumber (v : Value) : unionParts? (v.renumber f) = unionParts? v := by
  cases v <;> rfl

theorem joinTypes_renumber (v w : Value) :
    joinTypes? (v.renumber f) (w.renumber f) = (joinTypes? v w).map (renumber f) := by
  unfold joinTypes?
  rw [unionParts_renumber, unionParts_renumber]
  cases unionParts? v with
  | none => rfl
  | some a =>
    cases unionParts? w with
    | none => rfl
    | some b =>
      dsimp only
      split <;> simp

theorem unionOf_renumber (v w : Value) :
    unionOf? (v.renumber f) (w.renumber f) = (unionOf? v w).map (renumber f) := by
  have h := joinTypes_renumber f v w
  unfold unionOf?
  cases v with
  | nothing => cases w <;> first | rfl | exact h
  | _ => exact h

theorem fillTemplate_renumber (v w : Value) :
    fillTemplate (v.renumber f) (w.renumber f) = (fillTemplate v w).map (renumber f) := by
  unfold fillTemplate
  simp only [plain_renumber, noRule_renumber]
  cases v.plain with
  | str s =>
    simp only [renumber, Template.fill_renumber, map_map_eq]
    congr 1
    funext r
    split <;> rfl
  | bytes bs | bytearray m bs => simp
  | _ => rfl

theorem unite_renumber (v w : Value) :
    unite (v.renumber f) (w.renumber f) = (unite v w).map (renumber f) := by
  have hunion : (((unionOf? v w).map (renumber f)).map .ok).getD (noRule .bitOr v w) =
      ((((unionOf? v w).map .ok).getD (noRule .bitOr v w)).map (renumber f)) := by
    cases unionOf? v w <;> rfl
  unfold unite
  simp only [plain_renumber, unionOf_renumber, noRule_renumber]
  generalize v.plain = a, w.plain = b
  cases a with
  | dict m ks vs =>
    cases b with
    | dict n ks' vs' =>
      have h := mappingOf_renumber f (ks.zip vs ++ ks'.zip vs')
      simpa [List.zip_map, Prod.map_def] using h
    | _ => exact hunion
  | _ => exact hunion

theorem operateOther_renumber (op : BinaryOp) (v w : Value) :
    operateOther op (v.renumber f) (w.renumber f) = (operateOther op v w).map (renumber f) := by
  have hparts (o : Option Value) (y : Except Fault Value) :
      ((o.map (renumber f)).map .ok).getD (y.map (renumber f)) =
        ((o.map .ok).getD y).map (renumber f) := by
    cases o <;> rfl
  unfold operateOther
  simp only [concat_renumber, combineSets_renumber, combineBits_renumber, unite_renumber,
    noRule_renumber, ← Option.map_or]
  cases op with
  | add => exact getD_map_eq _ _ (noRule .add v w)
  | mul => exact multiplySequence_renumber f v w
  | mod => exact fillTemplate_renumber f v w
  | bitOr => exact hparts _ (unite v w)
  | _ => exact hparts _ (noRule _ v w)

/-- An operator makes of renumbered values what it makes of the values, renumbered. -/
theorem operate_renumber (op : BinaryOp) (v w : Value) :
    (v.renumber f).operate op (w.renumber f) = (v.operate op w).map (renumber f) := by
  unfold operate
  simp only [quantity_renumber, operateOther_renumber, noRule_renumber]
  split
  · rename_i a b _ _
    have h := getD_map_eq (renumber f) (a.apply op b) (noRule op v w)
    rw [Quantity.apply_renumber, map_noRule] at h
    -- only two flags have rules beside those of numbers
    cases v with
    | bool x =>
      cases w with
      | bool y => cases operate.bitsOfFlags op <;> first | exact h | rfl
      | _ => exact h
    | _ => exact h
  · rfl

theorem operateUnary_renumber (op : UnaryOp) (v : Value) :
    (v.renumber f).operateUnary op = (v.operateUnary op).map (renumber f) := by
  unfold operateUnary
  simp only [quantity_renumber, truth_renumber, className_renumber, plain_renumber]
  cases op with
  | not => simp
  | plus | minus =>
    cases v.quantity? with
    | none => rfl
    | some q => cases q <;> simp
  | invert =>
    cases v.quantity? with
    | none =>
      cases v with
      | member c d =>
        cases d with
        | number n =>
          simp only [renumber]
          split <;> rfl
        | _ => rfl
      | _ => rfl
    | some q => cases q <;> rfl

end Value

end Marginalia
