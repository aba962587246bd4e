/-
Induction over evaluations.

An evaluation is put together from few steps: it answers a value, refuses an expression at a
place, blames or lets through what went wrong in an operation, looks at what objects are now, puts
the members of a set in order, makes an object, and carries out a call.  A property of computations
that these steps have and that sequences keep holds of the evaluation of every expression; so does a
relation between the evaluations of an expression in two settings.

What is asked of a step may depend on the node of the expression that it is taken for: a name is
looked up for its own node, an expression is refused and a fault is blamed at the place of a node.
Two kinds of steps can end in more than an annotation error: a subscript, which may miss a key
that cannot be written, and a call.

* `Setting.PairedAt` — a relation that holds between the steps that nodes take, and that sequences
  keep;
* `Setting.PairedAt.hold` — the evaluations of an expression are so related;
* `Setting.Paired`, `Setting.Paired.hold` — a relation for which only subscripts and calls depend
  on their nodes;
* `Setting.Closed`, `Setting.Closed.hold` — a property, which is a relation to itself;
* `names_keywordsOf` — the names of arguments are those that are written.
-/
import Marginalia.Evaluate
import Marginalia.Proofs.BlamableFaults
import Marginalia.Proofs.ExpressionNodes
import Marginalia.Proofs.Outcome

namespace Marginalia

/-! ### The names of arguments -/

/-- The name an argument is given by, if it is. -/
def Keyword.name? : Keyword → Option String
  | given n _ => some n
  | unpacked _ => none

/-- The names that a call gives arguments by. -/
def Expr.argumentNames : Expr → List String
  | call _ _ _ ks => ks.filterMap Keyword.name?
  | _ => []

theorem mem_setNamed {name : String} {v : Value} {e : String × Value} :
    ∀ {done : List (String × Value)}, e ∈ setNamed name v done → e.1 = name ∨ e ∈ done
  | [], h => .inl (congrArg Prod.fst (List.mem_singleton.mp h))
  | (n, w) :: done, h => by
    rw [setNamed] at h
    split at h
    · rename_i heq
      obtain rfl | h := List.mem_cons.mp h
      · exact .inl (beq_iff_eq.mp heq)
      · exact .inr (List.mem_cons_of_mem _ h)
    · obtain rfl | h := List.mem_cons.mp h
      · exact .inr List.mem_cons_self
      · exact (mem_setNamed h).imp_right (List.mem_cons_of_mem _)

/-- Arguments by name have names that are written, or that were there before. -/
theorem names_keywordsOf {s : Setting} {ks : List Keyword} {done named : List (String × Value)}
    {c c' : Compilation} (h : outcome (keywordsOf s ks done) c = (.ok named, c')) :
    ∀ e ∈ named, e.1 ∈ ks.filterMap Keyword.name? ∨ e.1 ∈ done.map Prod.fst := by
  induction ks generalizing done c with
  | nil =>
    rw [keywordsOf] at h
    cases h
    exact fun e he => .inr (List.mem_map_of_mem he)
  | cons k ks ih =>
    cases k with
    | unpacked m =>
      rw [keywordsOf] at h
      cases h
    | given n e =>
      rw [keywordsOf] at h
      obtain ⟨v, c₁, -, h⟩ := exists_of_outcome_bind_ok h
      intro e he
      obtain hks | hdone := ih h e he
      · exact .inl (List.mem_cons_of_mem _ hks)
      · obtain ⟨e', he', heq⟩ := List.mem_map.mp hdone
        obtain hn | hdone := mem_setNamed he'
        · exact .inl (List.mem_cons.mpr (.inl (heq.symm.trans hn)))
        · exact .inr (List.mem_map.mpr ⟨e', hdone, heq⟩)

/-- The causes that a form of expression is refused for: they say something about the expression
alone. -/
def Cause.OfExpression : Cause → Prop
  | notConstant _ | privateAttribute _ | notCallable _ | unsupported _ => True
  | _ => False

namespace Setting

/-! ### Forms with others of their kind inside -/

/-- A subscript that is no slice is evaluated as an expression. -/
theorem hold_subscript {p : Place} {e i : Expr} (hi : ∀ q a b c, i ≠ .slice q a b c)
    (s : Setting) : (Expr.subscript p e i).hold s = (do
      let h ← e.hold s
      let k ← i.hold s
      let h ← refresh h
      s.pick p h k.value) := by
  rw [Expr.hold]
  exact hi

/-- Of several operands, the first one decides or is passed over. -/
theorem joinedOf_cons (p : Place) (goesOn : Bool) (e e' : Expr) (es : List Expr) (s : Setting) :
    joinedOf s p goesOn (e :: e' :: es) = (do
      let h ← e.hold s
      if (← s.settle p h.value.truth) == goesOn then joinedOf s p goesOn (e' :: es)
      else return h) := by
  rw [joinedOf]
  simp

/-! ### Steps -/

theorem outcome_arranged (s : Setting) (r : Except Fault Value) (c : Compilation) :
    outcome (s.arranged r) c = (.ok (r.map fun v => v.arranged (s.host.orderIn c)), c) := rfl

/-- A relation between computations that holds between the steps of evaluations in two settings, and
between sequences of computations it holds between.  Steps are taken for nodes that some condition
holds of: names stand for the same at these, and refusals and faults are blamed on their places.
What is called is the value of the node that is called, as it is when it is called. -/
structure PairedAt (s s' : Setting) (Q : Expr → Prop)
    (P : ∀ {α : Type}, Evaluation α → Evaluation α → Prop) : Prop where
  names {p : Place} {n : String} (h : Q (.name p n)) : s'.valueOf? n = s.valueOf? n
  pure {α : Type} (a : α) : P (Pure.pure a : Evaluation α) (Pure.pure a)
  bind {α β : Type} {x x' : Evaluation α} {f f' : α → Evaluation β} (hx : P x x')
    (hf : ∀ a c c', outcome x c = (.ok a, c') → P (f a) (f' a)) : P (x >>= f) (x' >>= f')
  reject {α : Type} {p : Place} {c : Cause} (hp : ∃ x, Q x ∧ x.place = p) (hc : c.OfExpression) :
    P (s.reject p c : Evaluation α) (s'.reject p c)
  blame {α : Type} {p : Place} {f : Fault} (hp : ∃ x, Q x ∧ x.place = p)
    (hf : f.isWritable = true) : P (s.fail p f : Evaluation α) (s'.fail p f)
  miss {p : Place} {e i : Expr} (h : Q (.subscript p e i)) (k : Value) :
    P (s.fail p (.missingKey k) : Evaluation Value) (s'.fail p (.missingKey k))
  asOfNow {α : Type} (g : Changes → α) : P (Setting.asOfNow g) (Setting.asOfNow g)
  arranged (r : Except Fault Value) : P (s.arranged r) (s'.arranged r)
  fresh (v : Value) : P (Setting.fresh v) (Setting.fresh v)
  invoke {p : Place} {e : Expr} {es : List Expr} {ks : List Keyword} {f : Value}
    {named : List (String × Value)} (h : Q (.call p e es ks))
    (hf : ∃ c k c' cs, outcome (e.hold s) c = (.ok k, c') ∧ f = k.value.now cs)
    (positional : List Held)
    (hnamed : ∀ a ∈ named, a.1 ∈ (Expr.call p e es ks).argumentNames) :
    P (s.invoke p f positional named) (s'.invoke p f positional named)

namespace PairedAt

variable {s s' : Setting} {Q : Expr → Prop}
  {P : ∀ {α : Type}, Evaluation α → Evaluation α → Prop} (h : s.PairedAt s' Q P)

include h

theorem seq {α β : Type} {x x' : Evaluation α} {f f' : α → Evaluation β} (hx : P x x')
    (hf : ∀ a, P (f a) (f' a)) : P (x >>= f) (x' >>= f') :=
  h.bind hx fun a _ _ _ => hf a

theorem unsupported {α : Type} {e : Expr} (he : Q e) :
    P (s.unsupported e : Evaluation α) (s'.unsupported e) :=
  h.reject ⟨e, he, rfl⟩ trivial

theorem settle {α : Type} {p : Place} {r : Except Fault α} (hp : ∃ x, Q x ∧ x.place = p)
    (hr : Blamable r) : P (s.settle p r) (s'.settle p r) := by
  cases r with
  | ok a => exact h.pure a
  | error f => exact h.blame hp (hr f rfl)

theorem made (p : Place) (operands : List Held) {r : Except Fault Value}
    (hr : P (s.settle p r) (s'.settle p r)) :
    P (s.made p operands r) (s'.made p operands r) := by
  refine h.seq hr fun v => ?_
  cases operands.find? fun h => h.remains v with
  | some k => exact h.pure k
  | none => exact h.fresh v

/-- What an operation makes, once the members of a set are in order. -/
theorem madeArranged {p : Place} (hp : ∃ x, Q x ∧ x.place = p) (operands : List Held)
    {r : Except Fault Value} (hr : Blamable r) :
    P (do s.made p operands (← s.arranged r)) (do s'.made p operands (← s'.arranged r)) := by
  refine h.bind (h.arranged r) fun r' c c' harranged => ?_
  cases (outcome_arranged s r c).symm.trans harranged
  exact h.made p operands (h.settle hp (Blamable.map_iff.mpr hr))

theorem relate {p : Place} (hp : ∃ x, Q x ∧ x.place = p) (r : Relation) (a b : Held) :
    P (s.relate p r a b) (s'.relate p r a b) := by
  unfold Setting.relate
  cases r with
  | order op => exact h.settle hp (Value.blamable_compare _ _ _)
  | among | notAmong =>
    exact h.seq (h.settle hp (Value.blamable_contains _ _)) fun _ => h.pure _
  | _ => exact h.pure _

theorem read {p : Place} (hp : ∃ x, Q x ∧ x.place = p) (k : Held) (name : String) :
    P (s.read p k name) (s'.read p k name) := by
  have hread := h.settle hp (Value.blamable_readAttribute k.value name)
  unfold Setting.read
  dsimp only
  split
  · exact h.fresh _
  · exact h.pure _
  · exact h.made p _ hread

theorem pick {p : Place} {e i : Expr} (hq : Q (.subscript p e i)) (k : Held) (v : Value) :
    P (s.pick p k v) (s'.pick p k v) := by
  have hsettled : P (s.settle p (k.value.subscript v)) (s'.settle p (k.value.subscript v)) := by
    cases hr : k.value.subscript v with
    | ok w => exact h.pure w
    | error f =>
      cases hf : f.isWritable with
      | true => exact h.blame ⟨_, hq, rfl⟩ hf
      | false =>
        obtain rfl := Value.subscript_fault hr hf
        exact h.miss hq v
  unfold Setting.pick
  dsimp only
  split <;> first | exact h.made p _ hsettled | exact h.pure _

-- the recursion is that of the evaluation, over the forms of expressions and lists of their parts
mutual

theorem hold : ∀ e : Expr, e.levels.All Q → P (e.hold s) (e.hold s')
  | .literal p l, _ => by
    rw [Expr.hold, Expr.hold]
    exact h.fresh _
  | .tuple p es, hq | .list p es, hq => by
    simp only [Expr.levels, Levels.all_cons] at hq
    rw [Expr.hold, Expr.hold]
    exact h.seq (valuesOf es hq.2) fun vs => h.fresh _
  | .set p es, hq => by
    simp only [Expr.levels, Levels.all_cons] at hq
    rw [Expr.hold, Expr.hold]
    exact h.seq (valuesOf es hq.2) fun vs =>
      h.madeArranged ⟨_, hq.1, rfl⟩ _ (Value.blamable_hashables _ _)
  | .dict p es, hq => by
    simp only [Expr.levels, Levels.all_cons, Levels.all_beside] at hq
    have hentries := h.seq (entriesOf es hq.2.1 hq.2.2) fun entries =>
      h.made p []
        (h.settle ⟨_, hq.1, rfl⟩ (Value.blamable_hashableKeys entries (Value.mappingOf entries)))
    rw [Expr.hold, Expr.hold]
    -- a refusal goes in front of the entries, which stand behind it all the same
    split
    · exact h.seq (h.unsupported hq.1) fun _ => hentries
    · exact hentries
  | .name p n, hq => by
    simp only [Expr.levels, Levels.all_cons] at hq
    rw [Expr.hold, Expr.hold, h.names hq.1]
    split
    · exact h.asOfNow _
    · exact h.reject ⟨_, hq.1, rfl⟩ trivial
  | .unary p op e, hq => by
    simp only [Expr.levels, Levels.all_cons] at hq
    rw [Expr.hold, Expr.hold]
    exact h.seq (hold e hq.2) fun k =>
      h.made p _ (h.settle ⟨_, hq.1, rfl⟩ (Value.blamable_operateUnary op k.value))
  | .binary p op a b, hq => by
    simp only [Expr.levels, Levels.all_cons, Levels.all_beside] at hq
    rw [Expr.hold, Expr.hold]
    split
    · exact h.unsupported hq.1
    · exact h.seq (hold a hq.2.1) fun _ => h.seq (hold b hq.2.2) fun _ =>
        h.seq (h.asOfNow _) fun _ =>
          h.madeArranged ⟨_, hq.1, rfl⟩ _ (Value.blamable_operate _ _ _)
  | .both p es, hq => by
    simp only [Expr.levels, Levels.all_cons] at hq
    rw [Expr.hold, Expr.hold]
    exact joinedOf ⟨_, hq.1, rfl⟩ true es hq.2
  | .either p es, hq => by
    simp only [Expr.levels, Levels.all_cons] at hq
    rw [Expr.hold, Expr.hold]
    exact joinedOf ⟨_, hq.1, rfl⟩ false es hq.2
  | .comparison p e ops es, hq => by
    simp only [Expr.levels, Levels.all_cons, Levels.all_beside] at hq
    rw [Expr.hold, Expr.hold]
    exact h.seq (hold e hq.2.1) fun k =>
      h.seq (chainOf ⟨_, hq.1, rfl⟩ k ops es hq.2.2) fun _ => h.pure _
  | .conditional p test body otherwise, hq => by
    simp only [Expr.levels, Levels.all_cons, Levels.all_beside] at hq
    rw [Expr.hold, Expr.hold]
    refine h.seq (hold test hq.2.1) fun k =>
      h.seq (h.settle ⟨_, hq.1, rfl⟩ (Value.blamable_truth k.value)) fun b => ?_
    split
    · exact hold body hq.2.2.1
    · exact hold otherwise hq.2.2.2
  | .access p e n, hq => by
    simp only [Expr.levels, Levels.all_cons] at hq
    rw [Expr.hold, Expr.hold]
    refine h.seq (hold e hq.2) fun k => ?_
    split
    · exact h.seq (h.reject ⟨_, hq.1, rfl⟩ trivial) fun _ => h.read ⟨_, hq.1, rfl⟩ k n
    · exact h.read ⟨_, hq.1, rfl⟩ k n
  | .subscript p e i, hq => by
    -- a slice is no expression that has a value: its bounds are evaluated one by one
    cases i with
    | slice q a b c =>
      simp only [Expr.levels, Levels.all_cons, Levels.all_beside] at hq
      obtain ⟨hnode, he, -, ha, hb, hc⟩ := hq
      rw [Expr.hold, Expr.hold]
      exact h.seq (hold e he) fun _ => h.seq (partOf a ha) fun _ => h.seq (partOf b hb) fun _ =>
        h.seq (partOf c hc) fun _ => h.seq (h.asOfNow _) fun _ => h.pick hnode _ _
    | _ =>
      rw [Expr.levels, Levels.all_cons, Levels.all_beside] at hq
      rw [hold_subscript ?_ s, hold_subscript ?_ s']
      · exact h.seq (hold e hq.2.1) fun _ => h.seq (hold _ hq.2.2) fun _ =>
          h.seq (h.asOfNow _) fun _ => h.pick hq.1 _ _
      all_goals nofun
  | .call p f es ks, hq => by
    simp only [Expr.levels, Levels.all_cons, Levels.all_beside, Levels.all_under] at hq
    obtain ⟨hnode, hf, hes, hks⟩ := hq
    rw [Expr.hold, Expr.hold]
    -- what the node that is called came to is kept in mind, since that is what is called later
    refine h.bind (hold f hf) fun k c c' hvalue => ?_
    have hcall : P (do
        let positional ← Marginalia.argumentsOf s es
        let named ← Marginalia.keywordsOf s ks []
        let call ← Setting.asOfNow fun cs => (k.value.now cs, positional.map (Held.now cs),
          named.map fun e => (e.1, e.2.now cs))
        s.invoke p call.1 call.2.1 call.2.2) (do
        let positional ← Marginalia.argumentsOf s' es
        let named ← Marginalia.keywordsOf s' ks []
        let call ← Setting.asOfNow fun cs => (k.value.now cs, positional.map (Held.now cs),
          named.map fun e => (e.1, e.2.now cs))
        s'.invoke p call.1 call.2.1 call.2.2) := by
      refine h.seq (argumentsOf es hes) fun positional =>
        h.bind (keywordsOf ks [] hks) fun named _ _ hkeywords =>
          h.bind (h.asOfNow _) fun call c₁ _ hnow => ?_
      cases hnow
      refine h.invoke hnode ⟨c, k, c', c₁.changed, hvalue, rfl⟩ _ fun e he => ?_
      obtain ⟨e', he', rfl⟩ := List.mem_map.mp he
      exact (names_keywordsOf hkeywords e' he').resolve_right List.not_mem_nil
    dsimp only
    split
    · exact h.seq (h.reject ⟨_, hnode, rfl⟩ trivial) fun _ => hcall
    · exact hcall
  | .slice .., hq | .starred .., hq | .named .., hq | .lambda .., hq | .gather .., hq
  | .await .., hq | .yield .., hq | .yieldFrom .., hq | .joined .., hq | .field .., hq => by
    rw [Expr.hold, Expr.hold]
    · exact h.unsupported (Expr.of_all_levels hq)
    all_goals nofun

theorem valuesOf : ∀ es : List Expr, (levelsOfAll es).All Q →
    P (Marginalia.valuesOf s es) (Marginalia.valuesOf s' es)
  | [], _ => by
    rw [Marginalia.valuesOf, Marginalia.valuesOf]
    exact h.pure _
  | e :: es, hq => by
    rw [levelsOfAll, Levels.all_beside] at hq
    rw [Marginalia.valuesOf, Marginalia.valuesOf]
    exact h.seq (hold e hq.1) fun _ => h.seq (valuesOf es hq.2) fun _ => h.pure _

theorem entriesOf : ∀ es : List Entry, (levelsOfKeys es).All Q → (levelsOfEntryValues es).All Q →
    P (Marginalia.entriesOf s es) (Marginalia.entriesOf s' es)
  | [], _, _ => by
    rw [Marginalia.entriesOf, Marginalia.entriesOf]
    exact h.pure _
  | .unpacked _ :: es, hkeys, hvalues => by
    rw [levelsOfKeys] at hkeys
    rw [levelsOfEntryValues, Levels.all_beside] at hvalues
    rw [Marginalia.entriesOf, Marginalia.entriesOf]
    exact entriesOf es hkeys hvalues.2
  | .item k v :: es, hkeys, hvalues => by
    rw [levelsOfKeys, Levels.all_beside] at hkeys
    rw [levelsOfEntryValues, Levels.all_beside] at hvalues
    rw [Marginalia.entriesOf, Marginalia.entriesOf]
    exact h.seq (hold k hkeys.1) fun _ => h.seq (hold v hvalues.1) fun _ =>
      h.seq (entriesOf es hkeys.2 hvalues.2) fun _ => h.pure _

theorem joinedOf {p : Place} (hp : ∃ x, Q x ∧ x.place = p) (goesOn : Bool) :
    ∀ es : List Expr, (levelsOfAll es).All Q →
      P (Marginalia.joinedOf s p goesOn es) (Marginalia.joinedOf s' p goesOn es)
  | [], _ => by
    rw [Marginalia.joinedOf, Marginalia.joinedOf]
    exact h.pure _
  | [e], hq => by
    rw [levelsOfAll, Levels.all_beside] at hq
    rw [Marginalia.joinedOf, Marginalia.joinedOf]
    exact hold e hq.1
  | e :: e' :: es, hq => by
    rw [levelsOfAll, Levels.all_beside] at hq
    rw [joinedOf_cons p goesOn e e' es s, joinedOf_cons p goesOn e e' es s']
    refine h.seq (hold e hq.1) fun k =>
      h.seq (h.settle hp (Value.blamable_truth k.value)) fun b => ?_
    split
    · exact joinedOf hp goesOn (e' :: es) hq.2
    · exact h.pure _

theorem chainOf {p : Place} (hp : ∃ x, Q x ∧ x.place = p) (left : Held) :
    ∀ (rs : List Relation) (es : List Expr), (levelsOfAll es).All Q →
      P (Marginalia.chainOf s p left rs es) (Marginalia.chainOf s' p left rs es)
  | [], es, _ => by
    rw [Marginalia.chainOf, Marginalia.chainOf]
    · exact h.pure _
    all_goals simp
  | r :: rs, [], _ => by
    rw [Marginalia.chainOf, Marginalia.chainOf]
    · exact h.pure _
    all_goals simp
  | r :: rs, e :: es, hq => by
    rw [levelsOfAll, Levels.all_beside] at hq
    rw [Marginalia.chainOf, Marginalia.chainOf]
    refine h.seq (hold e hq.1) fun right => h.seq (h.asOfNow _) fun left =>
      h.seq (h.relate hp r left right) fun v =>
        h.seq (h.settle hp (Value.blamable_truth v)) fun b => ?_
    split
    · exact chainOf hp right rs es hq.2
    · exact h.pure _

theorem partOf : ∀ e : Option Expr, (levelsOfPart e).All Q →
    P (Marginalia.partOf s e) (Marginalia.partOf s' e)
  | none, _ => by
    rw [Marginalia.partOf, Marginalia.partOf]
    exact h.pure _
  | some e, hq => by
    rw [levelsOfPart] at hq
    rw [Marginalia.partOf, Marginalia.partOf]
    exact h.seq (hold e hq) fun _ => h.pure _

theorem argumentsOf : ∀ es : List Expr, (levelsOfAll es).All Q →
    P (Marginalia.argumentsOf s es) (Marginalia.argumentsOf s' es)
  | [], _ => by
    rw [Marginalia.argumentsOf, Marginalia.argumentsOf]
    exact h.pure _
  | e :: es, hq => by
    rw [levelsOfAll, Levels.all_beside] at hq
    -- an argument with a star stands for the items of its value, so that these may be refused
    cases e with
    | starred p e' =>
      rw [Expr.levels, Levels.all_cons] at hq
      rw [Marginalia.argumentsOf, Marginalia.argumentsOf]
      exact h.seq (hold e' hq.1.2) fun k =>
        h.seq (h.settle ⟨_, hq.1.1, rfl⟩ (Value.blamable_items k.value)) fun _ =>
          h.seq (argumentsOf es hq.2) fun _ => h.pure _
    | _ =>
      rw [Marginalia.argumentsOf, Marginalia.argumentsOf]
      · exact h.seq (hold _ hq.1) fun _ => h.seq (argumentsOf es hq.2) fun _ => h.pure _
      all_goals nofun

theorem keywordsOf : ∀ (ks : List Keyword) (done : List (String × Value)),
    (levelsOfKeywords ks).All Q →
      P (Marginalia.keywordsOf s ks done) (Marginalia.keywordsOf s' ks done)
  | [], done, _ => by
    rw [Marginalia.keywordsOf, Marginalia.keywordsOf]
    exact h.pure _
  | .unpacked m :: ks, done, hq => by
    rw [levelsOfKeywords, Levels.all_beside] at hq
    rw [Marginalia.keywordsOf, Marginalia.keywordsOf]
    exact h.unsupported (Expr.of_all_levels hq.1)
  | .given n e :: ks, done, hq => by
    rw [levelsOfKeywords, Levels.all_beside] at hq
    rw [Marginalia.keywordsOf, Marginalia.keywordsOf]
    exact h.seq (hold e hq.1) fun _ => keywordsOf ks _ hq.2

end

end PairedAt

/-- A relation between computations that holds between the steps of evaluations in two settings
where names stand for the same, and between sequences of computations it holds between.  Subscripts
and calls are taken for nodes that some condition holds of; what is called is the value of the node
that is called, as it is when it is called. -/
structure Paired (s s' : Setting) (Q : Expr → Prop)
    (P : ∀ {α : Type}, Evaluation α → Evaluation α → Prop) : Prop where
  names : s'.valueOf? = s.valueOf?
  pure {α : Type} (a : α) : P (Pure.pure a : Evaluation α) (Pure.pure a)
  bind {α β : Type} {x x' : Evaluation α} {f f' : α → Evaluation β} (hx : P x x')
    (hf : ∀ a c c', outcome x c = (.ok a, c') → P (f a) (f' a)) : P (x >>= f) (x' >>= f')
  reject {α : Type} {c : Cause} (p : Place) (hc : c.OfExpression) :
    P (s.reject p c : Evaluation α) (s'.reject p c)
  blame {α : Type} (p : Place) {f : Fault} (hf : f.isWritable = true) :
    P (s.fail p f : Evaluation α) (s'.fail p f)
  miss {p : Place} {e i : Expr} (h : Q (.subscript p e i)) (k : Value) :
    P (s.fail p (.missingKey k) : Evaluation Value) (s'.fail p (.missingKey k))
  asOfNow {α : Type} (g : Changes → α) : P (Setting.asOfNow g) (Setting.asOfNow g)
  arranged (r : Except Fault Value) : P (s.arranged r) (s'.arranged r)
  fresh (v : Value) : P (Setting.fresh v) (Setting.fresh v)
  invoke {p : Place} {e : Expr} {es : List Expr} {ks : List Keyword} {f : Value}
    {named : List (String × Value)} (h : Q (.call p e es ks))
    (hf : ∃ c k c' cs, outcome (e.hold s) c = (.ok k, c') ∧ f = k.value.now cs)
    (positional : List Held)
    (hnamed : ∀ a ∈ named, a.1 ∈ (Expr.call p e es ks).argumentNames) :
    P (s.invoke p f positional named) (s'.invoke p f positional named)

namespace Paired

variable {s s' : Setting} {Q : Expr → Prop}
  {P : ∀ {α : Type}, Evaluation α → Evaluation α → Prop} (h : s.Paired s' Q P)

include h

theorem pairedAt : s.PairedAt s' Q P where
  names _ := congrFun h.names _
  pure := h.pure
  bind := h.bind
  reject _ hc := h.reject _ hc
  blame _ hf := h.blame _ hf
  miss := h.miss
  asOfNow := h.asOfNow
  arranged := h.arranged
  fresh := h.fresh
  invoke := h.invoke

theorem made (p : Place) (operands : List Held) {r : Except Fault Value}
    (hr : P (s.settle p r) (s'.settle p r)) :
    P (s.made p operands r) (s'.made p operands r) :=
  h.pairedAt.made p operands hr

theorem hold (e : Expr) (hq : e.levels.All Q) : P (e.hold s) (e.hold s') := h.pairedAt.hold e hq

end Paired

/-- A property of computations that holds of the steps of evaluations in a setting and of
sequences of computations it holds of.  Subscripts and calls are taken for nodes that some
condition holds of. -/
structure Closed (s : Setting) (Q : Expr → Prop) (P : ∀ {α : Type}, Evaluation α → Prop) :
    Prop where
  pure {α : Type} (a : α) : P (Pure.pure a : Evaluation α)
  bind {α β : Type} {x : Evaluation α} {f : α → Evaluation β} (hx : P x)
    (hf : ∀ a c c', outcome x c = (.ok a, c') → P (f a)) : P (x >>= f)
  reject {α : Type} {c : Cause} (p : Place) (hc : c.OfExpression) :
    P (s.reject p c : Evaluation α)
  blame {α : Type} (p : Place) {f : Fault} (hf : f.isWritable = true) :
    P (s.fail p f : Evaluation α)
  miss {p : Place} {e i : Expr} (h : Q (.subscript p e i)) (k : Value) :
    P (s.fail p (.missingKey k) : Evaluation Value)
  asOfNow {α : Type} (g : Changes → α) : P (Setting.asOfNow g)
  arranged (r : Except Fault Value) : P (s.arranged r)
  fresh (v : Value) : P (Setting.fresh v)
  invoke {p : Place} {e : Expr} {es : List Expr} {ks : List Keyword} (h : Q (.call p e es ks))
    (f : Value) (positional : List Held) {named : List (String × Value)}
    (hnamed : ∀ a ∈ named, a.1 ∈ (Expr.call p e es ks).argumentNames) :
    P (s.invoke p f positional named)

namespace Closed

variable {s : Setting} {Q : Expr → Prop} {P : ∀ {α : Type}, Evaluation α → Prop}
  (h : s.Closed Q P)

include h

/-- A property is a relation between an evaluation and itself. -/
theorem paired : s.Paired s Q fun x _ => P x where
  names := rfl
  pure := h.pure
  bind hx hf := h.bind hx hf
  reject p hc := h.reject p hc
  blame p _ hf := h.blame p hf
  miss hq k := h.miss hq k
  asOfNow := h.asOfNow
  arranged := h.arranged
  fresh := h.fresh
  invoke hq _ positional hnamed := h.invoke hq _ positional hnamed

/-- What holds of the steps of evaluations holds of the evaluation of an expression. -/
theorem hold (e : Expr) (hq : e.levels.All Q) : P (e.hold s) := h.paired.hold e hq

end Closed

end Setting

end Marginalia
