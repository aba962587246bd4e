/-
The values of expressions.

`Expr.hold` works an expression out without running the program around it: names
stand for what a `Scope` and a `Host` give them, and only operations known here or
offered by the host are carried out.  What goes wrong in an operation is blamed on the
place of the expression; annotation errors of the host come through as they are.
-/
import Marginalia.Host
import Marginalia.Scope
import Marginalia.Source.Expr

namespace Marginalia

/-- Why an expression has no value. -/
inductive EvaluationStop where
  | rejected (e : AnnotationError)
  /-- A fault that is not blamed on any place. -/
  | escaped (f : Fault)

/-- A computation over the state of a compilation. -/
abbrev Evaluation := ExceptT EvaluationStop (StateM Compilation)

/-- What an expression is evaluated in. -/
structure Setting where
  host : Host
  scope : Scope
  file : String

/-- Classes that every expression can call. -/
def constructors : List Builtin :=
  [.bool, .bytes, .complex, .float, .frozenset, .int, .str, .tuple]

/-- Names that arguments of calls cannot have. -/
def reservedKeywords : List String := ["self", "node", "file_path", "function"]

/-- Adds an argument by name; a name that is there keeps its place. -/
def setNamed (name : String) (v : Value) : List (String × Value) → List (String × Value)
  | [] => [(name, v)]
  | (n, w) :: rest => if n == name then (n, v) :: rest else (n, w) :: setNamed name v rest

namespace Setting

/-- The value of a name: what the scope says, else the host, else a constructor. -/
def valueOf? (s : Setting) (name : String) : Option Held :=
  (s.scope.lookup name).or
    (((s.host.names.lookup name).or
      ((constructors.find? fun b => b.name == name).map fun b => .type (.builtin b))).map
        fun v => { value := v })

/-- Stops with an annotation error at a place. -/
def reject {α : Type} (s : Setting) (p : Place) (c : Cause) : Evaluation α :=
  throw (.rejected ⟨c, some (p.inFile s.file)⟩)

/-- Refuses a form of expression. -/
def unsupported {α : Type} (s : Setting) (e : Expr) : Evaluation α :=
  s.reject e.place (.unsupported e.form)

/-- Stops with what went wrong in an operation. -/
def fail {α : Type} (s : Setting) (p : Place) (f : Fault) : Evaluation α :=
  if f.isWritable then s.reject p (.failed f) else throw (.escaped Fault.tooManyDigits)

/-- The result of an operation. -/
def settle {α : Type} (s : Setting) (p : Place) : Except Fault α → Evaluation α
  | .ok a => pure a
  | .error f => s.fail p f

/-- Something that is read off the objects as they are now. -/
def asOfNow {α : Type} (g : Changes → α) : Evaluation α := do return g (← get).changed

/-- A value that has been held while others were worked out, as it is now. -/
def refresh (h : Held) : Evaluation Held := asOfNow fun cs => h.now cs

/-- Makes a value a new object. -/
def fresh (v : Value) : Evaluation Held := do
  let c ← get
  set { c with created := c.created + 1 }
  return ⟨(v.now c.changed).marked (c.created + 1), c.created + 1⟩

/-- What an operation makes, with the members of a set in their order. -/
def arranged (s : Setting) (r : Except Fault Value) : Evaluation (Except Fault Value) := do
  let c ← get
  return r.map fun v => v.arranged (s.host.orderIn c)

/-- The result of an operation: an operand that it leaves as it is, else a new object. -/
def made (s : Setting) (p : Place) (operands : List Held) (r : Except Fault Value) :
    Evaluation Held := do
  let v ← s.settle p r
  match operands.find? fun h => h.remains v with
  | some h => return h
  | none => fresh v

/-- Calls a value while the store is closed to annotations from outside. -/
def invoke (s : Setting) (p : Place) (f : Value) (positional : List Held)
    (named : List (String × Value)) : Evaluation Held := do
  match named.find? fun e => reservedKeywords.contains e.1 with
  | some (n, _) => throw (.escaped (.typeError
      ("ConstantEvaluator._apply() got multiple values for argument '" ++ n ++ "'")))
  | none =>
    let c ← get
    let (r, c') := s.host.callValue f ⟨positional.map Held.value, named⟩
      { c with store := c.store.enter }
    set { c' with store := c'.store.leave }
    match r with
    | .ok v => s.made p (convertible f positional) (.ok v)
    | .error (.rejected e) => throw (.rejected e)
    | .error (.failed fault) => s.fail p fault
where
  /-- What a class can answer a call with as it is. -/
  convertible (f : Value) (positional : List Held) : List Held :=
    match f, positional with
    | .type (.builtin _), [h] => [h]
    | _, _ => []

/-- Answers a question about two values. -/
def relate (s : Setting) (p : Place) (r : Relation) (a b : Held) : Evaluation Value :=
  let v := a.value
  let w := b.value
  match r with
  | .equal => pure (.bool (v.equals w))
  | .unequal => pure (.bool !(v.equals w))
  | .order op => s.settle p (Value.compare op v w)
  | .among => do return .bool (← s.settle p (v.contains w))
  | .notAmong => do return .bool !(← s.settle p (v.contains w))
  | .same => pure (.bool (a.isSame b))
  | .notSame => pure (.bool !(a.isSame b))

/-- What is read out of a value under a name. -/
def read (s : Setting) (p : Place) (h : Held) (name : String) : Evaluation Held := do
  let r := h.value.readAttribute name
  match h.value.quantity?, r with
  | none, .ok (.method v n) => fresh (.method v n)
  | none, .ok v => return h.part v
  | _, r => s.made p [h] r

/-- What a value gives for a subscript: items stay what they are, other parts are made. -/
def pick (s : Setting) (p : Place) (h : Held) (i : Value) : Evaluation Held := do
  let r := h.value.subscript i
  match h.value.plain, i, r with
  | .tuple _, .slice .., r | .str _, _, r | .bytes _, _, r => s.made p [h] r
  | .tuple _, _, .ok v | .list .., _, .ok v | .dict .., _, .ok v => return h.part v
  | _, _, r => s.made p [] r

/-- The operands that an operator can leave as they are. -/
def keepable (hs : List Held) : List Held :=
  hs.filter fun h => match h.value with
    | .str _ | .bytes _ | .tuple _ => true
    | _ => false

end Setting

/-- The arithmetic operator of an expression, if there is a rule for it. -/
def BinaryOp.supported? : BinaryOp → Option BinaryOp
  | matMul => none
  | op => some op

mutual

/-- The value of an expression, as an object. -/
def Expr.hold (s : Setting) : Expr → Evaluation Held
  | .literal _ l => Setting.fresh l.value
  | .tuple _ es => do Setting.fresh (.tuple (← valuesOf s es))
  | .list _ es => do Setting.fresh (.list 0 (← valuesOf s es))
  | .set p es => do
    let vs ← valuesOf s es
    s.made p [] (← s.arranged do
      for v in vs do v.hashable
      return .set 0 (Value.distinct vs))
  | .dict p es => do
    if es.any fun
      | .unpacked _ => true
      | .item .. => false
    then s.unsupported (.dict p es)
    let entries ← entriesOf s es
    s.made p [] do
      for (k, _) in entries do k.hashable
      return Value.mappingOf entries
  | .name p n => do
    match s.valueOf? n with
    | some h => Setting.refresh h
    | none => s.reject p (.notConstant n)
  | .unary p op e => do
    let h ← e.hold s
    s.made p (if op = .plus then [h] else []) (h.value.operateUnary op)
  | .binary p op a b => do
    match op.supported? with
    | none => s.unsupported (.binary p op a b)
    | some op => do
      let h ← a.hold s
      let k ← b.hold s
      let h ← Setting.refresh h
      s.made p (Setting.keepable [h, k]) (← s.arranged (h.value.operate op k.value))
  | .both p es => joinedOf s p true es
  | .either p es => joinedOf s p false es
  | .comparison p e ops es => do return { value := ← chainOf s p (← e.hold s) ops es }
  | .conditional p test body otherwise => do
    let h ← test.hold s
    if ← s.settle p h.value.truth then body.hold s else otherwise.hold s
  | .access p e n => do
    let h ← e.hold s
    if n.startsWith "_" then s.reject p (.privateAttribute n)
    s.read p h n
  | .subscript p e (.slice _ a b c) => do
    let h ← e.hold s
    let start ← partOf s a
    let stop ← partOf s b
    let step ← partOf s c
    let h ← Setting.refresh h
    s.pick p h (.slice start stop step)
  | .subscript p e i => do
    let h ← e.hold s
    let k ← i.hold s
    let h ← Setting.refresh h
    s.pick p h k.value
  | .call p f es ks => do
    let function := (← f.hold s).value
    if !function.isCallable then s.reject p (.notCallable function.typeName)
    let positional ← argumentsOf s es
    let named ← keywordsOf s ks []
    let call ← Setting.asOfNow fun cs =>
      (function.now cs, positional.map (Held.now cs), named.map fun e => (e.1, e.2.now cs))
    s.invoke p call.1 call.2.1 call.2.2
  | e => s.unsupported e

/-- The values of expressions, left to right. -/
def valuesOf (s : Setting) : List Expr → Evaluation (List Value)
  | [] => pure []
  | e :: es => do
    let h ← e.hold s
    return h.value :: (← valuesOf s es)

/-- The entries of a mapping, each key before its value. -/
def entriesOf (s : Setting) : List Entry → Evaluation (List (Value × Value))
  | [] => pure []
  | .unpacked _ :: es => entriesOf s es
  | .item k v :: es => do
    let key ← k.hold s
    let value ← v.hold s
    return (key.value, value.value) :: (← entriesOf s es)

/-- The value of operands joined by `and`, for which `goesOn` is true, or by `or`: that of
the first one that decides, else of the last one. -/
def joinedOf (s : Setting) (p : Place) (goesOn : Bool) : List Expr → Evaluation Held
  | [] => pure default
  | [e] => e.hold s
  | e :: es => do
    let h ← e.hold s
    if (← s.settle p h.value.truth) == goesOn then joinedOf s p goesOn es else return h

/-- Whether each of the relations holds between its neighbours, up to the first that
does not. -/
def chainOf (s : Setting) (p : Place) (left : Held) :
    List Relation → List Expr → Evaluation Value
  | r :: rs, e :: es => do
    let right ← e.hold s
    let left ← Setting.refresh left
    let outcome ← s.relate p r left right
    if ← s.settle p outcome.truth then chainOf s p right rs es else return .bool false
  | _, _ => pure (.bool true)

/-- The value of a part of a slice; nothing when it is left out. -/
def partOf (s : Setting) : Option Expr → Evaluation Value
  | none => pure .nothing
  | some e => do return (← e.hold s).value

/-- The values of arguments by place; a starred one stands for its items. -/
def argumentsOf (s : Setting) : List Expr → Evaluation (List Held)
  | [] => pure []
  | .starred p e :: es => do
    let h ← e.hold s
    let vs ← s.settle p h.value.items
    return vs.map h.part ++ (← argumentsOf s es)
  | e :: es => do
    let h ← e.hold s
    return h :: (← argumentsOf s es)

/-- The values of arguments by name, added to those before them. -/
def keywordsOf (s : Setting) :
    List Keyword → List (String × Value) → Evaluation (List (String × Value))
  | [], done => pure done
  | .unpacked m :: _, _ => s.unsupported m
  | .given n e :: ks, done => do
    let h ← e.hold s
    keywordsOf s ks (setNamed n h.value done)

end

/-- The value of an expression. -/
def Expr.evaluate (s : Setting) (e : Expr) : Evaluation Value := do return (← e.hold s).value

end Marginalia
