/-
Operators applied to values.

Numbers go by `Quantity.apply`; texts, bytes, tuples and lists are joined and
repeated; sets, mappings, combinations of bits and types have their own rules;
a text before `%` is a template.
-/
import Marginalia.Value.Template

namespace Marginalia

/-- The operators with one operand, but for the negation of truth. -/
inductive UnaryOp where
  | plus | minus | invert | not
deriving DecidableEq, Repr

/-- How an operator is spelled in a refusal. -/
def UnaryOp.symbol : UnaryOp → String
  | plus => "+"
  | minus => "-"
  | invert => "~"
  | not => "not"

namespace Value

/-- The refusal to apply an operator. -/
def noRule {α : Type} (op : BinaryOp) (v w : Value) : Except Fault α :=
  .error (.operands op.symbol v.className w.className)

/-- Joins a sequence with another of its kind. -/
def concat? (v w : Value) : Option (Except Fault Value) :=
  let refuse (kind : String) : Except Fault Value :=
    .error (.typeError ("can only concatenate " ++ kind ++ " (not \"" ++ w.className ++ "\") to " ++ kind))
  match v.plain with
  | str s => some (match w.plain with
    | str t => .ok (str (s ++ t))
    | _ => refuse "str")
  | tuple vs => some (match w.plain with
    | tuple ws => .ok (tuple (vs ++ ws))
    | _ => refuse "tuple")
  | list _ vs => some (match w.plain with
    | list _ ws => .ok (list 0 (vs ++ ws))
    | _ => refuse "list")
  | bytes bs => some (match w.plain.bytes? with
    | some cs => .ok (bytes (bs ++ cs))
    | none => .error (.typeError ("can't concat " ++ w.className ++ " to bytes")))
  | bytearray _ bs => some (match w.plain.bytes? with
    | some cs => .ok (bytearray 0 (bs ++ cs))
    | none => .error (.typeError ("can't concat " ++ w.className ++ " to bytearray")))
  | _ => none

/-- Items repeated so many times. -/
def repeated {α : Type} (xs : List α) (n : Nat) : List α := (List.replicate n xs).flatten

/-- The length of a repetition beyond which it is not made. -/
def repetitionLimit : Nat := Nat.pow 2 31

/-- A sequence repeated by a count. -/
def repeat? (v : Value) (n : Int) : Option (Except Fault Value) :=
  let made {α : Type} (xs : List α) (make : List α → Value) : Except Fault Value :=
    if n ≥ positionLimit then .error (.overflow "cannot fit 'int' into an index-sized integer")
    else if xs.length * n.toNat > repetitionLimit then .error .memory
    else .ok (make (repeated xs n.toNat))
  match v.plain with
  | str s => some (made s.toList fun cs => str (String.ofList cs))
  | tuple vs => some (made vs tuple)
  | list _ vs => some (made vs (list 0))
  | bytes bs => some (made bs bytes)
  | bytearray _ bs => some (made bs (bytearray 0))
  | _ => none

/-- Whether a value can be repeated. -/
def isSequence (v : Value) : Bool := (v.repeat? 0).isSome

/-- A sequence beside a count, in either order. -/
def multiplySequence (v w : Value) : Except Fault Value :=
  let refuse (x : Value) : Except Fault Value :=
    .error (.typeError ("can't multiply sequence by non-int of type '" ++ x.className ++ "'"))
  if v.isSequence then
    match w.index? with
    | some n => (v.repeat? n).getD (refuse w)
    | none => refuse w
  else if w.isSequence then
    match v.index? with
    | some n => (w.repeat? n).getD (refuse v)
    | none => refuse v
  else noRule .mul v w

/-- The rule of an operator for sets, by what it makes of the members. -/
def setRule? : BinaryOp → Option (List Value → List Value → List Value)
  | .bitOr => some fun vs ws => vs ++ ws
  | .bitAnd => some fun vs ws =>
    if vs.length < ws.length then vs.filter fun v => v.isAmong ws
    else ws.filter fun w => w.isAmong vs
  | .sub => some fun vs ws => vs.filter fun v => !v.isAmong ws
  | .bitXor => some fun vs ws =>
    (vs.filter fun v => !v.isAmong ws) ++ ws.filter fun w => !w.isAmong vs
  | _ => none

/-- Operators on sets; the result is of the kind of the first. -/
def combineSets? (op : BinaryOp) (v w : Value) : Option Value :=
  match setRule? op, v.plain, w.plain.setItems? with
  | some f, set _ vs, some ws => some (set 0 (distinct (f vs ws)))
  | some f, frozenset vs, some ws => some (frozenset (distinct (f vs ws)))
  | _, _, _ => none

/-- Puts a value under a key; a key that is there keeps its place. -/
def putKey (key value : Value) : List Value → List Value → List Value × List Value
  | k :: ks, v :: vs =>
    if matching k key then (k :: ks, value :: vs)
    else
      let (ks', vs') := putKey key value ks vs
      (k :: ks', v :: vs')
  | _, _ => ([key], [value])

/-- Puts an entry among the keys and values of a mapping. -/
def putEntry (m : List Value × List Value) (e : Value × Value) : List Value × List Value :=
  putKey e.1 e.2 m.1 m.2

/-- A mapping made of entries, the last value under a key holding. -/
def mappingOf (entries : List (Value × Value)) : Value :=
  let m := entries.foldl putEntry ([], [])
  dict 0 m.1 m.2

/-- The rule of an operator for combinations of bits. -/
def bitsRule? : BinaryOp → Option (Int → Int → Int)
  | .bitOr => some IntBits.or
  | .bitAnd => some IntBits.and
  | .bitXor => some IntBits.xor
  | _ => none

/-- Operators on two members of one enumeration of bits. -/
def combineBits? (op : BinaryOp) (v w : Value) : Option Value :=
  match bitsRule? op, v, w with
  | some f, member c (.number m), member d (.number n) =>
    if c.flavour == .bits && c.isSame d then some (member c (.number (f m n))) else none
  | _, _, _ => none

/-- How the parts of a type are spelled inside a union. -/
def unionParts? : Value → Option (List String)
  | nothing => some ["None"]
  | type t => match t with
    | .builtin .nothing => some ["None"]
    | .function _ => none
    | .annotated .. => none
    | .aliased .. => none
    | .union ps => some ps
    | .generic _ s _ => some [s]
    | t => some [t.displayName]
  | _ => none

/-- The union of two values that stand for types. -/
def joinTypes? (v w : Value) : Option Value :=
  match unionParts? v, unionParts? w with
  | some a, some b =>
    let parts := a ++ b.filter fun p => !a.contains p
    some (if parts.length = 1 then v else type (.union parts))
  | _, _ => none

/-- The union of two types. -/
def unionOf? (v w : Value) : Option Value :=
  match v, w with
  | nothing, nothing => none
  | _, _ => joinTypes? v w

/-- A template filled with what stands behind it. -/
def fillTemplate (v w : Value) : Except Fault Value :=
  match v.plain with
  | str s => (Template.fill s w).map fun r => if s.isEmpty || s.contains '%' then str r else v
  | bytes bs => (Template.fillBytes bs w).map bytes
  | bytearray _ bs => (Template.fillBytes bs w).map (bytearray 0)
  | _ => noRule .mod v w

/-- Two mappings or two types put together. -/
def unite (v w : Value) : Except Fault Value :=
  match v.plain, w.plain with
  | dict _ ks vs, dict _ ks' vs' => .ok (mappingOf (ks.zip vs ++ ks'.zip vs'))
  | _, _ => ((unionOf? v w).map .ok).getD (noRule .bitOr v w)

/-- Operators on values that are not both numbers. -/
def operateOther (op : BinaryOp) (v w : Value) : Except Fault Value :=
  match op with
  | .add => (v.concat? w).getD (noRule op v w)
  | .mul => multiplySequence v w
  | .mod => fillTemplate v w
  | _ =>
    (((combineSets? op v w).or (combineBits? op v w)).map .ok).getD
      (if op = .bitOr then unite v w else noRule op v w)

/-- Applies an operator to two values. -/
def operate (op : BinaryOp) (v w : Value) : Except Fault Value :=
  match v.quantity?, w.quantity? with
  | some a, some b =>
    match v, w, bitsOfFlags op with
    | bool x, bool y, some f => .ok (bool (f x y))
    | _, _, _ => (a.apply op b).getD (noRule op v w)
  | _, _ => operateOther op v w
where
  /-- The operators that keep two truth values one. -/
  bitsOfFlags : BinaryOp → Option (Bool → Bool → Bool)
    | .bitOr => some or
    | .bitAnd => some and
    | .bitXor => some xor
    | _ => none

/-- All bits that are members of an enumeration. -/
def allBits (c : EnumClass) : Int :=
  c.canonical.foldl (fun n m => match m.2 with
    | .number k => IntBits.or n k
    | _ => n) 0

/-- Applies an operator to one value. -/
def operateUnary (op : UnaryOp) (v : Value) : Except Fault Value :=
  let refuse : Except Fault Value := .error (.operand op.symbol v.className)
  match op, v.quantity? with
  | .not, _ => v.truth.map fun b => bool !b
  | .plus, some (.int n) => .ok (int n)
  | .minus, some (.int n) => .ok (int (-n))
  | .invert, some (.int n) => .ok (int (IntBits.complement n))
  | .plus, some (.real _) | .plus, some (.complex ..) => .ok v.plain
  | .minus, some (.real x) => .ok (float x.neg 0)
  | .minus, some (.complex a b) => .ok (complex a.neg b.neg 0)
  | .invert, none =>
    match v with
    | member c (.number n) =>
      if c.flavour == .bits then .ok (member c (.number (IntBits.xor (allBits c) n))) else refuse
    | _ => refuse
  | _, _ => refuse

end Value

end Marginalia
