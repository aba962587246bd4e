/-
Parameters of actions.

A tag such as `[@click=open(1)]` names what is to be done with a text: a handler with
parameters behind it, or parameters alone.  Parameters are literals, that is constants and
containers of literals; they stand for their values without being worked out.
-/
import Marginalia.Source.StatementReader
import Marginalia.Text.Word

namespace Marginalia

namespace Expr

/-- The number that is written as a constant, if it is one. -/
def numberLiteral? : Expr → Option Value
  | literal _ (.int n) => some (.int n)
  | literal _ (.real x) => some (.float x 0)
  | literal _ (.imaginary x) => some (.complex (Binary64.zero false) x 0)
  | _ => none

/-- The number that is written as a constant, possibly behind a sign. -/
def signedLiteral? : Expr → Option Value
  | unary _ op e =>
    if op == .plus || op == .minus then
      e.numberLiteral?.bind fun v => (v.operateUnary op).toOption
    else none
  | e => e.numberLiteral?

/-- The complex number that is written as a real number and an imaginary one behind it. -/
def complexLiteral? (op : BinaryOp) (a b : Expr) : Option Value :=
  match a.signedLiteral?, b.numberLiteral? with
  | some (.complex ..), _ => none
  | some x, some (.complex re im m) =>
    if op == .add || op == .sub then (x.operate op (.complex re im m)).toOption else none
  | _, _ => none

mutual

/-- The value of a literal. -/
def literalValue? : Expr → Option Value
  | literal _ l => some l.value
  | tuple _ es => (literalValues? es).map .tuple
  | list _ es => (literalValues? es).map (.list 0)
  | set _ es => (literalValues? es).bind fun vs =>
    if vs.all fun v => v.unhashable?.isNone then some (.set 0 (Value.distinct vs)) else none
  | call _ (.name _ "set") [] [] => some (.set 0 [])
  | dict _ es => (literalEntries? es).bind fun entries =>
    if entries.all fun e => e.1.unhashable?.isNone then some (Value.mappingOf entries) else none
  | binary _ op a b => complexLiteral? op a b
  | e => e.signedLiteral?

/-- The values of literals. -/
def literalValues? : List Expr → Option (List Value)
  | [] => some []
  | e :: es => e.literalValue?.bind fun v => (literalValues? es).map (v :: ·)

/-- The keys and the values of literals. -/
def literalEntries? : List Entry → Option (List (Value × Value))
  | [] => some []
  | .unpacked _ :: _ => none
  | .item k v :: es => k.literalValue?.bind fun key => v.literalValue?.bind fun value =>
    (literalEntries? es).map ((key, value) :: ·)

end

end Expr

namespace Action

/-- The parameters of a handler, in brackets; without brackets there are none. -/
def handlerParameters? (cs : List Char) : Option (List Char) :=
  match cs.dropWhile fun c => isWordChar c || c == '.' with
  | [] => some ['(', ')']
  | '(' :: rest =>
    if rest.getLast? == some ')' && !rest.contains '\n' then some ('(' :: rest) else none
  | _ => none

/-- Whether a text is a handler with parameters, or parameters alone. -/
def isReadable (s : String) : Bool :=
  let cs := Search.strip isBlank s.toList
  match readExpression (String.ofList ((handlerParameters? cs).getD cs)) with
  | .ok e => e.literalValue?.isSome
  | .error _ => false

end Action

end Marginalia
