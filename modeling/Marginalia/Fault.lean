/-
What can go wrong when an operation is applied to values.

A `Fault` is the cause; `Fault.kind` is the class of error it belongs to and
`Fault.message` the sentence for it.
-/
import Marginalia.Value.Text

namespace Marginalia

/-- Why an operation on values has no result. -/
inductive Fault where
  /-- No rule for the operator and these operand classes. -/
  | operands (op left right : String)
  /-- No rule for the unary operator and this operand class. -/
  | operand (op class_ : String)
  /-- Values of these classes are not ordered. -/
  | unordered (op left right : String)
  /-- Values of this class have no items. -/
  | notIterable (class_ : String)
  /-- Values of this class cannot be searched. -/
  | notSearchable (class_ : String)
  /-- Values of this class cannot be subscripted. -/
  | notSubscriptable (class_ : String)
  /-- The class cannot be subscripted. -/
  | classNotSubscriptable (class_ : String)
  /-- Values of this class cannot be keys. -/
  | unhashable (class_ : String)
  /-- Values of this class have no such attribute. -/
  | noAttribute (owner name : String)
  /-- The class has no such attribute. -/
  | noClassAttribute (class_ name : String)
  /-- The enumeration has no such member. -/
  | noMember (name : String)
  /-- Division by a zero. -/
  | zeroDivision (text : String)
  /-- A position beyond the items. -/
  | outOfRange (what : String)
  | missingKey (key : Value)
  | typeError (text : String)
  | valueError (text : String)
  | overflow (text : String)
  | lookup (text : String)
  | memory
  | runtime (text : String)
  | encoding (text : String)
  | decoding (text : String)
  | coding (text : String)
deriving Repr

namespace Fault

/-- The class of error a fault belongs to. -/
def kind : Fault → String
  | operands .. | operand .. | unordered .. | notIterable _ | notSearchable _
  | notSubscriptable _ | classNotSubscriptable _ | unhashable _ | typeError _ => "TypeError"
  | noAttribute .. | noClassAttribute .. | noMember _ => "AttributeError"
  | zeroDivision _ => "ZeroDivisionError"
  | outOfRange _ => "IndexError"
  | missingKey _ => "KeyError"
  | valueError _ => "ValueError"
  | overflow _ => "OverflowError"
  | lookup _ => "LookupError"
  | memory => "MemoryError"
  | runtime _ => "RuntimeError"
  | encoding _ => "UnicodeEncodeError"
  | decoding _ => "UnicodeDecodeError"
  | coding _ => "UnicodeError"

/-- The sentence for a fault. -/
def message : Fault → String
  | operands op l r =>
    "unsupported operand type(s) for " ++ op ++ ": '" ++ l ++ "' and '" ++ r ++ "'"
  | operand op c => "bad operand type for unary " ++ op ++ ": '" ++ c ++ "'"
  | unordered op l r =>
    "'" ++ op ++ "' not supported between instances of '" ++ l ++ "' and '" ++ r ++ "'"
  | notIterable c => "'" ++ c ++ "' object is not iterable"
  | notSearchable c => "argument of type '" ++ c ++ "' is not iterable"
  | notSubscriptable c => "'" ++ c ++ "' object is not subscriptable"
  | classNotSubscriptable c => "type '" ++ c ++ "' is not subscriptable"
  | unhashable c => "unhashable type: '" ++ c ++ "'"
  | noAttribute o n => "'" ++ o ++ "' object has no attribute '" ++ n ++ "'"
  | noClassAttribute c n => "type object '" ++ c ++ "' has no attribute '" ++ n ++ "'"
  | noMember n => n
  | outOfRange w => w
  | missingKey k => k.written
  | memory => ""
  | zeroDivision t | typeError t | valueError t | overflow t | lookup t | runtime t
  | encoding t | decoding t | coding t => t

/-- Whether the sentence can be written: a missing key may be an integer too long for it. -/
def isWritable : Fault → Bool
  | missingKey k => k.isWritable
  | _ => true

/-- The refusal to write an integer of too many digits. -/
def tooManyDigits : Fault :=
  .valueError "Exceeds the limit (4300 digits) for integer string conversion; use sys.set_int_max_str_digits() to increase the limit"

end Fault

end Marginalia
