/-
Making values of the built-in classes.

Each class called as a function takes a value of another class and makes one of
its own, or refuses.
-/
import Marginalia.Text.Codec
import Marginalia.Text.Numeral
import Marginalia.Value.Arguments
import Marginalia.Value.Operate

namespace Marginalia

/-- The fault for a failure to turn a text into bytes or back. -/
def CodecError.fault (e : CodecError) : Fault :=
  match e.kind with
  | "LookupError" => .lookup e.message
  | "TypeError" => .typeError e.message
  | "UnicodeEncodeError" => .encoding e.message
  | "UnicodeDecodeError" => .decoding e.message
  | _ => .coding e.message

/-- A result about texts and bytes, with a fault for a failure. -/
def ofCodec {α : Type} : Except CodecError α → Except Fault α
  | .ok a => .ok a
  | .error e => .error e.fault

namespace Value

/-- A value as an integer where one is asked for. -/
def requireIndex (v : Value) : Except Fault Int :=
  match v.index? with
  | some n => .ok n
  | none => .error (.typeError ("'" ++ v.className ++ "' object cannot be interpreted as an integer"))

/-- The refusal of a text that is no integer. -/
def badInteger (base : Nat) (written : String) : Fault :=
  .valueError ("invalid literal for int() with base " ++ toString base ++ ": " ++
    String.ofList (written.toList.take 200))

/-- An integer read from a text. -/
def readInteger (base : Nat) (text written : String) : Except Fault Value :=
  match Numeral.readInt? base text.toList with
  | none => .error (badInteger base written)
  | some (neg, b, ds) =>
    if ds.length > digitLimit && !([2, 4, 8, 16, 32].contains b) then
      .error (.valueError ("Exceeds the limit (4300 digits) for integer string conversion: value has " ++
        toString ds.length ++
        " digits; use sys.set_int_max_str_digits() to increase the limit"))
    else
      let n : Int := Numeral.ofDigits b ds
      .ok (int (if neg then -n else n))

/-- Bytes as a text to read a number from; none of the higher ones belongs in a number. -/
def codesText (bs : List UInt8) : String :=
  String.ofList (bs.map fun b => if b < 128 then Char.ofNat b.toNat else '?')

/-- A real number as an integer, toward zero. -/
def truncated (x : Binary64) : Except Fault Value :=
  if x.isNaN then .error (.valueError "cannot convert float NaN to integer")
  else if x.isInfinite then .error (.overflow "cannot convert float infinity to integer")
  else .ok (int x.truncate)

/-- A value as an integer. -/
def toInteger (v : Value) : Except Fault Value :=
  match v.plain with
  | bool b => .ok (int (if b then 1 else 0))
  | int n => .ok (int n)
  | float x _ => truncated x
  | str s => readInteger 10 s v.written
  | bytes bs | bytearray _ bs => readInteger 10 (codesText bs) v.written
  | _ => .error (.typeError
    ("int() argument must be a string, a bytes-like object or a real number, not '" ++ v.className ++ "'"))

/-- A text as an integer in a base. -/
def toIntegerIn (v base : Value) : Except Fault Value := do
  let b ← base.requireIndex
  if (b ≠ 0 ∧ b < 2) ∨ b > 36 then
    throw (.valueError "int() base must be >= 2 and <= 36, or 0")
  match v.plain with
  | str s => readInteger b.toNat s v.written
  | bytes bs | bytearray _ bs => readInteger b.toNat (codesText bs) v.written
  | _ => throw (.typeError "int() can't convert non-string with explicit base")

/-- The refusal of a text that is no real number. -/
def badReal (v : Value) : Fault :=
  .valueError ("could not convert string to float: " ++ v.written)

/-- A value as a real number. -/
def toReal (v : Value) : Except Fault Value :=
  match v.plain with
  | bool b => (realOfInt (if b then 1 else 0)).map fun x => float x 0
  | int n => (realOfInt n).map fun x => float x 0
  | float x m => .ok (float x m)
  | str s => match Numeral.readReal? s.toList with
    | some x => .ok (float x 0)
    | none => .error (badReal v)
  | bytes bs | bytearray _ bs => match Numeral.readReal? (codesText bs).toList with
    | some x => .ok (float x 0)
    | none => .error (badReal v)
  | _ => .error (.typeError
    ("float() argument must be a string or a real number, not '" ++ v.className ++ "'"))

/-- The parts of a number where a complex one is asked for. -/
def partsFor (which : String) (v : Value) : Except Fault Parts :=
  match v.quantity? with
  | some q => q.toParts
  | none => .error (.typeError (which ++ ", not '" ++ v.className ++ "'"))

/-- Whether a value is complex. -/
def isComplex (v : Value) : Bool :=
  match v.plain with
  | complex .. => true
  | _ => false

/-- A complex number from its real part, or from a text. -/
def toComplex (v : Value) : Except Fault Value :=
  match v.plain with
  | str s => match Numeral.readComplex? s.toList with
    | some (a, b) => .ok (complex a b 0)
    | none => .error (.valueError
      (if Numeral.misplacesUnderscore s.toList then
        "could not convert string to complex: " ++ v.written
      else "complex() arg is a malformed string"))
  | complex a b m => .ok (complex a b m)
  | _ => (partsFor "complex() first argument must be a string or a number" v).map Quantity.ofParts

/-- Whether a value is a text. -/
def isText (v : Value) : Bool :=
  match v.plain with
  | str _ => true
  | _ => false

/-- A complex number from two parts, either of which can be complex itself. -/
def toComplexOf (re im : Value) : Except Fault Value := do
  if re.isText then throw (.typeError "complex() can't take second arg if first is a string")
  if im.isText then throw (.typeError "complex() second arg can't be a string")
  if re.quantity?.isNone then
    discard (partsFor "complex() first argument must be a string or a number" re)
  if im.quantity?.isNone then
    discard (partsFor "complex() second argument must be a number" im)
  let a ← partsFor "" re
  let b ← partsFor "" im
  return complex (if isComplex im then a.re.sub b.im else a.re)
    (if isComplex re then b.re.add a.im else b.re) 0

/-- A byte from a number. -/
def toByte (v : Value) : Except Fault UInt8 := do
  let n ← v.requireIndex
  if 0 ≤ n ∧ n < 256 then return UInt8.ofNat n.toNat
  throw (.valueError "bytes must be in range(0, 256)")

/-- Bytes from the numbers that a value yields. -/
def byteItems (v : Value) : Except Fault (List UInt8) :=
  match v.items with
  | .ok vs => vs.mapM toByte
  | .error _ => .error (.typeError ("cannot convert '" ++ v.className ++ "' object to bytes"))

/-- Bytes from whatever yields numbers. -/
def gatherBytes (v : Value) : Except Fault (List UInt8) :=
  match v.plain with
  | bytes bs | bytearray _ bs => .ok bs
  | str _ => .error (.typeError ("cannot convert '" ++ v.className ++ "' object to bytes"))
  | _ => v.byteItems

/-- Bytes from a count, from bytes, or from numbers. -/
def toBytes (v : Value) : Except Fault Value :=
  if v.isText then .error (.typeError "string argument without an encoding")
  else match v.index? with
    | some n =>
      if n ≥ positionLimit ∨ n < -positionLimit then
        .error (.overflow "cannot fit 'int' into an index-sized integer")
      else if n < 0 then .error (.valueError "negative count")
      else if n > repetitionLimit then .error .memory
      else .ok (bytes (List.replicate n.toNat 0))
    | none => v.gatherBytes.map bytes

/-- The name of a value's class where an argument of another class is asked for. -/
def argumentName (v : Value) : String :=
  match v with
  | nothing => "None"
  | _ => v.className

/-- A text given for a parameter. -/
def requireChoice (function parameter : String) (v : Option Value) (otherwise : String) :
    Except Fault String :=
  match v with
  | none => .ok otherwise
  | some v => match v.plain with
    | str s => .ok s
    | _ => .error (.typeError (function ++ "() argument '" ++ parameter ++ "' must be str, not " ++
        v.argumentName))

/-- A text that names an encoding or a handler. -/
def requireName (function parameter : String) (v : Option Value) (otherwise : String) :
    Except Fault String := do
  let s ← requireChoice function parameter v otherwise
  if s.contains '\x00' then throw (.valueError "embedded null character")
  return s

/-- Bytes from a value that an encoding and a handler are given for, or are not. -/
def encodeSource (source encoding errors : Option Value) (e h : String) : Except Fault Value := do
  match source.map plain with
  | some (str s) =>
    if encoding.isNone then throw (.typeError "string argument without an encoding")
    return bytes (← ofCodec (Codec.encode e h s))
  | _ =>
    if encoding.isSome then throw (.typeError "encoding without a string argument")
    if errors.isSome then throw (.typeError "errors without a string argument")
    (source.map toBytes).getD (.ok (bytes []))

/-- Bytes from the arguments of a call. -/
def bytesFrom (a : Arguments) : Except Fault Value := do
  match ← a.optional "bytes" ["source", "encoding", "errors"] with
  | [source, encoding, errors] =>
    let e ← requireName "bytes" "encoding" encoding "utf-8"
    let h ← requireName "bytes" "errors" errors "strict"
    encodeSource source encoding errors e h
  | _ => return bytes []

/-- A value as a text, if it is short enough to be written. -/
def toText (v : Value) : Except Fault String :=
  if v.isWritable then .ok v.shown else .error Fault.tooManyDigits

/-- A text from the bytes of a value. -/
def decodeSource (v : Value) (e h : String) : Except Fault Value :=
  match v.plain with
  | bytes bs | bytearray _ bs => (ofCodec (Codec.decode e h bs)).map str
  | str _ => .error (.typeError "decoding str is not supported")
  | _ => .error (.typeError
    ("decoding to str: need a bytes-like object, " ++ v.className ++ " found"))

/-- A text from the arguments of a call. -/
def textFrom (a : Arguments) : Except Fault Value := do
  match ← a.optional "str" ["object", "encoding", "errors"] with
  | [source, encoding, errors] =>
    let e ← requireName "str" "encoding" encoding "utf-8"
    let h ← requireName "str" "errors" errors "strict"
    match source with
    | none => return str ""
    | some v =>
      if encoding.isNone && errors.isNone then return str (← v.toText)
      decodeSource v e h
  | _ => return str ""

/-- An integer from the arguments of a call. -/
def integerFrom (a : Arguments) : Except Fault Value := do
  match ← a.optional "int" ["", "base"] with
  | [none, none] => return int 0
  | [none, some _] => throw (.typeError "int() missing string argument")
  | [some v, none] => v.toInteger
  | [some v, some b] => v.toIntegerIn b
  | _ => return int 0

/-- A complex number from the arguments of a call. -/
def complexFrom (a : Arguments) : Except Fault Value := do
  match ← a.optional "complex" ["real", "imag"] with
  | [some v, none] => v.toComplex
  | [some v, some w] => toComplexOf v w
  | [none, some w] => toComplexOf (int 0) w
  | _ => return complex (Binary64.zero false) (Binary64.zero false) 0

/-- The one argument of a class that takes one or none. -/
def oneOrNone (a : Arguments) (function : String) : Except Fault (Option Value) := do
  let vs ← a.onlyPositional function
  Arguments.expected vs function 0 1
  return vs.head?

/-- A set that cannot change, from members. -/
def toFrozen (v : Value) : Except Fault Value := do
  let vs ← v.items
  vs.forM hashable
  return frozenset (distinct vs)

/-- A value of a class of the language that takes one argument or none. -/
def convertOne (a : Arguments) (function : String) (default : Value)
    (convert : Value → Except Fault Value) : Except Fault Value := do
  match ← oneOrNone a function with
  | none => return default
  | some v => convert v

/-- Calls a class of the language, if it is one of those that make values here. -/
def callBuiltin? (b : Builtin) (a : Arguments) : Option (Except Fault Value) :=
  match b with
  | .bool => some (convertOne a "bool" (bool false) fun v => v.truth.map bool)
  | .int => some (integerFrom a)
  | .float => some (convertOne a "float" (float (Binary64.zero false) 0) toReal)
  | .complex => some (complexFrom a)
  | .str => some (textFrom a)
  | .bytes => some (bytesFrom a)
  | .tuple => some (convertOne a "tuple" (tuple []) fun v => v.items.map tuple)
  | .frozenset => some (convertOne a "frozenset" (frozenset []) toFrozen)
  | _ => none

end Value

end Marginalia
