/-
Attributes and methods of values.

`readAttribute` reads an attribute by name: fields, members, parts of numbers, or a
method bound to the value.  `callMethod?` carries out the methods that are written out here.
-/
import Marginalia.Text.Case
import Marginalia.Text.Search
import Marginalia.Value.Convert

namespace Marginalia

/-- The names of the methods of built-in classes. -/
def methodNames : Builtin → List String
  | .str => ["capitalize", "casefold", "center", "count", "encode", "endswith", "expandtabs",
    "find", "format", "format_map", "index", "isalnum", "isalpha", "isascii", "isdecimal",
    "isdigit", "isidentifier", "islower", "isnumeric", "isprintable", "isspace", "istitle",
    "isupper", "join", "ljust", "lower", "lstrip", "maketrans", "partition", "removeprefix",
    "removesuffix", "replace", "rfind", "rindex", "rjust", "rpartition", "rsplit", "rstrip",
    "split", "splitlines", "startswith", "strip", "swapcase", "title", "translate", "upper",
    "zfill"]
  | .bytes => ["capitalize", "center", "count", "decode", "endswith", "expandtabs", "find",
    "fromhex", "hex", "index", "isalnum", "isalpha", "isascii", "isdigit", "islower", "isspace",
    "istitle", "isupper", "join", "ljust", "lower", "lstrip", "maketrans", "partition",
    "removeprefix", "removesuffix", "replace", "rfind", "rindex", "rjust", "rpartition", "rsplit",
    "rstrip", "split", "splitlines", "startswith", "strip", "swapcase", "title", "translate",
    "upper", "zfill"]
  | .bytearray => ["append", "capitalize", "center", "clear", "copy", "count", "decode", "endswith",
    "expandtabs", "extend", "find", "fromhex", "hex", "index", "insert", "isalnum", "isalpha",
    "isascii", "isdigit", "islower", "isspace", "istitle", "isupper", "join", "ljust", "lower",
    "lstrip", "maketrans", "partition", "pop", "remove", "removeprefix", "removesuffix", "replace",
    "reverse", "rfind", "rindex", "rjust", "rpartition", "rsplit", "rstrip", "split", "splitlines",
    "startswith", "strip", "swapcase", "title", "translate", "upper", "zfill"]
  | .tuple => ["count", "index"]
  | .list => ["append", "clear", "copy", "count", "extend", "index", "insert", "pop", "remove",
    "reverse", "sort"]
  | .dict => ["clear", "copy", "fromkeys", "get", "items", "keys", "pop", "popitem", "setdefault",
    "update", "values"]
  | .set => ["add", "clear", "copy", "difference", "difference_update", "discard", "intersection",
    "intersection_update", "isdisjoint", "issubset", "issuperset", "pop", "remove",
    "symmetric_difference", "symmetric_difference_update", "union", "update"]
  | .frozenset => ["copy", "difference", "intersection", "isdisjoint", "issubset", "issuperset",
    "symmetric_difference", "union"]
  | .int | .bool => ["as_integer_ratio", "bit_count", "bit_length", "conjugate", "from_bytes",
    "is_integer", "to_bytes"]
  | .float => ["as_integer_ratio", "conjugate", "fromhex", "hex", "is_integer"]
  | .complex => ["conjugate"]
  | _ => []

namespace Value

/-- The built-in class behind a value, if there is one. -/
def builtinClass? (v : Value) : Option Builtin :=
  match v.plain.typeOf with
  | .builtin b => some b
  | _ => none

/-- The real part of a real number: the number itself, as the object it is. -/
def realPart (v : Value) (x : Binary64) : Value :=
  match v.plain with
  | float y m => float y m
  | _ => float x 0

/-- The parts of numbers that are read as attributes. -/
def numberPart? (v : Value) (name : String) : Option Value :=
  match v.quantity?, name with
  | some (.int n), "real" | some (.int n), "numerator" => some (int n)
  | some (.int _), "imag" => some (int 0)
  | some (.int _), "denominator" => some (int 1)
  | some (.real x), "real" => some (v.realPart x)
  | some (.real _), "imag" => some (float (Binary64.zero false) 0)
  | some (.complex a _), "real" => some (float a 0)
  | some (.complex _ b), "imag" => some (float b 0)
  | _, _ => none

/-- The value of a field by its name. -/
def fieldNamed (name : String) : List String → List Value → Option Value
  | n :: ns, v :: vs => if n == name then some v else fieldNamed name ns vs
  | _, _ => none

/-- The attributes of members: their name, their content, and other members. -/
def memberPart? (c : EnumClass) (d : Datum) (name : String) : Option Value :=
  match name with
  | "name" => some (match c.nameOf? d with
    | some n => str n
    | none => nothing)
  | "value" => some d.toValue
  | n => (c.content? n).map (member c)

/-- The class of the language that a class takes its methods from, if there is one. -/
def rootClass? : TypeTerm → Option Builtin
  | .builtin .bool => some .int
  | .builtin b => some b
  | .generic t _ _ => rootClass? t
  | .derived c => some c.base
  | .enumeration c =>
    match c.flavour with
    | .integer => some .int
    | .string => some .str
    | _ => none
  | _ => none

/-- The attributes of numbers that are no methods. -/
def numberParts : Builtin → List String
  | .int => ["real", "imag", "numerator", "denominator"]
  | .float | .complex => ["real", "imag"]
  | _ => []

/-- What a class has of the methods and attributes of its objects. -/
def inheritedPart? (t : TypeTerm) (name : String) : Option Value :=
  (rootClass? t).bind fun b =>
    if (methodNames b).contains name then
      some (method (type (if ownMethods.contains name then t else .builtin b)) name)
    else if (numberParts b).contains name then some (slot (.builtin b) name)
    else none

/-- The attribute of a class, if it has one of the name. -/
def classPart? (t : TypeTerm) (name : String) : Option Value :=
  match t with
  | .enumeration c => ((c.content? name).map (member c)).or (inheritedPart? t name)
  | .record c => (c.fields.find? fun f => f.name == name).bind fun f => f.default?.map Datum.toValue
  | .derived c =>
    if (c.fieldNames.getD []).contains name then some (slot t name) else inheritedPart? t name
  | .generic t _ _ => classPart? t name
  | _ => inheritedPart? t name

/-- An attribute of a value before its methods are looked at. -/
def ownPart? (v : Value) (name : String) : Option Value :=
  match v with
  | member c d => memberPart? c d name
  | record c _ vs => fieldNamed name (c.fields.map (·.name)) vs
  | derived c (tuple vs) => c.fieldNames.bind fun ns => fieldNamed name ns vs
  | space ns vs => fieldNamed name ns vs
  | type t => classPart? t name
  | _ => none

/-- Reads a method off the built-in class behind a value. -/
def readMethod (v : Value) (name : String) : Except Fault Value :=
  match v.builtinClass? with
  | some b =>
    if (methodNames b).contains name then .ok (method v name)
    else .error (.noAttribute v.className name)
  | none => .error (.noAttribute v.className name)

/-- The method that every class has. -/
def classMethod : String := "mro"

/-- Reads an attribute. -/
def readAttribute (v : Value) (name : String) : Except Fault Value :=
  match (v.ownPart? name).or (v.numberPart? name) with
  | some w => .ok w
  | none =>
    match v with
    | type (.enumeration _) => .error (.noMember name)
    | type (.union _) => .error (.noAttribute v.className name)
    | type t =>
      if t.isClass && name == classMethod then .ok (method v name)
      else .error (.noClassAttribute t.shortName name)
    | _ => v.readMethod name

/-- A method as refusals name it: with the class of the value it is bound to, or of which
it is a method. -/
structure Callee where
  owner : String
  name : String
  isBound : Bool

/-- The name with the class. -/
def Callee.full (c : Callee) : String := c.owner ++ "." ++ c.name

/-- The name of a method that is told without the class when it is bound. -/
def Callee.short (c : Callee) : String := if c.isBound then c.name else c.full

/-- A bound given to a search, brought into a text of some length. -/
def searchBound (v : Option Value) (otherwise length : Nat) : Except Fault Nat := do
  match ← slicePart (v.getD nothing) with
  | none => return otherwise
  | some n => return (if n < 0 then (if n + length < 0 then 0 else n + length) else n).toNat

/-- The bounds given to a search: where it starts, and where it ends at the latest. -/
def searchBounds (vs : List Value) (length : Nat) : Except Fault (Nat × Nat) := do
  let start ← searchBound vs[1]? 0 length
  let stop ← searchBound vs[2]? length length
  return (start, min stop length)

/-- A text where one is asked for. -/
def requireText (v : Value) (otherwise : String) : Except Fault (List Char) :=
  match v.plain with
  | str s => .ok s.toList
  | _ => .error (.typeError (otherwise ++ v.className))

/-- A text where an argument of a function has to be one. -/
def requireArgument (function : String) (place : Nat) (v : Value) :
    Except Fault (List Char) :=
  match v.plain with
  | str s => .ok s.toList
  | _ => .error (.typeError (function ++ "() argument " ++ toString place ++ " must be str, not " ++
      v.argumentName))

/-- Texts are made of lists of characters. -/
def ofChars (cs : List Char) : Value := str (String.ofList cs)

/-- Finds a part between bounds. -/
def findIn (c : Callee) (cs : List Char) (a : Arguments) :
    Except Fault (Option Nat) := do
  let vs ← a.onlyPositional c.short
  Arguments.takes vs c.name 1 3
  let (start, stop) ← searchBounds vs cs.length
  let part ← requireText (vs[0]?.getD nothing) "must be str, not "
  if start > stop then return none
  return (Search.find? part ((cs.take stop).drop start)).map (· + start)

/-- Counts a part between bounds. -/
def countIn (c : Callee) (cs : List Char) (a : Arguments) : Except Fault Value := do
  let vs ← a.onlyPositional c.short
  Arguments.takes vs "count" 1 3
  let (start, stop) ← searchBounds vs cs.length
  let part ← requireText (vs[0]?.getD nothing) "must be str, not "
  if start > stop then return int 0
  if part.isEmpty then return int (stop - start + 1)
  return int (Search.count part ((cs.take stop).drop start))

/-- Whether a text starts with one of several, looked at in order. -/
def startsWithAny (here : List Char → Bool) : List Value → Except Fault Bool
  | [] => .ok false
  | v :: vs => do
    let part ← requireText v "tuple for startswith must only contain str, not "
    if here part then return true
    startsWithAny here vs

/-- Whether a text starts with another, between bounds. -/
def startsWith (c : Callee) (cs : List Char) (a : Arguments) : Except Fault Value := do
  let vs ← a.onlyPositional c.short
  Arguments.takes vs "startswith" 1 3
  let (start, stop) ← searchBounds vs cs.length
  let here (part : List Char) : Bool :=
    start + part.length ≤ stop && part.isPrefixOf (cs.drop start)
  match (vs[0]?.getD nothing).plain with
  | tuple parts => return bool (← startsWithAny here parts)
  | _ =>
    let part ← requireText (vs[0]?.getD nothing)
      "startswith first arg must be str or a tuple of str, not "
    return bool (here part)

/-- A count that a negative number leaves open. -/
def limitOf (v : Option Value) : Except Fault (Option Nat) := do
  match v with
  | none => return none
  | some v =>
    let n ← v.requireIndex
    if n ≥ positionLimit ∨ n < -positionLimit then
      throw (.overflow "Python int too large to convert to C ssize_t")
    return if n < 0 then none else some n.toNat

/-- Splits a text. -/
def splitText (cs : List Char) (a : Arguments) : Except Fault Value := do
  match ← a.optional "split" ["sep", "maxsplit"] with
  | [sep, limit] =>
    let limit ← limitOf limit
    match (sep.getD nothing).plain with
    | nothing => return list 0 ((Search.words limit cs).map ofChars)
    | str s =>
      if s.isEmpty then throw (.valueError "empty separator")
      return list 0 ((Search.split s.toList limit cs).map ofChars)
    | _ => throw (.typeError ("must be str or None, not " ++ (sep.getD nothing).className))
  | _ => return list 0 []

/-- The text to be joined at a place. -/
def joinPart (i : Nat) (v : Value) : Except Fault (List Char) :=
  match v.plain with
  | str s => .ok s.toList
  | _ => .error (.typeError ("sequence item " ++ toString i ++
      ": expected str instance, " ++ v.className ++ " found"))

/-- The texts to be joined; the first that is none is refused with its place. -/
def joinParts (i : Nat) : List Value → Except Fault (List (List Char))
  | [] => .ok []
  | v :: vs => do
    let part ← joinPart i v
    return part :: (← joinParts (i + 1) vs)

/-- Joins texts. -/
def joinTexts (c : Callee) (cs : List Char) (a : Arguments) : Except Fault Value := do
  let v ← a.exactlyOne c.full
  match v.items with
  | .error _ => throw (.typeError "can only join an iterable")
  | .ok vs => return ofChars (cs.intercalate (← joinParts 0 vs))

/-- Replaces parts of a text. -/
def replaceText (c : Callee) (cs : List Char) (a : Arguments) : Except Fault Value := do
  let vs ← a.onlyPositional c.full
  Arguments.expected vs "replace" 2 3
  let old ← requireArgument "replace" 1 (vs[0]?.getD nothing)
  let new ← requireArgument "replace" 2 (vs[1]?.getD nothing)
  return ofChars (Search.replace old new (← limitOf vs[2]?) cs)

/-- Drops characters at the ends of a text. -/
def stripText (c : Callee) (cs : List Char) (a : Arguments) : Except Fault Value := do
  let vs ← a.onlyPositional c.full
  Arguments.expected vs "strip" 0 1
  match (vs[0]?.getD nothing).plain with
  | nothing => return ofChars (Search.strip isBlank cs)
  | str s => return ofChars (Search.strip (fun c => s.toList.contains c) cs)
  | _ => throw (.typeError "strip arg must be None or str")

/-- Takes a text apart at the first occurrence of another. -/
def partitionText (c : Callee) (self : Value) (cs : List Char) (a : Arguments) :
    Except Fault Value := do
  let sep ← requireText (← a.exactlyOne c.full) "must be str, not "
  if sep.isEmpty then throw (.valueError "empty separator")
  match Search.cut? sep cs with
  | some (x, y) => return tuple [ofChars x, ofChars sep, ofChars y]
  | none => return tuple [self, str "", str ""]

/-- The encoding and the handler of a call. -/
def codecNames (function : String) (a : Arguments) : Except Fault (String × String) := do
  match ← a.optional function ["encoding", "errors"] with
  | [e, h] => return (← requireName function "encoding" e "utf-8",
      ← requireName function "errors" h "strict")
  | _ => return ("utf-8", "strict")

/-- The position of a part of a text, where there has to be one. -/
def indexIn (c : Callee) (cs : List Char) (a : Arguments) : Except Fault Value := do
  match ← findIn c cs a with
  | some i => return int i
  | none => throw (.valueError "substring not found")

/-- The bytes of a text. -/
def encodeText (s : String) (a : Arguments) : Except Fault Value := do
  let (e, h) ← codecNames "encode" a
  return bytes (← ofCodec (Codec.encode e h s))

/-- Carries out a method of a text, which `self` is or is derived from. -/
def callTextMethod? (c : Callee) (self : Value) (s : String) (a : Arguments) :
    Option (Except Fault Value) :=
  let cs := s.toList
  match c.name with
  | "upper" => some ((a.none c.full).map fun _ => str (Case.upper s))
  | "lower" => some ((a.none c.full).map fun _ => str (Case.lower s))
  | "strip" => some (stripText c cs a)
  | "split" => some (splitText cs a)
  | "join" => some (joinTexts c cs a)
  | "replace" => some (replaceText c cs a)
  | "startswith" => some (startsWith c cs a)
  | "find" => some ((findIn c cs a).map fun i => int ((i.map Nat.cast).getD (-1)))
  | "index" => some (indexIn c cs a)
  | "count" => some (countIn c cs a)
  | "partition" => some (partitionText c self cs a)
  | "encode" => some (encodeText s a)
  | _ => none

/-- Groups of so many bytes with a separator between, counted from the end; from the
start for a negative number. -/
private def hexGroups (sep : List Char) (size : Int) (bs : List UInt8) : List Char :=
  let text (b : UInt8) : List Char := hexText 2 b.toNat
  let n := size.natAbs
  if n = 0 then bs.flatMap text
  else
    let first := if size > 0 then bs.length % n else 0
    let at_ (i : Nat) : List Char :=
      if i ≠ 0 ∧ (i - first) % n = 0 ∧ (i ≥ first) then sep else []
    (bs.zipIdx).flatMap fun (b, i) => at_ i ++ text b

/-- The size of groups, one unless it is given. -/
def groupSize (size : Option Value) : Except Fault Int := do
  match size with
  | none => return 1
  | some v =>
    let n ← v.requireIndex
    if n ≥ Nat.pow 2 31 ∨ n < -Nat.pow 2 31 then
      throw (.overflow "Python int too large to convert to C int")
    return n

/-- Why the items of a value make no separator: there are too many or too few of them, or they
are no characters. -/
def itemsFault (noLength : Fault) : Except Fault (List Value) → Fault
  | .error _ => noLength
  | .ok vs =>
    if vs.length ≠ 1 then .valueError "sep must be length 1."
    else .typeError "sep must be str or bytes."

/-- Why a value that is neither a text nor bytes makes no separator. -/
def separatorFault (sep : Value) : Fault :=
  let noLength : Fault := .typeError ("object of type '" ++ sep.className ++ "' has no len()")
  match sep.plain with
  | type (.generic ..) => noLength
  | v => itemsFault noLength v.items

/-- The characters of a separator. -/
def separator (sep : Value) : Except Fault (List Char) :=
  match sep.plain with
  | str s => .ok s.toList
  | bytes bs | bytearray _ bs => .ok (bs.map fun b => Char.ofNat b.toNat)
  | _ => .error sep.separatorFault

/-- The text of bytes in base sixteen. -/
def hexOf (bs : List UInt8) (a : Arguments) : Except Fault Value := do
  match ← a.optional "hex" ["sep", "bytes_per_sep"] with
  | [none, size] => do
    discard (groupSize size)
    return ofChars (bs.flatMap fun b => hexText 2 b.toNat)
  | [some sep, size] => do
    let size ← groupSize size
    let cs ← sep.separator
    if cs.length ≠ 1 then throw (.valueError "sep must be length 1.")
    if cs.any fun c => c.val ≥ 128 then throw (.valueError "sep must be ASCII.")
    return ofChars (hexGroups cs size bs)
  | _ => return str ""

/-- The text of bytes. -/
def decodeBytes (bs : List UInt8) (a : Arguments) : Except Fault Value := do
  let (e, h) ← codecNames "decode" a
  return str (← ofCodec (Codec.decode e h bs))

/-- Carries out a method of bytes. -/
def callBytesMethod? (bs : List UInt8) (name : String) (a : Arguments) :
    Option (Except Fault Value) :=
  match name with
  | "hex" => some (hexOf bs a)
  | "decode" => some (decodeBytes bs a)
  | _ => none

/-- A position given to a search among items. -/
def itemBound (v : Option Value) (otherwise length : Nat) : Except Fault Nat := do
  match v with
  | none => return otherwise
  | some v => match v.index? with
    | some n => return (if n < 0 then (if n + length < 0 then 0 else n + length) else n).toNat
    | none => throw (.typeError "slice indices must be integers or have an __index__ method")

/-- How often a value is among items. -/
def countItems (c : Callee) (vs : List Value) (a : Arguments) : Except Fault Value := do
  let v ← a.exactlyOne c.full
  return int ((vs.filter fun w => matching w v).length)

/-- The position of a value among items, between bounds. -/
def indexItem (c : Callee) (vs : List Value) (a : Arguments) : Except Fault Value := do
  let given ← a.onlyPositional c.full
  Arguments.expected given "index" 1 3
  let v := given[0]?.getD nothing
  let start ← itemBound given[1]? 0 vs.length
  let stop ← itemBound given[2]? vs.length vs.length
  match ((vs.take stop).drop start).findIdx? fun w => matching w v with
  | some i => return int ((i + start : Nat) : Int)
  | none => throw (.valueError "tuple.index(x): x not in tuple")

/-- Carries out a method of a tuple. -/
def callTupleMethod? (c : Callee) (vs : List Value) (a : Arguments) :
    Option (Except Fault Value) :=
  match c.name with
  | "count" => some (countItems c vs a)
  | "index" => some (indexItem c vs a)
  | _ => none

/-- The value under a key of a mapping, or what is given for it. -/
def getEntry (c : Callee) (ks vs : List Value) (a : Arguments) : Except Fault Value := do
  let given ← a.onlyPositional c.full
  Arguments.expected given "get" 1 2
  let k := given[0]?.getD nothing
  k.hashable
  return ((lookupKey k ks vs).or given[1]?).getD nothing

/-- Carries out a method of a mapping. -/
def callMappingMethod? (c : Callee) (ks vs : List Value) (a : Arguments) :
    Option (Except Fault Value) :=
  match c.name with
  | "get" => some (getEntry c ks vs a)
  | _ => none

/-- An integer from its bytes. -/
def integerFromBytes (a : Arguments) : Except Fault Int := do
  match ← a.fill "from_bytes" ["bytes", "byteorder", "signed"] 1 2 with
  | [some source, order, signed] =>
    let order ← requireChoice "from_bytes" "byteorder" order "big"
    let signed ← (signed.getD (bool false)).truth
    if order != "big" && order != "little" then
      throw (.valueError "byteorder must be either 'little' or 'big'")
    let bs ← match source.index? with
      | some _ => throw (.typeError ("cannot convert '" ++ source.className ++ "' object to bytes"))
      | none => source.gatherBytes
    let bs := if order == "little" then bs.reverse else bs
    let n : Int := bs.foldl (fun n b => n * 256 + b.toNat) 0
    let top := bs.head?.any fun b => b.toNat ≥ 128
    return if signed && top then n - Nat.pow 256 bs.length else n
  | _ => return 0

/-- Carries out a method of a number. -/
def callNumberMethod? (c : Callee) (q : Quantity) (v : Value) (a : Arguments) :
    Option (Except Fault Value) :=
  match c.name, q with
  | "bit_length", .int n => some ((a.none c.full).map fun _ => int (IntBits.length n))
  | "conjugate", .int n => some ((a.none c.full).map fun _ => int n)
  | "conjugate", .real _ => some ((a.none c.full).map fun _ => v)
  | "conjugate", .complex x y => some ((a.none c.full).map fun _ => complex x y.neg 0)
  | _, _ => none

/-- Carries out a method of a value that does not change it, if it is one of those that are
written out here. -/
def callMethod? (self : Value) (c : Callee) (a : Arguments) : Option (Except Fault Value) :=
  match self.plain with
  | str s => callTextMethod? c self s a
  | bytes bs => callBytesMethod? bs c.name a
  | tuple vs => callTupleMethod? c vs a
  | dict _ ks vs => callMappingMethod? c ks vs a
  | v => v.quantity?.bind fun q => callNumberMethod? c q v a

/-- What a method is carried out on, as refusals name it, and with what: a method read off a class
is carried out on its first argument. -/
def receiver (self : Value) (name : String) (a : Arguments) :
    Except Fault (Value × Callee × Arguments) :=
  match self with
  | type t =>
    match a.positional with
    | [] => .error (.typeError ("unbound method " ++ t.shortName ++ "." ++ name ++
        "() needs an argument"))
    | v :: vs =>
      if ((rootClass? v.typeOf).map TypeTerm.builtin).any t.equals then
        .ok (v, ⟨t.shortName, name, false⟩, { a with positional := vs })
      else .error (.typeError ("descriptor '" ++ name ++ "' for '" ++ t.shortName ++
          "' objects doesn't apply to a '" ++ v.className ++ "' object"))
  | v => .ok (v, ⟨v.className, name, true⟩, a)

end Value

end Marginalia
