/-
The values annotations can hold, and the types they are recorded under.

Expressions compute over one dynamic type, `Value`.  Classes a host offers are
described by small records of data (`RecordClass`, `EnumClass`, `DerivedClass`,
`ObjectClass`) that a value carries along, so what a value is never depends on a
registry.

Most values are told apart by their content alone.  Those that have an identity
beside it (containers that can change, plain objects, and numbers that equal
nothing) carry a `Mark`, the number of the object in order of creation; mark
zero means that none has been given yet.
-/
import Marginalia.Decimal.Binary64

namespace Marginalia

/-- Plain constant data: contents of enumeration members and notes on types. -/
inductive Datum where
  | nothing
  | flag (b : Bool)
  | number (n : Int)
  | text (s : String)
  | items (ds : List Datum)
deriving Repr, Inhabited

/-- Which object a value is, in order of creation. -/
abbrev Mark := Nat

/-- A field of a record class. -/
structure RecordField where
  name : String
  /-- What the field holds when a record is made without it. -/
  default? : Option Datum := none
  /-- The field takes part in `==`. -/
  compared : Bool := true
deriving Repr

/-- A class of records with named fields. -/
structure RecordClass where
  module : String
  name : String
  fields : List RecordField
  /-- Fields cannot be assigned. -/
  frozen : Bool := true
  /-- Records of the class are compared field by field. -/
  equatable : Bool := true
deriving Repr

/-- What the members of an enumeration are besides members. -/
inductive EnumFlavour where
  | plain
  | integer
  | string
  | bits
deriving DecidableEq, Repr

/-- An enumeration; a name whose content occurred before is another name of that member. -/
structure EnumClass where
  module : String
  name : String
  flavour : EnumFlavour := .plain
  members : List (String × Datum)
deriving Repr

/-- The classes of the language itself. -/
inductive Builtin where
  | nothing | bool | int | float | complex | str | bytes | bytearray
  | tuple | list | set | frozenset | dict | ellipsis | slice
  | object | type | function | builtinMethod | methodDescriptor
  | computedAttribute | storedAttribute
deriving DecidableEq, Repr

/-- A class derived from a built-in one; with field names its items can be read by name. -/
structure DerivedClass where
  module : String
  name : String
  base : Builtin
  fieldNames : Option (List String) := none
deriving DecidableEq, Repr

/-- A class of objects that are equal to themselves only. -/
structure ObjectClass where
  module : String
  name : String
  /-- What asking for the truth value of an object is refused with, if it is. -/
  truthRefusal : Option String := none
  /-- `x < y` answers `x` itself instead of being unsupported. -/
  lessAnswersSelf : Bool := false
deriving DecidableEq, Repr

/-- A type as it is spelled: a class, or an alias, a distinct name or a note on one. -/
inductive TypeTerm where
  | builtin (b : Builtin)
  | record (c : RecordClass)
  | enumeration (c : EnumClass)
  | derived (c : DerivedClass)
  | object (c : ObjectClass)
  | named (module name : String)
  | aliased (name : String) (target : TypeTerm)
  | distinct (name : String) (supertype : TypeTerm)
  | annotated (base : TypeTerm) (notes : List Datum)
  /-- A class with parts written behind it, possibly some that cannot be keys. -/
  | generic (origin : TypeTerm) (text : String) (unhashable : Option String := none)
  | union (parts : List String)
  | function (name : String)
deriving Repr

/-- A value an expression can have. -/
inductive Value where
  | nothing
  | ellipsis
  | bool (b : Bool)
  | int (n : Int)
  | float (x : Binary64) (mark : Mark)
  | complex (re im : Binary64) (mark : Mark)
  | str (s : String)
  | bytes (bs : List UInt8)
  | bytearray (mark : Mark) (bs : List UInt8)
  | tuple (items : List Value)
  | list (mark : Mark) (items : List Value)
  | set (mark : Mark) (items : List Value)
  | frozenset (items : List Value)
  | dict (mark : Mark) (keys values : List Value)
  | slice (start stop step : Value)
  | member (c : EnumClass) (content : Datum)
  | record (c : RecordClass) (mark : Mark) (fields : List Value)
  | derived (c : DerivedClass) (base : Value)
  | object (c : ObjectClass) (mark : Mark)
  | type (t : TypeTerm)
  | function (name : String)
  | method (self : Value) (name : String)
  /-- An attribute read off a class instead of one of its objects. -/
  | slot (owner : TypeTerm) (name : String)
  | space (names : List String) (values : List Value)
deriving Repr

instance : Inhabited Value := ⟨.nothing⟩

namespace Datum

mutual

/-- The value a datum stands for. -/
def toValue : Datum → Value
  | nothing => .nothing
  | flag b => .bool b
  | number n => .int n
  | text s => .str s
  | items ds => .list 0 (toValues ds)

/-- The values of several data. -/
def toValues : List Datum → List Value
  | [] => []
  | d :: ds => toValue d :: toValues ds

end

/-- The number a datum counts as, if it counts as one. -/
def asNumber? : Datum → Option Int
  | flag b => some (if b then 1 else 0)
  | number n => some n
  | _ => none

mutual

/-- Equality of data: a flag equals the number it counts as. -/
def equals : Datum → Datum → Bool
  | nothing, nothing => true
  | text s, text t => s == t
  | items ds, items es => equalsAll ds es
  | flag b, d => d.asNumber? == some (if b then 1 else 0)
  | number n, d => d.asNumber? == some n
  | _, _ => false

/-- Equality of lists of data. -/
def equalsAll : List Datum → List Datum → Bool
  | [], [] => true
  | d :: ds, e :: es => equals d e && equalsAll ds es
  | _, _ => false

end

end Datum

namespace EnumClass

/-- Two descriptions of one class. -/
def isSame (c d : EnumClass) : Bool := c.module == d.module && c.name == d.name

/-- The content of the member with a name. -/
def content? (c : EnumClass) (name : String) : Option Datum :=
  (c.members.find? fun m => m.1 == name).map Prod.snd

/-- Each content once, under the first name it was given. -/
def canonical (c : EnumClass) : List (String × Datum) :=
  c.members.foldl
    (fun ms m => if ms.any fun k => k.2.equals m.2 then ms else ms ++ [m]) []

/-- The bits of a number that are members, by name, lowest first. -/
def bitNames (c : EnumClass) (n : Int) : List String :=
  c.canonical.filterMap fun m => match m.2 with
    | .number k => if k > 0 ∧ (n.toNat &&& k.toNat) = k.toNat then some m.1 else none
    | _ => none

/-- The name of the member with some content: the first that was given, or for a
combination of bits their names; none for no bits at all. -/
def nameOf? (c : EnumClass) (d : Datum) : Option String :=
  match c.members.find? fun m => m.2.equals d with
  | some m => some m.1
  | none => match d with
    | .number n => if n = 0 then none else some ("|".intercalate (c.bitNames n))
    | _ => none

end EnumClass

/-- The name of a built-in class. -/
def Builtin.name : Builtin → String
  | nothing => "NoneType"
  | bool => "bool"
  | int => "int"
  | float => "float"
  | complex => "complex"
  | str => "str"
  | bytes => "bytes"
  | bytearray => "bytearray"
  | tuple => "tuple"
  | list => "list"
  | set => "set"
  | frozenset => "frozenset"
  | dict => "dict"
  | ellipsis => "ellipsis"
  | slice => "slice"
  | object => "object"
  | type => "type"
  | function => "function"
  | builtinMethod => "builtin_function_or_method"
  | methodDescriptor => "method_descriptor"
  | computedAttribute => "getset_descriptor"
  | storedAttribute => "member_descriptor"

namespace TypeTerm

/-- The name of a type without its module. -/
def shortName : TypeTerm → String
  | builtin b => b.name
  | record c => c.name
  | enumeration c => c.name
  | derived c => c.name
  | object c => c.name
  | named _ n => n
  | aliased n _ => n
  | distinct n _ => n
  | annotated _ _ => "Annotated"
  | generic o _ _ => o.shortName
  | union ps => " | ".intercalate ps
  | function n => n

/-- The module of a class that is not built in. -/
def module? : TypeTerm → Option String
  | record c => some c.module
  | enumeration c => some c.module
  | derived c => some c.module
  | object c => some c.module
  | named m _ => some m
  | _ => none

/-- The name of a type in messages and reports: classes have their module before them. -/
def displayName (t : TypeTerm) : String :=
  match t.module? with
  | some m => m ++ "." ++ t.shortName
  | none => t.shortName

/-- The name of a type in messages about operands: some classes of the language keep
their module. -/
def operandName : TypeTerm → String
  | named "types" n => "types." ++ n
  | named "_collections" n => "_collections." ++ n
  | t => t.shortName

/-- Whether a type is a class, that is, can be called to make a value. -/
def isClass : TypeTerm → Bool
  | builtin _ | record _ | enumeration _ | derived _ | object _ | named _ _ => true
  | _ => false

/-- Equality of types: classes by name, aliases and distinct names by name and by what they name,
notes by content. -/
def equals : TypeTerm → TypeTerm → Bool
  | builtin a, builtin b => a == b
  | record c, record d => c.module == d.module && c.name == d.name
  | enumeration c, enumeration d => c.isSame d
  | derived c, derived d => c.module == d.module && c.name == d.name
  | object c, object d => c.module == d.module && c.name == d.name
  | named m n, named m' n' => m == m' && n == n'
  | aliased n t, aliased n' t' => n == n' && t.equals t'
  | distinct n t, distinct n' t' => n == n' && t.equals t'
  | annotated t ns, annotated t' ns' => t.equals t' && Datum.equalsAll ns ns'
  | generic _ s _, generic _ s' _ => s == s'
  | union ps, union qs => ps.all qs.contains && qs.all ps.contains
  | function n, function n' => n == n'
  | _, _ => false

/-- The type an alias or an annotated type names; a distinct name stays. -/
def dealias : TypeTerm → TypeTerm
  | aliased _ t => t.dealias
  | annotated t _ => t.dealias
  | t => t

/-- The class that values recorded under a type are instances of. -/
def runtimeClass : TypeTerm → TypeTerm
  | aliased _ t => t.runtimeClass
  | annotated t _ => t.runtimeClass
  | distinct _ t => t.runtimeClass
  | t => t

end TypeTerm

/-- The methods of classes themselves, as opposed to those of their objects. -/
def ownMethods : List String := ["from_bytes", "fromhex", "fromkeys", "maketrans", "mro"]

namespace Value

/-- The class of a value. -/
def typeOf : Value → TypeTerm
  | nothing => .builtin .nothing
  | ellipsis => .builtin .ellipsis
  | bool _ => .builtin .bool
  | int _ => .builtin .int
  | float _ _ => .builtin .float
  | complex _ _ _ => .builtin .complex
  | str _ => .builtin .str
  | bytes _ => .builtin .bytes
  | bytearray _ _ => .builtin .bytearray
  | tuple _ => .builtin .tuple
  | list _ _ => .builtin .list
  | set _ _ => .builtin .set
  | frozenset _ => .builtin .frozenset
  | dict _ _ _ => .builtin .dict
  | slice _ _ _ => .builtin .slice
  | member c _ => .enumeration c
  | record c _ _ => .record c
  | derived c _ => .derived c
  | object c _ => .object c
  | type (.enumeration _) => .named "enum" "EnumType"
  | type (.aliased _ _) => .named "typing" "TypeAliasType"
  | type (.distinct _ _) => .named "typing" "NewType"
  | type (.annotated _ _) => .named "typing" "_AnnotatedAlias"
  | type (.generic _ _ _) => .named "types" "GenericAlias"
  | type (.union _) => .named "types" "UnionType"
  | type (.function _) => .builtin .function
  | type _ => .builtin .type
  | function _ => .builtin .function
  | method (type _) n =>
    if ownMethods.contains n then .builtin .builtinMethod else .builtin .methodDescriptor
  | method _ _ => .builtin .builtinMethod
  | slot (.builtin .complex) _ => .builtin .storedAttribute
  | slot (.builtin _) _ => .builtin .computedAttribute
  | slot _ _ => .named "_collections" "_tuplegetter"
  | space _ _ => .named "types" "SimpleNamespace"

/-- The name of a value's class without its module. -/
def typeName (v : Value) : String := v.typeOf.shortName

/-- The name of a value's class as messages about operands spell it. -/
def className (v : Value) : String := v.typeOf.operandName

end Value

end Marginalia
