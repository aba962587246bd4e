/-
Values written out.

`Value.written` is the form that can be read back where there is one;
`Value.shown` is the same except for texts, which are shown bare, and for
enumeration members.  Integers of more than 4300 digits are too long to write
(`Value.isWritable`).
-/
import Marginalia.Decimal.Shortest
import Marginalia.Text.Quoted
import Marginalia.Value.Basic

namespace Marginalia

/-- The number of decimal digits an integer may have when it is written or read. -/
def digitLimit : Nat := 4300

/-- Whether an integer has few enough digits to be written. -/
def intIsWritable (n : Int) : Bool := n.natAbs < Nat.pow 10 digitLimit

/-- A real number in full: with `.0` when it is integral. -/
def realText (x : Binary64) : String := Decimal.text ⟨-4, 16, true⟩ x

/-- A part of a complex number: without `.0`. -/
def partText (x : Binary64) : String := Decimal.text ⟨-4, 16, false⟩ x

/-- A complex number; a real part of positive zero is left out. -/
def complexText (re im : Binary64) : String :=
  if re.isZero && !re.negative then partText im ++ "j"
  else
    let sign := if im.negative && !im.isNaN then "" else "+"
    "(" ++ partText re ++ sign ++ partText im ++ "j)"

namespace TypeTerm

/-- A type written out. -/
def written : TypeTerm → String
  | enumeration c => (if c.flavour == .bits then "<flag '" else "<enum '") ++ c.name ++ "'>"
  | aliased n _ => n
  | distinct n _ => n
  | annotated _ _ => "typing.Annotated"
  | generic _ s _ => s
  | union ps => " | ".intercalate ps
  | function n => "<function " ++ n ++ ">"
  | t => "<class '" ++ t.displayName ++ "'>"

end TypeTerm

namespace Datum

/-- A datum written out, of the kinds that members have. -/
def written : Datum → String
  | nothing => "None"
  | flag b => if b then "True" else "False"
  | number n => toString n
  | text s => quoted s
  | items ds => "[" ++ ", ".intercalate (writtenAll ds) ++ "]"
where
  /-- Several data written out. -/
  writtenAll : List Datum → List String
    | [] => []
    | d :: ds => written d :: writtenAll ds

end Datum

/-- A member written out: class, name and content. -/
def memberWritten (c : EnumClass) (d : Datum) : String :=
  let name := match c.nameOf? d with
    | some n => "." ++ n
    | none => ""
  "<" ++ c.name ++ name ++ ": " ++ d.written ++ ">"

/-- A member shown: its number for an integer enumeration, else class and name. -/
def memberShown (c : EnumClass) (d : Datum) : String :=
  match c.flavour with
  | .integer => d.written
  | _ => match c.nameOf? d with
    | some n => c.name ++ "." ++ n
    | none => c.name ++ "(" ++ d.written ++ ")"

/-- Items of a tuple: a single one keeps its comma. -/
def tupleText (items : List String) : String :=
  match items with
  | [s] => "(" ++ s ++ ",)"
  | ss => "(" ++ ", ".intercalate ss ++ ")"

/-- How items of a class are read by name, written out. -/
def slotText (names : Option (List String)) (name : String) : String :=
  let i := toString ((names.getD []).idxOf name)
  "_tuplegetter(" ++ i ++ ", 'Alias for field number " ++ i ++ "')"

namespace Value

mutual

/-- A value written out. -/
def written : Value → String
  | nothing => "None"
  | ellipsis => "Ellipsis"
  | bool b => if b then "True" else "False"
  | int n => toString n
  | float x _ => realText x
  | complex a b _ => complexText a b
  | str s => quoted s
  | bytes bs => quotedBytes bs
  | bytearray _ bs => "bytearray(" ++ quotedBytes bs ++ ")"
  | tuple vs => tupleText (writtenAll vs)
  | list _ vs => "[" ++ ", ".intercalate (writtenAll vs) ++ "]"
  | set _ [] => "set()"
  | set _ (v :: vs) => "\x7b" ++ ", ".intercalate (written v :: writtenAll vs) ++ "\x7d"
  | frozenset [] => "frozenset()"
  | frozenset (v :: vs) =>
    "frozenset(\x7b" ++ ", ".intercalate (written v :: writtenAll vs) ++ "\x7d)"
  | dict _ ks vs => "\x7b" ++ ", ".intercalate (writtenEntries ks (writtenAll vs)) ++ "\x7d"
  | slice a b c => "slice(" ++ written a ++ ", " ++ written b ++ ", " ++ written c ++ ")"
  | member c d => memberWritten c d
  | record c _ vs => c.name ++ "(" ++ ", ".intercalate (writtenFields (c.fields.map (·.name)) vs) ++ ")"
  | derived c (tuple vs) =>
    match c.fieldNames with
    | some ns => c.name ++ "(" ++ ", ".intercalate (writtenFields ns vs) ++ ")"
    | none => tupleText (writtenAll vs)
  | derived c (frozenset []) => c.name ++ "()"
  | derived c (frozenset (v :: vs)) =>
    c.name ++ "(\x7b" ++ ", ".intercalate (written v :: writtenAll vs) ++ "\x7d)"
  | derived _ v => written v
  | object c _ => "<" ++ (TypeTerm.object c).displayName ++ " object>"
  | type t => t.written
  | function n => "<function " ++ n ++ ">"
  | method (type t) n =>
    if ownMethods.contains n then "<built-in method " ++ n ++ " of type object>"
    else "<method '" ++ n ++ "' of '" ++ t.shortName ++ "' objects>"
  | method v n => "<built-in method " ++ n ++ " of " ++ v.typeName ++ " object>"
  | slot (.derived c) n => slotText c.fieldNames n
  | slot t n =>
    (if t.equals (.builtin .complex) then "<member '" else "<attribute '") ++ n ++ "' of '" ++
      t.shortName ++ "' objects>"
  | space ns vs => "namespace(" ++ ", ".intercalate (writtenFields ns vs) ++ ")"

/-- Several values written out. -/
def writtenAll : List Value → List String
  | [] => []
  | v :: vs => written v :: writtenAll vs

/-- Keys written out before texts of their values. -/
def writtenEntries : List Value → List String → List String
  | k :: ks, s :: ss => (written k ++ ": " ++ s) :: writtenEntries ks ss
  | _, _ => []

/-- Values written out behind their names. -/
def writtenFields : List String → List Value → List String
  | n :: ns, v :: vs => (n ++ "=" ++ written v) :: writtenFields ns vs
  | _, _ => []

end

/-- A value shown: as it is written, but texts bare. -/
def shown : Value → String
  | str s => s
  | derived _ (str s) => s
  | member c d => memberShown c d
  | v => written v

mutual

/-- Whether every integer in a value is short enough to be written. -/
def isWritable : Value → Bool
  | int n => intIsWritable n
  | tuple vs | list _ vs | set _ vs | frozenset vs | record _ _ vs | space _ vs => allWritable vs
  | dict _ ks vs => allWritable ks && allWritable vs
  | slice a b c => isWritable a && isWritable b && isWritable c
  | derived _ v => isWritable v
  | _ => true

/-- The same for several values. -/
def allWritable : List Value → Bool
  | [] => true
  | v :: vs => isWritable v && allWritable vs

end

end Value

end Marginalia
