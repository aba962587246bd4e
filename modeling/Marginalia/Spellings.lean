/-
How attribute groups are spelled in expressions.

A group is a call of the marker; its arguments are the items, and a call of the
attribute constructor among them is a plain attribute.  `Spellings` says which names
are used for these.  `Spellings.groupsIn` finds every group in an expression, and
`Spellings.splitType` tells the groups of a declared type that belong to what is
declared from those that are written on a type.
-/
import Marginalia.Dotted
import Marginalia.Placement
import Marginalia.Source.Written

namespace Marginalia

/-- The names with a meaning for annotations. -/
structure Spellings where
  /-- What is called to make a group. -/
  marker : String := "meta"
  /-- What is called to make a plain attribute. -/
  plainItem : String := "attr"
  /-- The name whose assignment annotates the module. -/
  moduleMarker : String := "__meta__"
  /-- The types that carry notes on a type. -/
  annotated : List String := ["Annotated"]
  /-- The bases of classes that hold enumerators. -/
  enumBases : List String := ["Enum", "IntEnum", "StrEnum", "Flag", "IntFlag"]

/-- The place of an expression in a file. -/
def Expr.location (e : Expr) (file : String) : Location := e.place.inFile file

/-- An expression in writing, unless it holds a constant that cannot be written. -/
def Expr.write (e : Expr) : Except Fault String :=
  match e.writingFault? with
  | some f => .error f
  | none => .ok e.written

/-- A constant as it is shown, unless it has too many digits. -/
def Literal.show (l : Literal) : Except Fault String :=
  if l.value.isWritable then .ok l.value.shown else .error Fault.tooManyDigits

namespace Spellings

/-- The name of a plain attribute: its first argument if that is a constant, else the
whole call. -/
def attributeName : Expr → Except Fault String
  | .call _ _ (.literal _ l :: _) _ => l.show
  | e => e.write

/-- An item of a group. -/
def item (s : Spellings) (file : String) (e : Expr) : Except Fault (Item Expr) := do
  if e.isCallTo s.plainItem then
    return ⟨e.location file, .attribute (← attributeName e)⟩
  return ⟨e.location file, .value e⟩

/-- The vendor's name that an argument by name gives to a group, if it is the argument for
that, in place of the one given before. -/
def vendor (before : Option String) : Keyword → Except Fault (Option String)
  | .given "using" (.literal _ (.text t _)) => .ok (some t)
  | .given "using" (.literal _ .nothing) => .ok before
  | .given "using" e => do return some (← e.write)
  | _ => .ok before

/-- The group an expression makes, if it is a call of the marker. -/
def group? (s : Spellings) (file : String) (e : Expr) : Except Fault (Option (Group Expr)) := do
  match e with
  | .call p f es ks =>
    if f.lastName? == some s.marker then
      let items ← es.mapM (s.item file)
      let vendor ← ks.foldlM vendor none
      return some ⟨items, p.inFile file, vendor⟩
    return none
  | _ => return none

/-- The groups that some expressions make. -/
def groups (s : Spellings) (file : String) (es : List Expr) : Except Fault (List (Group Expr)) := do
  return (← es.mapM (s.group? file)).filterMap id

/-- Every group in some expressions, those of one expression from the outside in. -/
def groupsIn (s : Spellings) (file : String) (es : List Expr) : Except Fault (List (Group Expr)) :=
  s.groups file (es.flatMap Expr.walk)

/-- Whether an expression makes a group. -/
def isGroup (s : Spellings) (e : Expr) : Bool := e.isCallTo s.marker

/-- Whether a group stands anywhere in an expression. -/
def marks (s : Spellings) (e : Expr) : Bool := e.walk.any s.isGroup

/-- The parts of an expression that can annotate the module: it is one, or a tuple of them. -/
def moduleParts : Expr → List Expr
  | .tuple _ es => es
  | e => [e]

/-- The groups on what is declared with a type, and those on the types in it.  Only a
group right behind the outermost annotated type belongs to what is declared. -/
def splitType (s : Spellings) (file : String) (type : Expr) :
    Except Fault (List (Group Expr) × List (Group Expr)) := do
  match type with
  | .subscript _ base (.tuple _ parts) =>
    if (base.lastName?.map s.annotated.contains).getD false then
      match parts with
      | [] => throw (.valueError "not enough values to unpack (expected at least 1, got 0)")
      | declared :: notes =>
        let own ← s.groups file notes
        return (own, ← s.groupsIn file (declared :: notes.filter fun e => !s.isGroup e))
    return ([], ← s.groupsIn file [type])
  | _ => return ([], ← s.groupsIn file [type])

/-- Whether a class with these bases holds enumerators. -/
def holdsEnumerators (s : Spellings) (bases : List Expr) : Bool :=
  bases.any fun e => match e.dottedName? with
    | some n => s.enumBases.contains (Dotted.last n)
    | none => false

end Spellings

end Marginalia
