/-
Where something was written, and which construct it belongs to.

A `Location` is a file, a line and a column; a `Kind` is one of the seven
constructs a declaration can be.  Both are plain data with decidable equality,
and `Location.toString` is the only spelling of a location in any message.
-/

namespace Marginalia

/-- A position in a source file, or in a tool that writes annotations itself. -/
structure Location where
  file : String
  line : Int := 0
  column : Int := 0
deriving DecidableEq, Repr, Inhabited

/-- Messages spell a location as file, line and column with colons between. -/
protected def Location.toString (l : Location) : String :=
  l.file ++ ":" ++ toString l.line ++ ":" ++ toString l.column

instance : ToString Location := ⟨Location.toString⟩

/-- The constructs that can be declared. -/
inductive Kind where
  | nameSpace
  | typeDef
  | typeAlias
  | function
  | variableDef
  | memberDef
  | enumerator
deriving DecidableEq, Repr, Inhabited

namespace Kind

/-- The word used for a kind in reports. -/
def label : Kind → String
  | nameSpace => "namespace"
  | typeDef => "type"
  | typeAlias => "type_alias"
  | function => "function"
  | variableDef => "variable"
  | memberDef => "member_variable"
  | enumerator => "enumerator"

/-- Every kind, in the order reports list them. -/
def all : List Kind :=
  [nameSpace, typeDef, typeAlias, function, variableDef, memberDef, enumerator]

/-- The kind a word stands for. -/
def ofLabel? (s : String) : Option Kind :=
  all.find? (fun k => k.label == s)

/-- An assignment can make another name for a declaration of these kinds. -/
def aliasable : Kind → Bool
  | nameSpace | typeDef | typeAlias | function => true
  | variableDef | memberDef | enumerator => false

end Kind

end Marginalia
