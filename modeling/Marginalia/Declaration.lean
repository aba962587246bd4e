/-
The table of declarations.

A declaration is an entity of some kind under a module and a qualified name,
with every site it was declared at.  A table keeps them in order of allocation
and binds names: to what was declared under them last, or to another name.
Names are resolved in `Resolve`.
-/
import Marginalia.AnnotationError

namespace Marginalia

/-- A declared entity.  `site` is where it was declared first, `more` where it was again. -/
structure Declaration where
  identity : Identity
  kind : Kind
  module : String
  /-- Empty for the module itself. -/
  qualname : String
  site : Location
  more : List Location
deriving DecidableEq, Repr

namespace Declaration

/-- Every site, in the order they were declared. -/
def sites (d : Declaration) : List Location := d.site :: d.more

/-- The name of a declaration across modules. -/
def path (d : Declaration) : String :=
  if d.qualname.isEmpty then d.module else d.module ++ ":" ++ d.qualname

/-- Whether a declaration is the one with these properties. -/
def hasKey (d : Declaration) (kind : Kind) (module qualname : String) : Bool :=
  d.kind == kind && d.module == module && d.qualname == qualname

/-- Adds a site that was not there. -/
def addSite (d : Declaration) (l : Location) : Declaration :=
  if l ∈ d.sites then d else { d with more := d.more ++ [l] }

end Declaration

/-- A name in a module. -/
abbrev NameKey := String × String

/-- What a name is bound to. -/
inductive Binding where
  | declared (i : Identity)
  /-- Another name for what a name denotes, whenever it is asked. -/
  | sameAs (target : NameKey)
deriving DecidableEq, Repr

/-- Declarations in order of allocation, and the bindings of names. -/
structure Table where
  token : Int
  entries : List Declaration := []
  bindings : List (NameKey × Binding) := []
deriving Repr

namespace Table

/-- The binding of a name. -/
def binding? (t : Table) (key : NameKey) : Option Binding := t.bindings.lookup key

/-- Binds a name, in place of what it was bound to. -/
def bind (t : Table) (key : NameKey) (b : Binding) : Table :=
  { t with bindings := (key, b) :: t.bindings.filter fun e => e.1 != key }

/-- Declares an entity, or declares it again. -/
def declare (t : Table) (kind : Kind) (module qualname : String) (site : Location) :
    Table × Identity :=
  match t.entries.find? fun d => d.hasKey kind module qualname with
  | some d =>
    let entries := t.entries.map fun e =>
      if e.hasKey kind module qualname then e.addSite site else e
    ({ t with entries }.bind (module, qualname) (.declared d.identity), d.identity)
  | none =>
    let identity : Identity := ⟨t.token, t.entries.length⟩
    let entry : Declaration := ⟨identity, kind, module, qualname, site, []⟩
    ({ t with entries := t.entries ++ [entry] }.bind (module, qualname) (.declared identity),
      identity)

/-- Makes a name another name for what a name denotes. -/
def addAlias (t : Table) (module name targetModule targetName : String) : Table :=
  t.bind (module, name) (.sameAs (targetModule, targetName))

/-- Whether this table issued an identity. -/
def isLive (t : Table) (i : Identity) : Bool :=
  i.table == t.token && 0 ≤ i.index && i.index < t.entries.length

/-- The declaration at a place of the table. -/
def entry? (t : Table) (i : Identity) : Option Declaration := t.entries[i.index.toNat]?

/-- The declaration behind an identity. -/
def get (t : Table) (i : Identity) : Except AnnotationError Declaration :=
  match if t.isLive i then t.entry? i else none with
  | some d => .ok d
  | none => .error ⟨.notLive i, none⟩

end Table

end Marginalia
