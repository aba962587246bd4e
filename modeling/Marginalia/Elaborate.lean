/-
Declarations and annotations of a module.

`elaborateModule` goes through the statements of a module in the order they are
written.  Each statement that declares something adds a declaration to the
compilation, its annotations are placed, evaluated and recorded, and names are bound
to the values that later annotations may use.  Bodies of classes are entered, bodies of
functions are not.

Errors of annotations become diagnostics; the declaration stays, without any of its
annotations.  A fault that is blamed on no place ends the whole run.
-/
import Marginalia.Diagnostic
import Marginalia.Evaluate
import Marginalia.ModuleName
import Marginalia.Source.Statement
import Marginalia.Spellings

namespace Marginalia

/-- A declaration met at a site, and how many annotations were recorded from there. -/
structure ElaboratedSite where
  identity : Identity
  kind : Kind
  module : String
  qualname : String
  site : Location
  count : Nat
deriving Repr

/-- What stays the same while a module is gone through. -/
structure ModuleSetting where
  host : Host
  spellings : Spellings
  name : ModuleName
  file : String

/-- The bodies that declarations can stand in. -/
inductive Container where
  | module
  | classBody
  | enumBody
deriving DecidableEq, Repr

/-- The body a statement stands in. -/
structure Body where
  /-- The qualified name of the class around, if there is one. -/
  qualifier : String := ""
  container : Container := .module

/-- What has come out so far. -/
structure Findings where
  compilation : Compilation
  scope : Scope := {}
  sites : List ElaboratedSite := []
  diagnostics : List Diagnostic := []

/-- A run over statements; a fault ends it. -/
abbrev Elaboration := ExceptT Fault (StateM Findings)

namespace Elaboration

/-- Changes the visible names. -/
def onScope (f : Scope → Scope) : Elaboration Unit := modify fun s => { s with scope := f s.scope }

/-- Changes the compilation. -/
def onCompilation (f : Compilation → Compilation) : Elaboration Unit :=
  modify fun s => { s with compilation := f s.compilation }

/-- Reports an error. -/
def report (m : ModuleSetting) (e : AnnotationError) : Elaboration Unit :=
  modify fun s => { s with diagnostics := s.diagnostics ++ [⟨m.file, .rejected e⟩] }

/-- The value of an expression, or the error that it has none. -/
def value (m : ModuleSetting) (e : Expr) : Elaboration (Except AnnotationError Held) := do
  let s ← get
  let (r, c) := (e.hold { host := m.host, scope := s.scope, file := m.file }).run.run s.compilation
  set { s with compilation := c }
  match r with
  | .ok v => return .ok v
  | .error (.rejected e) => return .error e
  | .error (.escaped f) => throw f

/-- The values of annotations, up to the first that has none or cannot be stored. -/
def values (m : ModuleSetting) :
    List (AnnotationItem Expr) → Elaboration (Except AnnotationError (List (Location × Value)))
  | [] => return .ok []
  | a :: rest => do
    match ← value m a.expression with
    | .error e => return .error e
    | .ok h =>
      match Compilation.checkStructural h.value (some a.location) with
      | .error e => return .error e
      | .ok v =>
        match ← values m rest with
        | .error e => return .error e
        | .ok vs => return .ok ((a.location, v) :: vs)

/-- Records values, each under its own class. -/
def recordAll (i : Identity) : List (Location × Value) → Compilation → Compilation
  | [], c => c
  | (l, v) :: rest, c =>
    match c.record i v.typeOf v l with
    | .ok (c, _) => recordAll i rest c
    | .error _ => recordAll i rest c

/-- The groups written at a declaration: on the types in it, on its value, and on itself. -/
structure Groups where
  types : List (Group Expr) := []
  value : List (Group Expr) := []
  own : List (Group Expr) := []

/-- The annotations of a declaration, once no group stands where it cannot. -/
def Groups.validate (g : Groups) (kind : Kind) (c : Compilation) :
    Except AnnotationError (List (AnnotationItem Expr)) := do
  let _ ← c.validate ⟨some kind, .typeSpecifier, g.types⟩
  let _ ← c.validate ⟨none, .statement, g.value⟩
  c.validate ⟨some kind, .declaration, g.own⟩

/-- Declares an entity at a site and records its annotations; nothing more happens at a
site that was gone through before. -/
def declare (m : ModuleSetting) (kind : Kind) (qualname : String) (site : Location)
    (groups : Groups) : Elaboration Unit := do
  let s ← get
  let (c, i) := s.compilation.declare kind m.name.dotted qualname site
  set { s with compilation := c }
  match c.elaborate i site with
  | .ok (c, true) =>
    set { s with compilation := c }
    let values ← match groups.validate kind c with
      | .error e => pure (.error e)
      | .ok items => values m items
    let values ← match values with
      | .ok vs => pure vs
      | .error e => do
        report m e
        pure []
    onCompilation (recordAll i values)
    modify fun s => { s with
      sites := s.sites ++ [⟨i, kind, m.name.dotted, qualname, site, values.length⟩] }
  | _ => pure ()

/-- Reports annotations in expressions of a statement that declares nothing. -/
def refuseIn (m : ModuleSetting) (es : List Expr) : Elaboration Unit := do
  let groups ← m.spellings.groupsIn m.file es
  match (← get).compilation.validate ⟨none, .statement, groups⟩ with
  | .ok _ => pure ()
  | .error e => report m e

/-- Binds a name to the value of an expression; a name without a value is hidden. -/
def bindTo (m : ModuleSetting) (name : String) (e : Option Expr) : Elaboration Unit := do
  match e with
  | none => onScope (·.hide name)
  | some e =>
    match ← value m e with
    | .ok v => onScope (·.bind name v)
    | .error _ => onScope (·.hide name)

/-- The kind of a variable in a body. -/
def variableKind (b : Body) (name : String) : Kind :=
  match b.container with
  | .module => .variableDef
  | .classBody => .memberDef
  | .enumBody => if name.startsWith "_" then .memberDef else .enumerator

/-- What the first of some names that denotes anything denotes. -/
def denoted? (t : Table) (module : String) (names : List String) : Option Declaration :=
  (names.findSome? (t.resolve? module)).bind fun i => (t.get i).toOption

/-- Makes a name another name for the declaration an expression spells; false when it spells
none that can have other names. -/
def tryAlias (m : ModuleSetting) (b : Body) (name : String) (e : Expr) : Elaboration Bool := do
  match e.dottedName? with
  | none => return false
  | some dotted =>
    let candidates :=
      if b.qualifier.isEmpty then [dotted] else [Dotted.under b.qualifier dotted, dotted]
    match denoted? (← get).compilation.table m.name.dotted candidates with
    | none => return false
    | some d =>
      if !d.kind.aliasable then return false
      onCompilation fun c =>
        c.addAlias m.name.dotted (Dotted.under b.qualifier name) d.module d.qualname
      onScope (·.hide name)
      return true

/-- Declares a class. -/
def declareClass (m : ModuleSetting) (b : Body) (p : Place) (name : String)
    (bases keywords decorators : List Expr) : Elaboration Unit := do
  let own ← m.spellings.groups m.file decorators
  let types ← m.spellings.groupsIn m.file (bases ++ keywords)
  declare m .typeDef (Dotted.under b.qualifier name) (p.inFile m.file) { types, own }
  refuseIn m (decorators.filter fun e => !m.spellings.isGroup e)
  onScope (·.hide name)

/-- The body of a class. -/
def classBody (m : ModuleSetting) (b : Body) (name : String) (bases : List Expr) : Body :=
  { qualifier := Dotted.under b.qualifier name
    container := if m.spellings.holdsEnumerators bases then .enumBody else .classBody }

/-- Declares a function. -/
def declareFunction (m : ModuleSetting) (b : Body) (p : Place) (name : String)
    (parameters : Parameters) (result : Option Expr) (decorators : List Expr) :
    Elaboration Unit := do
  let own ← m.spellings.groups m.file decorators
  let types ← m.spellings.groupsIn m.file (parameters.types ++ result.toList)
  declare m .function (Dotted.under b.qualifier name) (p.inFile m.file) { types, own }
  refuseIn m (decorators.filter fun e => !m.spellings.isGroup e)
  refuseIn m (parameters.defaults ++ parameters.keywordDefaults.filterMap id)
  onScope (·.hide name)

/-- Declares a name with a type. -/
def declareTyped (m : ModuleSetting) (b : Body) (p : Place) (target type : Expr)
    (value : Option Expr) : Elaboration Unit := do
  match target with
  | .name _ name =>
    let (own, types) ← m.spellings.splitType m.file type
    let groups ← m.spellings.groupsIn m.file value.toList
    declare m (variableKind b name) (Dotted.under b.qualifier name) (p.inFile m.file)
      { types, value := groups, own }
    bindTo m name value
  | _ => refuseIn m (type :: value.toList)

/-- Declares the names an assignment binds, or makes them other names of what its value
denotes. -/
def declareNames (m : ModuleSetting) (b : Body) (p : Place) (value : Expr) :
    List String → Elaboration Unit
  | [] => pure ()
  | name :: rest => do
    if !(← tryAlias m b name value) then
      declare m (variableKind b name) (Dotted.under b.qualifier name) (p.inFile m.file) {}
      bindTo m name (some value)
    declareNames m b p value rest

/-- The name of a target that is a name. -/
def targetName? : Expr → Option String
  | .name _ n => some n
  | _ => none

/-- Declares what an assignment declares; one to the marker of the module annotates it. -/
def declareAssigned (m : ModuleSetting) (b : Body) (p : Place) (targets : List Expr)
    (value : Expr) : Elaboration Unit := do
  let names := targets.filterMap targetName?
  if b.container == .module && names == [m.spellings.moduleMarker] && targets.length == 1 then
    let parts := Spellings.moduleParts value
    let own ← m.spellings.groups m.file parts
    declare m .nameSpace "" (p.inFile m.file) { own }
    refuseIn m (parts.filter fun e => !m.spellings.isGroup e)
  else if m.spellings.marks value then refuseIn m [value]
  else if names.length == targets.length then declareNames m b p value names

/-- Declares another name for a type. -/
def declareTypeAlias (m : ModuleSetting) (b : Body) (p : Place) (name : String) (value : Expr) :
    Elaboration Unit := do
  let types ← m.spellings.groupsIn m.file [value]
  declare m .typeAlias (Dotted.under b.qualifier name) (p.inFile m.file) { types }
  onScope (·.hide name)

/-- Binds a name to something in another module. -/
def bindImported (m : ModuleSetting) (b : Body) (name module target : String) :
    Elaboration Unit := do
  onCompilation fun c => c.addAlias m.name.dotted (Dotted.under b.qualifier name) module target
  onScope (·.hide name)

/-- Binds the modules of an import; without a name of its own, a module is bound by the
first part of its name. -/
def importModules (m : ModuleSetting) (b : Body) : List ImportedName → Elaboration Unit
  | [] => pure ()
  | i :: rest => do
    match i.boundAs with
    | some n => bindImported m b n i.name ""
    | none => bindImported m b (Dotted.first i.name) (Dotted.first i.name) ""
    importModules m b rest

/-- Binds the names of an import. -/
def importNames (m : ModuleSetting) (b : Body) (base : String) :
    List ImportedName → Elaboration Unit
  | [] => pure ()
  | i :: rest => do
    if i.name != "*" then bindImported m b (i.boundAs.getD i.name) base i.name
    importNames m b base rest

/-- Runs over a body of its own; names bound in it are not visible outside. -/
def inChild (run : Elaboration Unit) : Elaboration Unit := do
  let outside := (← get).scope
  onScope Scope.child
  run
  onScope fun _ => outside

mutual

/-- Goes through a statement. -/
def statement (m : ModuleSetting) (b : Body) : Statement → Elaboration Unit
  | .classDef p name _ bases keywords decorators body => do
    declareClass m b p name bases keywords decorators
    inChild (statements m (classBody m b name bases) body)
  | .function p name _ parameters result decorators _ =>
    declareFunction m b p name parameters result decorators
  | .typed p target type value => declareTyped m b p target type value
  | .assign p targets value => declareAssigned m b p targets value
  | .typeAlias p name _ value => declareTypeAlias m b p name value
  | .importModules _ modules => importModules m b modules
  | .importNames _ module names level =>
    importNames m b (m.name.importBase module level) names
  | .branch _ body otherwise => do
    statements m b body
    statements m b otherwise
  | .attempt body _ handlers otherwise final => do
    statements m b body
    bodies m b handlers
    statements m b otherwise
    statements m b final
  | .within contexts _ body => do
    refuseIn m contexts
    statements m b body
  | .each _ _ body otherwise => do
    statements m b body
    statements m b otherwise
  | .repeated _ body otherwise => do
    statements m b body
    statements m b otherwise
  | .select subject _ cases => do
    refuseIn m [subject]
    bodies m b cases
  | .expression e => if m.spellings.isGroup e then refuseIn m [e] else pure ()
  | _ => pure ()

/-- Goes through statements. -/
def statements (m : ModuleSetting) (b : Body) : List Statement → Elaboration Unit
  | [] => pure ()
  | st :: rest => do
    statement m b st
    statements m b rest

/-- Goes through several bodies. -/
def bodies (m : ModuleSetting) (b : Body) : List (List Statement) → Elaboration Unit
  | [] => pure ()
  | body :: rest => do
    statements m b body
    bodies m b rest

end

/-- Declares the module and goes through its statements. -/
def wholeModule (m : ModuleSetting) (body : List Statement) : Elaboration Unit := do
  declare m .nameSpace "" ⟨m.file, 0, 0⟩ {}
  statements m {} body

end Elaboration

end Marginalia
