/-
Statements as they are written.

Statements keep what declares something, what binds a name, and every
expression in them.  Of the type parameters of a class, a function or a type alias these
are the bounds.
-/
import Marginalia.Source.Expr

namespace Marginalia

/-- The types written at the parameters of a function, and the defaults. -/
structure Parameters where
  signature : Signature
  /-- Types of the parameters: those by place, those by name only, and those that take
  the remaining arguments. -/
  types : List Expr
  defaults : List Expr
  keywordDefaults : List (Option Expr)

/-- A name that is imported, and the name it is bound to if that is another one. -/
structure ImportedName where
  name : String
  boundAs : Option String
deriving DecidableEq, Repr

/-- Statements that only compute or direct the flow of control. -/
inductive PlainStatement where
  | result | raise | assertion | global | nonlocal | pass | leave | next
deriving DecidableEq, Repr

/-- A statement. -/
inductive Statement where
  | classDef (p : Place) (name : String) (bounds : List Expr) (bases : List Expr)
      (keywords : List Expr) (decorators : List Expr) (body : List Statement)
  | function (p : Place) (name : String) (bounds : List Expr) (parameters : Parameters)
      (result : Option Expr) (decorators : List Expr) (body : List Statement)
  /-- A target with the type it is declared to have. -/
  | typed (p : Place) (target type : Expr) (value : Option Expr)
  | assign (p : Place) (targets : List Expr) (value : Expr)
  | augment (p : Place) (target value : Expr)
  | typeAlias (p : Place) (name : String) (bounds : List Expr) (value : Expr)
  | importModules (p : Place) (modules : List ImportedName)
  /-- Names out of a module, `level` packages up. -/
  | importNames (p : Place) (module : Option String) (names : List ImportedName) (level : Nat)
  | branch (test : Expr) (body otherwise : List Statement)
  | attempt (body : List Statement) (types : List Expr) (handlers : List (List Statement))
      (otherwise final : List Statement)
  | within (contexts targets : List Expr) (body : List Statement)
  | each (target source : Expr) (body otherwise : List Statement)
  | repeated (test : Expr) (body otherwise : List Statement)
  | select (subject : Expr) (guards : List Expr) (cases : List (List Statement))
  | delete (p : Place) (targets : List Expr)
  | expression (e : Expr)
  | plain (p : Place) (kind : PlainStatement) (parts : List Expr)

instance : Inhabited Statement := ⟨.plain default .pass []⟩

end Marginalia
