/-
Names of modules.

A file names a module by its path below the root, and an import that starts some
packages up names another one relative to it.
-/
import Marginalia.Dotted

namespace Marginalia

/-- A module as the texts in it see it. -/
structure ModuleName where
  dotted : String
  /-- The module is a package, so that imports relative to it start in it. -/
  isPackage : Bool := false
deriving DecidableEq, Repr

namespace ModuleName

/-- The file that makes a folder a package, without its suffix. -/
def packageFile : String := "__init__"

/-- The module of a file, from the parts of its path below the root, the last one
without its suffix; the root itself goes by a name of its own. -/
def ofPath (rootName : String) (parts : List String) : ModuleName :=
  let isPackage := parts.getLast? == some packageFile
  let name := Dotted.join (if isPackage then parts.dropLast else parts)
  { dotted := if name.isEmpty then rootName else name, isPackage }

/-- The packages around a module, outermost first; a package is one of its own. -/
def packages (m : ModuleName) : List String :=
  let parts := if m.dotted.isEmpty then [] else Dotted.parts m.dotted
  if m.isPackage then parts else parts.dropLast

/-- The packages that remain some steps up.  A climb past the outermost package counts
the missing steps from the innermost one again. -/
def climb (packages : List String) (steps : Nat) : List String :=
  let n := packages.length
  if steps ≤ n then packages.take (n - steps) else packages.take (n - (steps - n))

/-- The module that an import names: `level` is how many dots stand before the name. -/
def importBase (m : ModuleName) (module : Option String) (level : Nat) : String :=
  let named := module.getD ""
  if level = 0 then named
  else
    let kept := climb m.packages (level - 1)
    Dotted.join (if named.isEmpty then kept else kept ++ [named])

end ModuleName

end Marginalia
