/-
The folders of a system.

Paths in writing lead from the root, or from the folder in which a command is run, through
folders that are there; a step up leaves the folder that the path has come to.
`Disk.folderAt` goes to a folder, and `Disk.write` writes a file and makes the folders that
are missing on the way.
-/
import Marginalia.Tree

namespace Marginalia

/-- The folders of a system, where in them commands are run, and where nothing new can be put. -/
structure Disk where
  root : Node
  here : Path := []
  /-- The system lets no folder be made and no file be written at a path. -/
  refuses : Path → Bool := fun _ => false

/-- Why a file is not written. -/
inductive WriteFault where
  | refused
  /-- There is a null character in the path. -/
  | nullCharacter
deriving DecidableEq, Repr

namespace Disk

/-- The part of a path that leads one folder up. -/
def upward : String := ".."

/-- Where a path in writing starts. -/
def start (d : Disk) (path : String) : Path := if path.startsWith "/" then [] else d.here

/-- Follows names from a folder, each of them in a folder that is there. -/
def follow (root : Node) (at_ : Path) : Path → Option Path
  | [] => some at_
  | name :: rest =>
    match root.find? at_ with
    | some (.folder es) =>
      if name == upward then follow root at_.dropLast rest
      else if (es.lookup name).isSome then follow root (at_ ++ [name]) rest
      else none
    | _ => none

/-- The folder under a path. -/
def folderAt (d : Disk) (path : String) : Except PathFault Node :=
  match (follow d.root (d.start path) (Node.partsOf path)).bind d.root.find? with
  | none => .error (.missing (Node.normalText path))
  | some (.file _) => .error (.notFolder (Node.normalText path))
  | some (.folder es) => .ok (.folder es)

/-- Follows names from a folder and makes the folders that are missing.  Answers the tree then,
and where the names have led unless a file was in the way or the system refused. -/
def makeFolders (refuses : Path → Bool) (root : Node) (at_ : Path) : Path → Node × Option Path
  | [] => (root, some at_)
  | name :: rest =>
    if name == upward then makeFolders refuses root at_.dropLast rest
    else
      match root.find? (at_ ++ [name]) with
      | some (.folder _) => makeFolders refuses root (at_ ++ [name]) rest
      | some (.file _) => (root, none)
      | none =>
        if refuses (at_ ++ [name]) then (root, none)
        else makeFolders refuses (root.put (at_ ++ [name]) (.folder [])) (at_ ++ [name]) rest

/-- Whether a name cannot be handed to the system. -/
def isUnspeakable (name : String) : Bool := name.toList.contains (Char.ofNat 0)

/-- Writes a file in a folder. -/
def writeIn (d : Disk) (at_ : Path) (name : String) (content : List UInt8) :
    Except WriteFault Unit × Disk :=
  if isUnspeakable name then (.error .nullCharacter, d)
  else if name == upward || d.refuses (at_ ++ [name]) then (.error .refused, d)
  else
    match d.root.find? (at_ ++ [name]) with
    | some (.folder _) => (.error .refused, d)
    | _ => (.ok (), { d with root := d.root.put (at_ ++ [name]) (.file (.ok content)) })

/-- Writes a file under a path, making the folders on the way. -/
def write (d : Disk) (path : String) (content : List UInt8) : Except WriteFault Unit × Disk :=
  let names := Node.partsOf path
  if names.dropLast.any isUnspeakable then (.error .nullCharacter, d)
  else
    match makeFolders d.refuses d.root (d.start path) names.dropLast, names.getLast? with
    | (root, some at_), some name => writeIn { d with root } at_ name content
    | (root, _), _ => (.error .refused, { d with root })

end Disk

end Marginalia
