/-
Resolving names.

A name denotes what it is bound to, through aliases; an unbound name without a
dot can be a submodule; an unbound dotted name is a member of what its
qualifier denotes, under the name that has there.  Keys met before are not
followed again, so a circle of aliases denotes nothing.

Every key met belongs to a finite collection fixed by the table and the name,
and every call adds one: `keyBound` counts that collection, so a search of that
depth is never cut short.
-/
import Marginalia.Declaration
import Marginalia.Dotted

namespace Marginalia

namespace Table

/-- The name under which a submodule's own declaration is bound. -/
def submoduleKey (key : NameKey) : NameKey :=
  (if key.1.isEmpty then key.2 else key.1 ++ "." ++ key.2, "")

/-- The key of a member: the owner's qualified name, extended. -/
def memberKey (owner : Declaration) (member : String) : NameKey :=
  (owner.module, Dotted.under owner.qualname member)

/-- Follows a key to a depth; answers what it denotes and every key met. -/
def search (t : Table) : Nat → NameKey → List NameKey → Option Identity × List NameKey
  | 0, _, visited => (none, visited)
  | depth + 1, key, visited =>
    if key ∈ visited then (none, visited)
    else
      let visited := key :: visited
      match t.binding? key with
      | some (.declared i) => (some i, visited)
      | some (.sameAs target) => t.search depth target visited
      | none =>
        match Dotted.splitLast? key.2 with
        | none =>
          match t.binding? (submoduleKey key) with
          | some (.declared i) => (some i, visited)
          | _ => (none, visited)
        | some (head, member) =>
          match t.search depth (key.1, head) visited with
          | (none, visited) => (none, visited)
          | (some i, visited) =>
            match t.entry? i with
            | none => (none, visited)
            | some owner =>
              if memberKey owner member = key then (none, visited)
              else t.search depth (memberKey owner member) visited

/-- The number of parts in a name. -/
def partCount (name : String) : Nat := (name.toList.filter (· == '.')).length + 1

/-- How many keys a search for a name can meet. -/
def keyBound (t : Table) (name : String) : Nat :=
  let start := partCount name
  let aliases := t.bindings.foldl (fun n e => match e.2 with
    | .sameAs target => n + partCount target.2
    | .declared _ => n) 0
  let owners := t.entries.foldl (fun n d => n + partCount d.qualname) 0
  let parts := start + aliases + owners
  parts + t.entries.length * parts

/-- What a name denotes in a module. -/
def resolve? (t : Table) (module name : String) : Option Identity :=
  (t.search (t.keyBound name + 1) (module, name) []).1

/-- What a name denotes, or the refusal that it denotes nothing. -/
def resolve (t : Table) (module name : String) : Except AnnotationError Identity :=
  match t.resolve? module name with
  | some i => .ok i
  | none => .error ⟨.unknownName module name, none⟩

/-- A path has the module before its first colon and the name behind it. -/
def splitPath (path : String) : String × String :=
  (String.ofList (path.toList.takeWhile (· != ':')),
    String.ofList ((path.toList.dropWhile (· != ':')).drop 1))

/-- What a path denotes. -/
def resolvePath (t : Table) (path : String) : Except AnnotationError Identity :=
  t.resolve (splitPath path).1 (splitPath path).2

end Table

end Marginalia
