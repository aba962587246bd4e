/-
Dotted names.

A dotted name is a text; its parts stand between the dots.  The empty text is
the name of a module inside itself.
-/
import Marginalia.Text.CodeRanges

namespace Marginalia

namespace Dotted

/-- The parts of a name; there is one more than there are dots. -/
def parts (name : String) : List String :=
  (splitChars '.' name.toList).map String.ofList

/-- Parts with dots between them. -/
def join (ps : List String) : String := ".".intercalate ps

/-- A name inside a qualifier; nothing stands before it when the qualifier is empty. -/
def under (qualifier name : String) : String :=
  if qualifier.isEmpty then name else qualifier ++ "." ++ name

/-- Takes a text apart at its last dot, if it has one. -/
def splitLastChars : List Char → Option (List Char × List Char)
  | [] => none
  | c :: cs =>
    match splitLastChars cs with
    | some (a, b) => some (c :: a, b)
    | none => if c == '.' then some ([], cs) else none

/-- The qualifier and the last part of a name that has a dot. -/
def splitLast? (name : String) : Option (String × String) :=
  (splitLastChars name.toList).map fun (a, b) => (String.ofList a, String.ofList b)

/-- The last part of a name. -/
def last (name : String) : String :=
  match splitLast? name with
  | some (_, b) => b
  | none => name

/-- The first part of a name. -/
def first (name : String) : String := String.ofList (name.toList.takeWhile (· != '.'))

end Dotted

end Marginalia
