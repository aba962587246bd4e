/-
JSON texts.

`Json.render` writes a value over several lines, two blanks deeper for each level, with
characters of ASCII only; the members of an object are in the order of their names.
-/
import Marginalia.Text.Codec
import Marginalia.Text.Quoted

namespace Marginalia

/-- The JSON values that reports are made of. -/
inductive Json where
  | null
  | text (s : String)
  | list (items : List Json)
  | object (members : List (String × Json))

namespace Json

/-- An object with its members in the order of their names. -/
def ofMembers (ms : List (String × Json)) : Json := object (ms.mergeSort fun a b => a.1 ≤ b.1)

/-- A character between double quotes. -/
def escaped (c : Char) : List Char :=
  if c == '"' || c == '\\' then ['\\', c]
  else match letterEscape? c with
    | some cs => cs
    | none =>
      if c.toNat == 8 then ['\\', 'b']
      else if c.toNat == 12 then ['\\', 'f']
      else if ' ' ≤ c && c ≤ '~' then [c]
      else (Utf16.units c).flatMap fun n => '\\' :: 'u' :: hexText 4 n

/-- A text between double quotes. -/
def quotedText (s : String) : List Char := '"' :: s.toList.flatMap escaped ++ ['"']

/-- A new line at some depth. -/
def newLine (depth : Nat) : List Char := '\n' :: List.replicate (2 * depth) ' '

/-- Entries between brackets, each on a line of its own. -/
def block (first last : Char) (depth : Nat) (entries : List (List Char)) : List Char :=
  if entries.isEmpty then [first, last]
  else
    first :: [','].intercalate (entries.map fun e => newLine (depth + 1) ++ e)
      ++ newLine depth ++ [last]

mutual

/-- A value at some depth. -/
def renderAt (depth : Nat) : Json → List Char
  | null => "null".toList
  | text s => quotedText s
  | list xs => block '[' ']' depth (renderItems (depth + 1) xs)
  | object ms => block '\x7b' '\x7d' depth (renderMembers (depth + 1) ms)

/-- The items of a list. -/
def renderItems (depth : Nat) : List Json → List (List Char)
  | [] => []
  | x :: xs => renderAt depth x :: renderItems depth xs

/-- The members of an object. -/
def renderMembers (depth : Nat) : List (String × Json) → List (List Char)
  | [] => []
  | (name, x) :: ms =>
    (quotedText name ++ [':', ' '] ++ renderAt depth x) :: renderMembers depth ms

end

/-- The text of a value. -/
def render (x : Json) : String := String.ofList (renderAt 0 x)

end Json

end Marginalia
