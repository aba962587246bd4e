/-
Pictures written as names between colons.

`:name:` stands for a picture, `:name-text:` and `:name-emoji:` for the picture with a
selector behind it; a name that is not known stays as it is written.
-/
import Marginalia.Terminal.PictureNames
import Marginalia.Text.Case
import Marginalia.Text.Digits

namespace Marginalia

namespace Picture

/-- The picture with a name. -/
def ofName? (name : String) : Option (List Char) := do
  let first ← name.toList.head?
  let codes ← ((pictureNames.lookup first).getD []).lookup name
  return codes.map Char.ofNat

/-- The endings of names that ask for a selector. -/
def selectors : List (String × Char) := [("-text", '\ufe0e'), ("-emoji", '\ufe0f')]

/-- A name without an ending, and the selector that the ending asks for. -/
def withoutSelector (name : List Char) : List Char × List Char :=
  match selectors.find? fun (ending, _) => ending.toList.isSuffixOf name with
  | some (ending, c) => (name.take (name.length - ending.length), [c])
  | none => (name, [])

/-- What a name between colons stands for. -/
def ofWritten (name : List Char) : List Char :=
  let (base, selector) := withoutSelector name
  match ofName? (Case.lower (String.ofList base)) with
  | some cs => cs ++ selector
  | none => ':' :: name ++ [':']

/-- Replaces names in a text; `pending` holds what came since a colon that may open a name,
the last character first. -/
def replaceFrom : Option (List Char) → List Char → List Char
  | none, [] => []
  | some name, [] => ':' :: name.reverse
  | none, c :: cs => if c == ':' then replaceFrom (some []) cs else c :: replaceFrom none cs
  | some name, c :: cs =>
    if c == ':' then ofWritten name.reverse ++ replaceFrom none cs
    else if isBlank c then ':' :: name.reverse ++ c :: replaceFrom none cs
    else replaceFrom (some (c :: name)) cs

/-- Replaces the names of pictures in a text. -/
def replace (cs : List Char) : List Char := replaceFrom none cs

end Picture

end Marginalia
