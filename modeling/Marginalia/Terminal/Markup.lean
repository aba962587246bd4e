/-
Texts with tags.

`[style]` opens a style and `[/style]` or `[/]` closes it; a backslash before a bracket
keeps it.  `Markup.read` finds the tags, with the names of pictures replaced, and
`Markup.render` makes a styled text of them.
-/
import Marginalia.Terminal.Action
import Marginalia.Terminal.Picture
import Marginalia.Terminal.StyledText

namespace Marginalia

/-- Why a text with tags cannot be rendered. -/
inductive MarkupFault where
  /-- A closing tag without an opening tag of that style. -/
  | unopened (tag : String) (position : Nat)
  /-- A closing tag with no style open. -/
  | nothingOpen (position : Nat)
  /-- Parameters of an action that are no literals. -/
  | parameters (text : String)
  /-- A color that cannot be read. -/
  | color (f : ColorFault)
deriving DecidableEq, Repr

namespace MarkupFault

/-- The class of error. -/
def kind : MarkupFault → String
  | unopened .. | nothingOpen _ | parameters _ => "MarkupError"
  | color _ => "ValueError"

/-- The sentence for a fault; that for parameters ends with a reason, which is left out. -/
def message : MarkupFault → String
  | unopened tag p =>
    "closing tag '" ++ tag ++ "' at position " ++ toString p ++ " doesn't match any open tag"
  | nothingOpen p => "closing tag '[/]' at position " ++ toString p ++ " has nothing to close"
  | parameters text => "error parsing " ++ quoted text
  | color f => f.message

end MarkupFault

namespace Markup

/-- A tag: a name and what follows an equals sign. -/
structure Tag where
  name : String
  detail : Option String
deriving DecidableEq, Repr

namespace Tag

/-- The tag between brackets. -/
def ofChars (cs : List Char) : Tag :=
  let name := cs.takeWhile (· != '=')
  ⟨String.ofList name, if name.length < cs.length then some (String.ofList (cs.drop (name.length + 1)))
    else none⟩

/-- The tag as it is written. -/
def written (t : Tag) : String :=
  match t.detail with
  | some d => "[" ++ t.name ++ "=" ++ d ++ "]"
  | none => "[" ++ t.name ++ "]"

/-- Whether the parameters of a tag can be read, if it is one for an action. -/
def isReadable (t : Tag) : Bool :=
  t.name.toList.head? != some '@' || t.detail.all fun d => d.isEmpty || Action.isReadable d

/-- The style that a tag asks for. -/
def style (t : Tag) : Except ColorFault Style :=
  let definition := match t.detail with
    | some d => t.name ++ " " ++ d
    | none => t.name
  Style.named definition

end Tag

/-- A part of a text with tags. -/
inductive Piece where
  | plain (cs : List Char)
  | tag (position : Nat) (t : Tag)
deriving Repr

/-- What is between a bracket and the next one, if it makes a tag. -/
def tagBody? : List Char → Option (List Char)
  | [] => none
  | c :: cs =>
    let more := cs.takeWhile fun d => d != '[' && d != ']'
    if (('a' ≤ c && c ≤ 'z') || c == '#' || c == '/' || c == '@')
        && (cs.drop more.length).head? == some ']' then some (c :: more)
    else none

/-- A piece of plain text, if there is any. -/
def plainPiece (cs : List Char) : List Piece := if cs.isEmpty then [] else [.plain cs]

/-- The pieces of a text.  `before` is plain text and `slashes` counts the backslashes
behind it, both up to the position; `skip` characters belong to a tag already taken. -/
def piecesFrom (position : Nat) (before : List Char) (slashes skip : Nat) :
    List Char → List Piece
  | [] => plainPiece (before.reverse ++ List.replicate slashes '\\')
  | c :: cs =>
    match skip with
    | skip + 1 => piecesFrom (position + 1) before slashes skip cs
    | 0 =>
      if c == '\\' then piecesFrom (position + 1) before (slashes + 1) 0 cs
      else
        match if c == '[' then tagBody? cs else none with
        | none =>
          piecesFrom (position + 1) (c :: (List.replicate slashes '\\' ++ before)) 0 0 cs
        | some body =>
          let kept := plainPiece (List.replicate (slashes / 2) '\\')
          let piece := if slashes % 2 == 1 then .plain ('[' :: body ++ [']'])
            else .tag position (Tag.ofChars body)
          plainPiece before.reverse ++ kept ++ piece
            :: piecesFrom (position + 1) [] 0 (body.length + 1) cs

/-- The pieces of a text. -/
def pieces (cs : List Char) : List Piece := piecesFrom 0 [] 0 0 cs

/-- A definition of a style in its usual form. -/
def normalName (s : String) : Except MarkupFault String :=
  match Style.ofText s with
  | .ok style => .ok style.text
  | .error .notColor => .ok (String.ofList (Search.strip isBlank (Case.lower s).toList))
  | .error f => .error (.color f)

/-- A text with the places of its tags. -/
structure Marked where
  chars : List Char := []
  /-- Where a tag starts and ends to count. -/
  tags : List (Nat × Nat × Tag) := []
deriving Repr

/-- A text under way: what is done, and the open tags, the latest first. -/
structure Reading where
  chars : List Char := []
  /-- Tags that are closed, the latest first. -/
  closed : List (Nat × Nat × Tag) := []
  opened : List (Nat × Tag) := []

namespace Reading

/-- Closes an open tag; that is where the parameters of an action are read. -/
def close (r : Reading) (start : Nat) (t : Tag) (rest : List (Nat × Tag)) :
    Except MarkupFault Reading :=
  if t.isReadable then
    .ok { r with closed := (start, r.chars.length, t) :: r.closed, opened := rest }
  else .error (.parameters (t.detail.getD ""))

/-- Takes a piece into a text under way. -/
def add (r : Reading) : Piece → Except MarkupFault Reading
  | .plain cs =>
    let cs := Picture.replace (Search.replace ['\\', '['] ['['] none cs)
    .ok { r with chars := r.chars ++ cs.filter (!StyledText.isControl ·) }
  | .tag position t =>
    match t.name.toList with
    | '/' :: name =>
      match Search.strip isBlank name with
      | [] =>
        match r.opened with
        | (start, o) :: rest => r.close start o rest
        | [] => .error (.nothingOpen position)
      | name => do
        let name ← normalName (String.ofList name)
        match r.opened.find? fun e => e.2.name == name with
        | some e => r.close e.1 e.2 (r.opened.eraseP fun e => e.2.name == name)
        | none => throw (.unopened t.written position)
    | _ => do
      return { r with opened := (r.chars.length, ⟨← normalName t.name, t.detail⟩) :: r.opened }

/-- The text that is done; open tags reach to its end. -/
def finish (r : Reading) : Marked :=
  let left := r.opened.map fun (start, t) => (start, r.chars.length, t)
  ⟨r.chars, (left.reverse ++ r.closed).mergeSort fun a b => a.1 ≤ b.1⟩

end Reading

/-- Reads a text with tags. -/
def read (s : String) : Except MarkupFault Marked := do
  return (← (pieces s.toList).foldlM Reading.add {}).finish

/-- The styled text that a text with tags stands for. -/
def Marked.styled (m : Marked) : Except MarkupFault StyledText := do
  let spans ← m.tags.mapM fun (start, stop, t) => do
    return (⟨start, stop, ← t.style.mapError .color⟩ : Span)
  return ⟨m.chars, spans⟩

/-- Renders a text with tags. -/
def render (s : String) : Except MarkupFault StyledText := do (← read s).styled

end Markup

end Marginalia
