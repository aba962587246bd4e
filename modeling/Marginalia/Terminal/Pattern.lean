/-
Patterns in texts.

`TextPattern.run` answers every way a pattern can go on from a place of a text, the preferred
one first, and `TextPattern.findAll` the places where it applies, from left to right and
without overlap, with the parts that have names.
-/
import Marginalia.Text.Word

namespace Marginalia

/-- What a part of a text can look like. -/
inductive TextPattern where
  | nothing
  | char (p : Char → Bool)
  | andThen (a b : TextPattern)
  /-- The first one is preferred. -/
  | either (a b : TextPattern)
  /-- A pattern several times: as often as possible when `greedy`, else as seldom. -/
  | times (least : Nat) (most : Option Nat) (greedy : Bool) (body : TextPattern)
  | named (name : String) (body : TextPattern)
  /-- An edge of a word, or a place that is none. -/
  | edge (is : Bool)
  /-- A place that has no such character before it. -/
  | notBehind (p : Char → Bool)

/-- A place in a text. -/
structure Cursor where
  before : Option Char := none
  rest : List Char
  position : Nat := 0
  /-- The parts with names so far, the last one first: where they start and end. -/
  found : List (String × Nat × Nat) := []

namespace Cursor

/-- Whether a place is at the edge of a word. -/
def atEdge (c : Cursor) : Bool :=
  c.before.any isWordChar != c.rest.head?.any isWordChar

/-- The place behind the next character, if it is one of some. -/
def step (p : Char → Bool) (c : Cursor) : List Cursor :=
  match c.rest with
  | d :: rest => if p d then [{ c with before := some d, rest, position := c.position + 1 }] else []
  | [] => []

/-- Notes a part with a name that ends here. -/
def note (name : String) (start : Nat) (c : Cursor) : Cursor :=
  { c with found := (name, start, c.position) :: c.found }

end Cursor

namespace TextPattern

/-- The ways to go on several times; `fuel` bounds how often. -/
def runTimes (step : Cursor → List Cursor) (greedy : Bool) :
    (fuel least : Nat) → (most : Option Nat) → Cursor → List Cursor
  | 0, least, _, c => if least == 0 then [c] else []
  | fuel + 1, least, most, c =>
    let more :=
      if most == some 0 then []
      else ((step c).filter fun d => c.position < d.position).flatMap
        (runTimes step greedy fuel (least - 1) (most.map (· - 1)))
    if least != 0 then more else if greedy then more ++ [c] else c :: more

/-- The ways a pattern can go on from a place. -/
def run : TextPattern → Cursor → List Cursor
  | nothing, c => [c]
  | char p, c => c.step p
  | andThen a b, c => (a.run c).flatMap b.run
  | either a b, c => a.run c ++ b.run c
  | times least most greedy body, c =>
    runTimes body.run greedy (c.rest.length + least + 1) least most c
  | named name body, c => (body.run c).map (Cursor.note name c.position)
  | edge is, c => if c.atEdge == is then [c] else []
  | notBehind p, c => if c.before.any p then [] else [c]

/-- The places where a pattern applies: the parts with names of each, the first one first. -/
def findAll (p : TextPattern) (text : List Char) : List (List (String × Nat × Nat)) :=
  let rec go (before : Option Char) (position skip : Nat) :
      List Char → List (List (String × Nat × Nat))
    | [] => []
    | c :: cs =>
      match skip with
      | skip + 1 => go (some c) (position + 1) skip cs
      | 0 =>
        match p.run { before, rest := c :: cs, position } with
        | [] => go (some c) (position + 1) 0 cs
        | r :: _ => r.found.reverse :: go (some c) (position + 1) (r.position - position - 1) cs
  go none 0 0 text

/-- Patterns one after the other. -/
def inTurn (ps : List TextPattern) : TextPattern := ps.foldr andThen nothing

/-- One of several patterns, the first ones preferred. -/
def anyOf : List TextPattern → TextPattern
  | [] => char fun _ => false
  | [p] => p
  | p :: ps => either p (anyOf ps)

/-- A text as it stands. -/
def text (s : String) : TextPattern := inTurn (s.toList.map fun c => char (· == c))

/-- A pattern or nothing. -/
def optional (p : TextPattern) : TextPattern := times 0 (some 1) true p

/-- A pattern as often as possible, or not at all. -/
def many (p : TextPattern) : TextPattern := times 0 none true p

/-- A pattern as often as possible, at least once. -/
def many1 (p : TextPattern) : TextPattern := times 1 none true p

/-- A pattern some number of times between two bounds. -/
def between (least most : Nat) (p : TextPattern) : TextPattern := times least (some most) true p

end TextPattern

end Marginalia
