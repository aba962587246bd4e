/-
Texts with styles.

A text has spans, each of which sets some of its characters in a style; where spans
overlap, a later one lies over an earlier one.  `wrap` folds a text into lines of a width
and `segments` cuts a line wherever a span starts or ends.
-/
import Marginalia.Terminal.Cells
import Marginalia.Terminal.Style

namespace Marginalia

/-- Characters from `start` up to `stop` in a style. -/
structure Span where
  start : Nat
  stop : Nat
  style : Style
deriving Repr

/-- A text with spans. -/
structure StyledText where
  chars : List Char := []
  spans : List Span := []
deriving Repr

/-- Characters in one style. -/
structure Segment where
  chars : List Char
  style : Style := {}
deriving Repr

namespace Segment

/-- A segment in a style where it leaves something open. -/
def onto (s : Segment) (lower : Style) : Segment := ⟨s.chars, s.style.atop lower⟩

/-- The characters with the codes for their style. -/
def painted (s : Segment) : List Char := s.style.paint s.chars

end Segment

namespace StyledText

/-- Characters that texts never keep. -/
def isControl (c : Char) : Bool := [7, 8, 11, 12, 13].contains c.toNat

/-- Puts a text behind another one. -/
def append (t u : StyledText) : StyledText :=
  let n := t.chars.length
  ⟨t.chars ++ u.chars, t.spans ++ u.spans.map fun s => ⟨n + s.start, n + s.stop, s.style⟩⟩

/-- A whole text in a style. -/
def styled (cs : List Char) (style : Style) : StyledText := ⟨cs, [⟨0, cs.length, style⟩]⟩

/-- The characters between two positions, with what spans say of them. -/
def between (t : StyledText) (a b : Nat) : StyledText where
  chars := (t.chars.take b).drop a
  spans := t.spans.filterMap fun s =>
    let start := s.start - a
    let stop := min s.stop b - a
    if start < stop then some ⟨start, stop, s.style⟩ else none

/-- Cuts a text at positions. -/
def divide (t : StyledText) (positions : List Nat) : List StyledText :=
  match positions with
  | [] => [t]
  | ps => ((0 :: ps).zip (ps ++ [t.chars.length])).map fun (a, b) => t.between a b

/-- The lengths of the lines of a text, without their ends. -/
def lineLengths (cs : List Char) : List Nat := (splitChars '\n' cs).map List.length

/-- The lines of a text. -/
def lines (t : StyledText) : List StyledText :=
  match lineLengths t.chars with
  | [_] => [t]
  | ns => (ns.foldl (fun (start, out) n => (start + n + 1, t.between start (start + n) :: out))
      (0, ([] : List StyledText))).2.reverse

/-- Puts other characters in the place of those of a text; spans end with them. -/
def withChars (t : StyledText) (cs : List Char) : StyledText where
  chars := cs
  spans :=
    if cs.length < t.chars.length then
      (t.spans.filter fun s => s.start < cs.length).map fun s => { s with stop := min s.stop cs.length }
    else t.spans

/-- Drops blanks at the end of a text, as many as it has characters more than a width. -/
def trimEnd (t : StyledText) (width : Nat) : StyledText :=
  let trailing := (t.chars.reverse.takeWhile isBlank).length
  t.withChars (t.chars.take (t.chars.length - min trailing (t.chars.length - width)))

/-- A text cut or padded to a number of cells. -/
def fit (t : StyledText) (n : Nat) : StyledText := t.withChars (Cells.fit n t.chars)

/-- The words of a text, each with the blanks behind it; the first one also has those
before it.  `here` is the word under way, the last character first. -/
def wordsFrom (here : List Char) : List Char → List (List Char)
  | [] => if here.all isBlank then [] else [here.reverse]
  | c :: cs =>
    match here with
    | b :: _ =>
      if isBlank b && !isBlank c && !here.all isBlank then here.reverse :: wordsFrom [c] cs
      else wordsFrom (c :: here) cs
    | [] => wordsFrom [c] cs

/-- Where the lines of a text start, but for the first one, and how many cells of the last
line are taken; `start` and `taken` say the same of the words before. -/
def breaksFrom (width : Nat) (start taken : Nat) : List (List Char) → List Nat
  | [] => []
  | w :: ws =>
    let bare := Cells.cells (w.reverse.dropWhile isBlank).reverse
    let next := start + w.length
    let here := if start == 0 then [] else [start]
    if taken + bare ≤ width then breaksFrom width next (taken + Cells.cells w) ws
    else if width < bare then
      let pieces := Cells.chop width w
      let starts := (pieces.foldl (fun (at_, out) p => (at_ + p.length, at_ :: out))
        (start, ([] : List Nat))).2.reverse
      starts.filter (· != 0)
        ++ breaksFrom width next (((pieces.getLast?).map Cells.cells).getD 0) ws
    else if taken == 0 then breaksFrom width next taken ws
    else here ++ breaksFrom width next (Cells.cells w) ws

/-- Folds a text into lines of a width. -/
def wrap (t : StyledText) (width : Nat) : List StyledText :=
  t.lines.flatMap fun line =>
    (line.divide (breaksFrom width 0 0 (wordsFrom [] line.chars))).map fun l =>
      (l.trimEnd width).fit width

/-- The style of a character. -/
def styleAt (t : StyledText) (i : Nat) : Style :=
  (t.spans.filter fun s => s.start ≤ i && i < s.stop).foldl (fun lower s => s.style.atop lower) {}

/-- The positions where a text is cut. -/
def cuts (t : StyledText) : List Nat :=
  let n := t.chars.length
  let ps := (t.spans.flatMap fun s => [s.start, s.stop]).filter fun p => 0 < p && p < n
  0 :: (ps.mergeSort (· ≤ ·)).eraseDups ++ [n]

/-- The segments of a line. -/
def segments (t : StyledText) : List Segment :=
  (t.cuts.zip (t.cuts.drop 1)).map fun (a, b) => ⟨(t.chars.take b).drop a, t.styleAt a⟩

end StyledText

end Marginalia
