/-
Sets of code points and maps from them, written as text.

A set is written as sorted ranges, `61-7a aa b5`, in base sixteen.  `CodeMap` sends a code
point to a list of them (`df:53.53`), `PairMap` a pair to one (`41.300:c0`), `ClassMap` a
range to a class (`300-314:e6`).  All are sorted by their keys and searched by halving.
-/

namespace Marginalia

/-- The value of a digit in base sixteen; other characters count as zero. -/
def hexDigit (c : Char) : Nat :=
  if '0' ≤ c ∧ c ≤ '9' then c.toNat - 48
  else if 'a' ≤ c ∧ c ≤ 'f' then c.toNat - 87
  else if 'A' ≤ c ∧ c ≤ 'F' then c.toNat - 55
  else 0

/-- The value of a text of digits in base sixteen. -/
def hexValue (cs : List Char) : Nat := cs.foldl (fun n c => n * 16 + hexDigit c) 0

/-- Splits at each occurrence of a character; one piece more than there are occurrences. -/
def splitChars (sep : Char) (cs : List Char) : List (List Char) :=
  let (here, done) := cs.foldl
    (fun (here, done) c => if c == sep then ([], here.reverse :: done) else (c :: here, done)) ([], [])
  (here.reverse :: done).reverse

/-- The entries of a table, which blanks and line ends separate. -/
def tableWords (s : String) : List (List Char) :=
  (((s.toList.map fun c => if c == '\n' then ' ' else c) |> splitChars ' ').filter (!·.isEmpty))

/-- Sorted, disjoint, closed ranges of code points. -/
structure CodeRanges where
  ranges : Array (Nat × Nat)
deriving Inhabited

namespace CodeRanges

private def rangeOfText (cs : List Char) : Nat × Nat :=
  match splitChars '-' cs with
  | [a] => (hexValue a, hexValue a)
  | a :: b :: _ => (hexValue a, hexValue b)
  | [] => (0, 0)

/-- Reads a table. -/
def ofText (s : String) : CodeRanges :=
  ⟨((tableWords s).map rangeOfText).toArray⟩

/-- Looks for the range of a code point between two indices. -/
private def search (rs : Array (Nat × Nat)) (n : Nat) (lo hi : Nat) : Option (Nat × Nat) :=
  if _h : lo < hi then
    let mid := (lo + hi) / 2
    match rs[mid]? with
    | none => none
    | some r =>
      if n < r.1 then search rs n lo mid
      else if r.2 < n then search rs n (mid + 1) hi
      else some r
  else none
termination_by hi - lo

/-- The range a character lies in. -/
def rangeOf? (t : CodeRanges) (c : Char) : Option (Nat × Nat) :=
  search t.ranges c.toNat 0 t.ranges.size

/-- Whether a character lies in one of the ranges. -/
def contains (t : CodeRanges) (c : Char) : Bool := (t.rangeOf? c).isSome

/-- How many code points of the ranges lie below one of them. -/
def rank? (t : CodeRanges) (n : Nat) : Option Nat :=
  (t.ranges.foldl (fun (below, found) (a, b) =>
    (below + (b + 1 - a), if a ≤ n ∧ n ≤ b then some (below + (n - a)) else found))
    ((0, none) : Nat × Option Nat)).2

/-- The code point of the ranges that has so many below it. -/
def nth? (t : CodeRanges) (k : Nat) : Option Nat :=
  (t.ranges.foldl (fun (below, found) (a, b) =>
    (below + (b + 1 - a), if below ≤ k ∧ k < below + (b + 1 - a) then some (a + (k - below))
      else found))
    ((0, none) : Nat × Option Nat)).2

end CodeRanges

/-- The entry with a key in an array sorted by keys, between two indices. -/
private def findKey {α : Type} (entries : Array (Nat × α)) (key lo hi : Nat) : Option α :=
  if _h : lo < hi then
    let mid := (lo + hi) / 2
    match entries[mid]? with
    | none => none
    | some (k, a) =>
      if key < k then findKey entries key lo mid
      else if k < key then findKey entries key (mid + 1) hi
      else some a
  else none
termination_by hi - lo

/-- Both sides of an entry of a table. -/
private def sides (cs : List Char) : List Char × List Char :=
  match splitChars ':' cs with
  | a :: b :: _ => (a, b)
  | [a] => (a, [])
  | [] => ([], [])

private def words (s : String) : List (List Char × List Char) := (tableWords s).map sides

/-- A map from code points to texts. -/
structure CodeMap where
  entries : Array (Nat × List Nat)
deriving Inhabited

/-- Reads a table. -/
def CodeMap.ofText (s : String) : CodeMap :=
  ⟨((words s).map fun (a, b) => (hexValue a, (splitChars '.' b).map hexValue)).toArray⟩

/-- What a code point is sent to. -/
def CodeMap.find? (m : CodeMap) (c : Nat) : Option (List Nat) := findKey m.entries c 0 m.entries.size

/-- A map from pairs of code points, grouped by the first one. -/
structure PairMap where
  entries : Array ((Nat × Nat) × Nat)
deriving Inhabited

/-- Reads a table. -/
def PairMap.ofText (s : String) : PairMap :=
  ⟨((words s).map fun (a, b) =>
    match splitChars '.' a with
    | x :: y :: _ => ((hexValue x, hexValue y), hexValue b)
    | _ => ((0, 0), 0)).toArray⟩

/-- What a pair is sent to. -/
def PairMap.find? (m : PairMap) (a b : Nat) : Option Nat :=
  (m.entries.find? fun e => e.1 == (a, b)).map Prod.snd

/-- A map from ranges to classes. -/
structure ClassMap where
  entries : List ((Nat × Nat) × Nat)
deriving Inhabited

/-- Reads a table. -/
def ClassMap.ofText (s : String) : ClassMap :=
  ⟨(words s).map fun (a, b) =>
    match splitChars '-' a with
    | x :: y :: _ => ((hexValue x, hexValue y), hexValue b)
    | [x] => ((hexValue x, hexValue x), hexValue b)
    | [] => ((0, 0), 0)⟩

/-- The class of a code point; zero outside all ranges. -/
def ClassMap.classOf (m : ClassMap) (c : Nat) : Nat :=
  match m.entries.find? fun e => e.1.1 ≤ c && c ≤ e.1.2 with
  | some e => e.2
  | none => 0

end Marginalia
