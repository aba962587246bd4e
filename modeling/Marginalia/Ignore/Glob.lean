/-
Patterns for one part of a path.

`*` stands for any characters, `?` for one, and brackets for one of a set; none of the
first two takes a slash.  A backslash takes the meaning from the character behind it.
-/

namespace Marginalia

/-- What brackets hold: characters, and ranges with their ends. -/
abbrev GlobSet := List (Char × Option Char)

/-- What one place of a pattern stands for. -/
inductive GlobPart where
  | char (c : Char)
  /-- Any characters but slashes, or none. -/
  | run
  /-- One character, but no slash. -/
  | one
  /-- One character of a set, or one that is not of it. -/
  | oneOf (negated : Bool) (set : GlobSet)
deriving DecidableEq, Repr

/-- Why a name is no pattern. -/
inductive GlobFault where
  /-- An opening bracket without a closing one. -/
  | unclosed
  /-- A backslash at the end. -/
  | dangling
deriving DecidableEq, Repr

/-- A range that ends before it starts, and the position of its text. -/
structure RangeFault where
  first : Char
  last : Char
  position : Nat
deriving DecidableEq, Repr

namespace GlobSet

/-- The set that is written in brackets. -/
def ofChars : List Char → GlobSet
  | a :: '-' :: b :: cs => (a, some b) :: ofChars cs
  | a :: cs => (a, none) :: ofChars cs
  | [] => []

/-- Whether a set has a character. -/
def contains (s : GlobSet) (c : Char) : Bool :=
  s.any fun (a, b) => a ≤ c && c ≤ b.getD a

/-- A character of a set in an expression. -/
def charText (c : Char) : List Char := if c == '\\' then ['\\', '\\'] else [c]

/-- An entry of a set in an expression. -/
def entryText : Char × Option Char → List Char
  | (a, some b) => charText a ++ '-' :: charText b
  | (a, none) => charText a

/-- The first range that ends before it starts; `position` is that of the set. -/
def fault? (position : Nat) : GlobSet → Option RangeFault
  | [] => none
  | (a, some b) :: s =>
    if b < a then some ⟨a, b, position⟩
    else fault? (position + (entryText (a, some b)).length) s
  | e :: s => fault? (position + (entryText e).length) s

end GlobSet

namespace GlobPart

/-- What stands in brackets, whose opening one has been passed: whether it is negated, its
characters, and how many characters it takes up to the closing bracket.  A closing bracket
right at the start is one of the characters. -/
def bracket? (cs : List Char) : Option (Bool × List Char × Nat) :=
  let negated := match cs with
    | c :: _ => c == '!' || c == '^'
    | [] => false
  let rest := if negated then cs.drop 1 else cs
  let first := if rest.head? == some ']' then 1 else 0
  let body := rest.take first ++ (rest.drop first).takeWhile (· != ']')
  if body.length < rest.length then
    some (negated, body, (if negated then 1 else 0) + body.length + 1)
  else none

/-- The parts of a pattern. -/
def ofChars : List Char → Except GlobFault (List GlobPart)
  | [] => .ok []
  | ['\\'] => .error .dangling
  | '\\' :: c :: cs => (ofChars cs).map (char c :: ·)
  | '*' :: cs => (ofChars cs).map (run :: ·)
  | '?' :: cs => (ofChars cs).map (one :: ·)
  | '[' :: cs =>
    match bracket? cs with
    | none => .error .unclosed
    | some (negated, body, taken) =>
      (ofChars (cs.drop taken)).map (oneOf negated (GlobSet.ofChars body) :: ·)
  | c :: cs => (ofChars cs).map (char c :: ·)
termination_by cs => cs.length

/-- Whether a part that stands for one character stands for this one. -/
def accepts (c : Char) : GlobPart → Bool
  | char d => c == d
  | run => false
  | one => c != '/'
  | oneOf negated s => negated != s.contains c

/-- Characters that stand behind a backslash in an expression. -/
def special : List Char := "()[]\x7b\x7d?*+-|^$\\.&~# \t\n\r\x0b\x0c".toList

/-- A part in an expression. -/
def text : GlobPart → List Char
  | char c => if special.contains c then ['\\', c] else [c]
  | run => "[^/]*".toList
  | one => "[^/]".toList
  | oneOf negated s =>
    '[' :: (if negated then ['^'] else []) ++ s.flatMap GlobSet.entryText ++ [']']

/-- The first range in a part that ends before it starts; `position` is that of the part. -/
def fault? (position : Nat) : GlobPart → Option RangeFault
  | oneOf negated s => s.fault? (position + if negated then 2 else 1)
  | _ => none

end GlobPart

end Marginalia
