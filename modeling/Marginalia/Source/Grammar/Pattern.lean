/-
What the rules of the grammar are made of.

A rule is a list of branches, of which the first that fits is taken.  A branch reads its
parts one behind the other; its outcome says what has been read, as far as the blame for a
mistake depends on it, or whom to blame.
-/
import Marginalia.Source.Grammar.Rule

namespace Marginalia

namespace Grammar

/-- What targets are used for. -/
inductive TargetUse where
  | binding | deletion | loop
deriving DecidableEq, Repr

/-- What comes of a branch; parts are counted from zero. -/
inductive Outcome where
  /-- Something that starts with the first token of the branch. -/
  | node
  /-- Such a thing that a value can be bound to. -/
  | place
  /-- What one of the parts is. -/
  | part (i : Nat)
  /-- The things of several parts, as one thing or side by side. -/
  | items (is : List Nat)
  | together (is : List Nat)
  | starred (i : Nat)
  /-- A comparison with a part on the left; whether it begins with `in`. -/
  | comparison (i : Nat) (isMembership : Bool)
  /-- Arguments of a call: those of some parts, and the starred ones of others. -/
  | arguments (all starred : List Nat)
  /-- A mistake in the line in which a part starts. -/
  | blame (i : Nat)
  /-- A mistake in the line of the last token. -/
  | blameLast
  /-- A block that is missing there. -/
  | blameIndentation
  /-- A mistake if nothing can be bound to something in a part. -/
  | blameTarget (use : TargetUse) (i : Nat)
  /-- A comma is missing behind a part, if this is within brackets. -/
  | blameMissingComma (i : Nat)
  /-- A part that is a word of a former statement. -/
  | blameFormerStatement (i : Nat)
  /-- A comprehension without brackets behind other arguments. -/
  | blameGenerator (i : Nat)
deriving Repr

/-- What can be asked of the tokens that come next. -/
inductive Pattern where
  /-- A sign or keyword. -/
  | text (s : String)
  /-- A name that is some word. -/
  | word (s : String)
  /-- A name that is, or begins, a word with a meaning of its own in some statements. -/
  | softKeyword
  | name | number
  /-- A number that has to be real, or imaginary. -/
  | numberOf (isImaginary : Bool)
  | quotation
  /-- Quoted texts in a row. -/
  | quotations
  | newline | indent | dedent | finish
  | rule (r : Rule)
  | oneOf (branches : List (List Pattern × Outcome))
  | optional (p : Pattern)
  | many (p : Pattern)
  | some (p : Pattern)
  | separated (by_ : String) (p : Pattern)
  /-- The pattern fits, or does not; nothing is read. -/
  | ahead (p : Pattern)
  | absent (p : Pattern)
  /-- A sign without which there is a mistake. -/
  | must (s : String)
  /-- No other branch is tried from here on. -/
  | committed
  /-- Fits while somebody to blame is looked for. -/
  | blaming
deriving Repr

/-- A branch of a rule. -/
abbrev Branch := List Pattern × Outcome

instance : Coe String Pattern := ⟨.text⟩

instance : Coe ExprRule Pattern := ⟨fun r => .rule (.expr r)⟩

instance : Coe TargetRule Pattern := ⟨fun r => .rule (.target r)⟩

instance : Coe CaseRule Pattern := ⟨fun r => .rule (.case r)⟩

instance : Coe StatementRule Pattern := ⟨fun r => .rule (.statement r)⟩

namespace Branch

/-- Something of its own. -/
def node (ps : List Pattern) : Branch := (ps, .node)

/-- Something of its own that a value can be bound to. -/
def place (ps : List Pattern) : Branch := (ps, .place)

/-- Nothing but one pattern. -/
def only (p : Pattern) : Branch := ([p], .part 0)

/-- One of the parts counts. -/
def pick (i : Nat) (ps : List Pattern) : Branch := (ps, .part i)

/-- A mistake that is looked for. -/
def wrong (p : Pattern) : Branch := ([.blaming, p], .part 1)

/-- A mistake in the line in which a part starts. -/
def blame (i : Nat) (ps : List Pattern) : Branch := (ps, .blame i)

/-- A mistake in the line of the last token. -/
def blameLast (ps : List Pattern) : Branch := (ps, .blameLast)

/-- A block that is missing behind some parts. -/
def noBlock (ps : List Pattern) : Branch := (ps ++ [.newline, .absent .indent], .blameIndentation)

end Branch

namespace Pattern

/-- Patterns in a row, of which one counts. -/
def row (i : Nat) (ps : List Pattern) : Pattern := .oneOf [(ps, .part i)]

/-- One of some patterns. -/
def either (ps : List Pattern) : Pattern := .oneOf (ps.map Branch.only)

/-- Items with commas between them. -/
def listed (p : Pattern) : Pattern := .separated "," p

end Pattern

end Grammar

end Marginalia
