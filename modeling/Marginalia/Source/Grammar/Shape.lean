/-
What has been read of a text, as far as the blame for a mistake depends on it.
-/
import Marginalia.Source.Grammar.Pattern

namespace Marginalia

namespace Grammar

/-- What has been read; everything of its own knows the line in which it starts. -/
inductive Shape where
  | nothing
  | node (line : Nat)
  | name (line : Nat) (id : String)
  /-- Something else that a value can be bound to. -/
  | place (line : Nat)
  /-- Items that can be bound to one by one. -/
  | items (line : Nat) (parts : List Shape)
  | starred (line : Nat) (inner : Shape)
  | comparison (line : Nat) (isMembership : Bool) (left : Shape)
  /-- Arguments of a call without names. -/
  | arguments (line : Nat) (positional : List Shape)
  /-- Things side by side. -/
  | several (parts : List Shape)
deriving Inhabited

namespace Shape

/-- The line in which something starts. -/
def line : Shape → Nat
  | nothing | several [] => 0
  | several (s :: _) => s.line
  | node n | name n _ | place n | items n _ | starred n _ | comparison n _ _ | arguments n _ => n

/-- Things side by side, one by one. -/
def parts : Shape → List Shape
  | nothing => []
  | several ss => ss
  | s => [s]

/-- Whether something is starred. -/
def isStarred : Shape → Bool
  | starred .. => true
  | _ => false

/-- Whether something is a word of a former statement. -/
def isFormerStatement : Shape → Bool
  | name _ id => ["print", "exec"].contains id
  | _ => false

mutual

/-- The line of the first thing inside something that nothing can be bound to. -/
def unfit? (use : TargetUse) : Shape → Option Nat
  | name .. | place _ => none
  | items _ ss => firstUnfit? use ss
  | starred n s => if use = .deletion then some n else unfit? use s
  | comparison n isMembership left =>
    if use ≠ .loop then some n else if isMembership then unfit? use left else none
  | s => some s.line

/-- The same for several things. -/
def firstUnfit? (use : TargetUse) : List Shape → Option Nat
  | [] => none
  | s :: ss => (unfit? use s).or (firstUnfit? use ss)

end

end Shape

end Grammar

end Marginalia
