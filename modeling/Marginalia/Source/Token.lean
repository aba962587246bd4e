/-
Tokens of source texts, and what is wrong with a text that cannot be read.
-/
import Marginalia.Source.Expr

namespace Marginalia

/-- What a token is. -/
inductive TokenKind where
  | name (s : String)
  | keyword (s : String)
  /-- A number; none when it has more digits than can be read. -/
  | number (l : Option Literal)
  /-- A quoted text, with its quotes and the letters before them. -/
  | quoted (cs : List Char)
  | op (s : String)
  | newline
  | indent
  | dedent
  | finish
deriving Repr, Inhabited

/-- A token, where it starts, and how many brackets are open behind it. -/
structure Token where
  kind : TokenKind
  place : Place
  depth : Nat := 0
deriving Repr, Inhabited

/-- What is wrong with a text. -/
inductive SourceFaultKind where
  | malformed
  | indentation
  | tabs
deriving DecidableEq, Repr

namespace SourceFaultKind

/-- The class of error. -/
def label : SourceFaultKind → String
  | malformed => "SyntaxError"
  | indentation => "IndentationError"
  | tabs => "TabError"

end SourceFaultKind

/-- A fault of a text, and the line it is blamed on. -/
structure SourceFault where
  kind : SourceFaultKind := .malformed
  line : Nat
deriving DecidableEq, Repr

/-- A fault met while tokens are taken from a text. -/
structure TokenFault where
  fault : SourceFault
  /-- The fault counts even if the tokens before it cannot be read. -/
  isDecisive : Bool
  /-- The line of the innermost bracket that is still open. -/
  openLine? : Option Nat := none
deriving Repr

/-- The tokens of a text up to its end or to a fault. -/
structure Tokens where
  tokens : Array Token
  fault? : Option TokenFault := none
  /-- Classes, functions and type aliases can have type parameters. -/
  typeParameters : Bool := true

end Marginalia
