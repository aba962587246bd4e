/-
Ignore rules of a project.

A `Matcher` holds the lines of all ignore files, those of nested ones rewritten so that
they are about paths from the root, and what they say about paths.  How lines are read is
for a `RuleReader` to say.
-/
import Marginalia.Ignore.Rule

namespace Marginalia

/-- How the lines of an ignore file in the root are read.  They say of a path, in which
folders end with a slash, whether it is ignored, or nothing; or one of them is no pattern. -/
structure RuleReader where
  read : List String → Except PatternFault (List Char → Option Bool)

namespace RuleReader

/-- Paths are looked up without a slash or a dot and a slash before them. -/
def lookupForm : List Char → List Char
  | '/' :: cs => cs
  | '.' :: '/' :: cs => cs
  | cs => cs

/-- The reader that goes by the rules on the lines; later ones take precedence. -/
def documented : RuleReader where
  read lines := (Rule.ofLines lines).map fun rules path => Rule.verdict? rules (lookupForm path)

end RuleReader

/-- The lines of ignore files, and what they say about paths. -/
structure Matcher where
  lines : List String
  verdict : List Char → Option Bool

namespace Matcher

/-- A line of an ignore file in a folder as a line of one in the root.  The path of the
folder is put before the pattern, behind its negation and its leading slash; a name on its
own stays a name at any depth below the folder. -/
def rebase (base line : List Char) : List Char :=
  if base.isEmpty || line.isEmpty || (line.dropWhile isBlank).head? == some '#' then line
  else if ['\\', '!'].isPrefixOf line || ['\\', '#'].isPrefixOf line then line
  else
    let negated := line.head? == some '!'
    let pattern := if negated then line.drop 1 else line
    let anchored := pattern.head? == some '/'
    let pattern := if anchored then pattern.drop 1 else pattern
    let isName := !(pattern.reverse.dropWhile (· == '/')).contains '/'
    let pattern := if !anchored && isName then '*' :: '*' :: '/' :: pattern else pattern
    let below := if pattern.isEmpty then base else base ++ '/' :: pattern
    let below := if anchored then '/' :: below else below
    if negated then '!' :: below else below

/-- Appends the lines of an ignore file in a folder; what they say is not read yet. -/
def add (m : Matcher) (lines : List String) (base : String) : Matcher :=
  { m with lines := m.lines ++
      lines.map fun l => String.ofList (rebase base.toList l.toList) }

/-- The matcher for lines of an ignore file in the root. -/
def ofLines (reader : RuleReader) (lines : List String) : Except PatternFault Matcher :=
  (reader.read lines).map (Matcher.mk lines)

/-- Appends the lines of an ignore file in a folder and reads all lines again. -/
def extend (m : Matcher) (reader : RuleReader) (lines : List String) (base : String) :
    Except PatternFault Matcher :=
  ofLines reader (m.add lines base).lines

/-- Whether a path is ignored; slashes around it do not matter. -/
def ignores (m : Matcher) (path : String) (isFolder : Bool) : Bool :=
  let cs := Search.strip (· == '/') path.toList
  if cs.isEmpty then false
  else (m.verdict (if isFolder then cs ++ ['/'] else cs)).getD false

end Matcher

end Marginalia
