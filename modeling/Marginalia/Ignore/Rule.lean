/-
Rules of ignore files.

A line of an ignore file is a `Rule` or says nothing.  Its pattern is matched against
whole paths, in which folders end with a slash: a `Hit` is direct when the path itself
is meant, and through a folder when a folder above it is.
-/
import Marginalia.Ignore.Glob
import Marginalia.Text.Quoted
import Marginalia.Text.Search

namespace Marginalia

/-- How a rule applies to a path. -/
inductive Hit where
  | direct
  | throughFolder
deriving DecidableEq, Repr

/-- A step through a path. -/
inductive PathStep where
  | part (g : GlobPart)
  /-- A whole name. -/
  | name
  | slash
  /-- Any folders at the start, or none. -/
  | foldersBefore
  /-- Any folders in between, or none. -/
  | foldersBetween
deriving DecidableEq, Repr

/-- What has to be left of a path behind the steps. -/
inductive PathEnd where
  /-- Nothing; or the path goes on below. -/
  | entry
  /-- Something below; `isFolder` when the pattern is about folders only. -/
  | below (isFolder : Bool)
deriving DecidableEq, Repr

/-- Which paths a rule is about. -/
inductive PathShape where
  | steps (ss : List PathStep) (e : PathEnd)
  | everything
  /-- All folders and what is in them. -/
  | folders (isFolder : Bool)
deriving DecidableEq, Repr

/-- How the rest of a path is hit. -/
abbrev Continuation := List Char → Option Hit

/-- Takes as many characters as possible up to a slash. -/
def takeRun (k : Continuation) : Continuation
  | [] => k []
  | c :: cs => if c == '/' then k (c :: cs) else (takeRun k cs).or (k (c :: cs))

/-- Takes as many characters as possible that end with a slash, all on one line. -/
def takeFolders (k : Continuation) : Continuation
  | [] => none
  | c :: cs =>
    (if c == '\n' then none else takeFolders k cs).or (if c == '/' then k cs else none)

/-- Takes as many characters of a line as possible. -/
def takeAny (k : Continuation) : Continuation
  | [] => k []
  | c :: cs => (if c == '\n' then none else takeAny k cs).or (k (c :: cs))

/-- Takes a step and goes on; of several ways, the one that takes most comes first. -/
def PathStep.take (s : PathStep) (k : Continuation) : Continuation := fun path =>
  match s, path with
  | part .run, cs => takeRun k cs
  | part g, c :: cs => if g.accepts c then k cs else none
  | part _, [] => none
  | name, c :: cs => if c == '/' then none else takeRun k cs
  | name, [] => none
  | slash, c :: cs => if c == '/' then k cs else none
  | slash, [] => none
  | foldersBefore, [] => k []
  | foldersBefore, c :: cs => (if c == '\n' then none else takeFolders k cs).or (k (c :: cs))
  | foldersBetween, '/' :: c :: cs =>
    (if c == '\n' then none else takeAny k cs).or (k ('/' :: c :: cs))
  | foldersBetween, cs => k cs

/-- A step in an expression. -/
def PathStep.text : PathStep → List Char
  | part g => g.text
  | name => "[^/]+".toList
  | slash => ['/']
  | foldersBefore => "^(?:.+/)?".toList
  | foldersBetween => "(?:/.+)?".toList

/-- The first range in steps that ends before it starts; `position` is that of the steps. -/
def PathStep.fault? (position : Nat) : List PathStep → Option RangeFault
  | [] => none
  | s :: ss =>
    let here := match s with
      | part g => g.fault? position
      | _ => none
    here.or (fault? (position + s.text.length) ss)

/-- Whether what is left of a path is as it has to be; a line feed at the end does not
count. -/
def PathEnd.hit? : PathEnd → Continuation
  | entry, [] => some .direct
  | entry, ['\n'] => some .direct
  | entry, c :: _ => if c == '/' then some .throughFolder else none
  | below isFolder, c :: _ =>
    if c == '/' then some (if isFolder then .throughFolder else .direct) else none
  | below _, [] => none

/-- How a shape applies to a path, if it does. -/
def PathShape.hit? : PathShape → List Char → Option Hit
  | steps ss e, cs => ss.foldr PathStep.take e.hit? cs
  | everything, cs => if cs.all (· == '\n') then none else some .direct
  | folders isFolder, cs =>
    if cs.contains '/' then some (if isFolder then .throughFolder else .direct) else none

/-- A line of an ignore file; a negated one takes paths back in. -/
structure Rule where
  negated : Bool
  shape : PathShape
deriving DecidableEq, Repr

/-- Why a line is no pattern. -/
inductive PatternFault where
  | malformed (line : String)
  /-- A range that ends before it starts, and the lines of the expression up to it when the
  expression has several. -/
  | range (f : RangeFault) (lines : Option (Nat × Nat))
deriving DecidableEq, Repr

namespace PatternFault

/-- The class of error. -/
def kind : PatternFault → String
  | malformed _ => "GitIgnorePatternError"
  | range .. => "error"

/-- The sentence for a line that is no pattern. -/
def message : PatternFault → String
  | malformed line => "Invalid git pattern: " ++ quoted line
  | range f lines =>
    "bad character range " ++ String.ofList (GlobSet.entryText (f.first, some f.last)) ++
      " at position " ++ toString f.position ++
      match lines with
      | some (l, c) => " (line " ++ toString l ++ ", column " ++ toString c ++ ")"
      | none => ""

end PatternFault

namespace Rule

/-- The name that stands for any folders. -/
def anyFolders : List Char := ['*', '*']

/-- The line without blanks at the end, unless the last one is escaped. -/
def trimmed (cs : List Char) : List Char :=
  if ['\\', ' '].isSuffixOf cs then cs else (cs.reverse.dropWhile isBlank).reverse

/-- Leaves one of adjacent names that stand for any folders. -/
def collapse : List (List Char) → List (List Char)
  | [] => []
  | s :: rest =>
    let done := collapse rest
    if s == anyFolders && done.head? == some anyFolders then done else s :: done

/-- The names of a pattern: a name on its own is looked for in any folder, and a
slash at the end stands for what is below. -/
def names (segments : List (List Char)) : List (List Char) :=
  let segments := match segments with
    | [] :: rest => rest
    | [s] => if s == anyFolders then [s] else [anyFolders, s]
    | [s, []] => if s == anyFolders then [s, []] else [anyFolders, s, []]
    | all => all
  let closed := match segments.getLast? with
    | some [] => segments.dropLast ++ [anyFolders]
    | _ => segments
  collapse closed

/-- The steps of names and what follows them; `inside` when a name came before. -/
def stepsOf (isFolder : Bool) : Bool → List (List Char) →
    Except GlobFault (List PathStep × PathEnd)
  | _, [] => .ok ([], .entry)
  | inside, s :: rest =>
    if s == anyFolders then
      if rest.isEmpty then .ok ([], .below isFolder)
      else do
        let (ss, e) ← stepsOf isFolder inside rest
        return ((if inside then .foldersBetween else .foldersBefore) :: ss, e)
    else do
      let parts ← if s == ['*'] then .ok [PathStep.name]
        else (GlobPart.ofChars s).map fun gs => gs.map PathStep.part
      let (ss, e) ← stepsOf isFolder true rest
      return ((if inside then [.slash] else []) ++ parts ++ ss, e)

/-- The shape of a pattern. -/
def shapeOf (isFolder : Bool) (names : List (List Char)) : Except GlobFault PathShape :=
  if names == [anyFolders] then .ok (if isFolder then .folders true else .everything)
  else if names == [anyFolders, ['*']] then .ok .everything
  else if names == [anyFolders, ['*'], anyFolders] then .ok (.folders isFolder)
  else do
    let (ss, e) ← stepsOf isFolder false names
    return .steps ss e

/-- The expression for steps, which starts at the start of a path. -/
def expression (ss : List PathStep) : List Char :=
  let text := ss.flatMap PathStep.text
  if ss.head? == some .foldersBefore then text else '^' :: text

/-- The line and the column of a position in a text of several lines. -/
def lineAndColumn? (text : List Char) (position : Nat) : Option (Nat × Nat) :=
  if text.contains '\n' then
    let before := text.take position
    let column := (before.reverse.takeWhile (· != '\n')).length
    some (before.count '\n' + 1, column + 1)
  else none

/-- The fault of a range in a shape. -/
def rangeFault? : PathShape → Option PatternFault
  | .steps ss _ =>
    let start := if ss.head? == some .foldersBefore then 0 else 1
    (PathStep.fault? start ss).map fun f => .range f (lineAndColumn? (expression ss) f.position)
  | _ => none

/-- The rule on a line; blank lines, comments, lone slashes and lines with an opening bracket
that is not closed hold none. -/
def ofLine (line : String) : Except PatternFault (Option Rule) :=
  let cs := trimmed line.toList
  if cs.isEmpty || cs.head? == some '#' then .ok none
  else
    let negated := cs.head? == some '!'
    let pattern := if negated then cs.drop 1 else cs
    let segments := splitChars '/' pattern
    let isFolder := segments.getLast? == some []
    let names := names segments
    if pattern == ['/'] then .ok none
    else if names.isEmpty then .error (.malformed line)
    else match shapeOf isFolder names with
      | .error .unclosed => .ok none
      | .error .dangling => .error (.malformed line)
      | .ok shape => match rangeFault? shape with
        | some f => .error f
        | none => .ok (some { negated, shape })

/-- The rules on some lines. -/
def ofLines : List String → Except PatternFault (List Rule)
  | [] => .ok []
  | l :: ls => do
    let r ← ofLine l
    return r.toList ++ (← ofLines ls)

/-- How a rule applies to a path, if it does. -/
def hit? (r : Rule) (path : List Char) : Option Hit := r.shape.hit? path

/-- What rules say about a path: the last one with a direct hit decides, else the last one
with a hit.  A path is ignored unless the rule is negated. -/
def verdict? (rules : List Rule) (path : List Char) : Option Bool :=
  let last (h : Hit) := (rules.reverse.find? fun r => r.hit? path == some h).map fun r => !r.negated
  (last .direct).or (last .throughFolder)

end Rule

end Marginalia
