/-
Folders and the files in them.

A `Node` is a file with its content or a folder with named entries.  `Node.load` reads the
ignore files of a tree, outer ones first, without entering folders that are ignored by
then; to it a folder that cannot be listed is one whose ignore file cannot be read.
`Node.sources` lists the files with a suffix that are not ignored, in the order of their
paths.
-/
import Marginalia.Content
import Marginalia.Dotted
import Marginalia.Ignore.Matcher

namespace Marginalia

/-- A file or a folder. -/
inductive Node where
  | file (content : FileContent)
  | folder (entries : List (String × Node))

/-- The names from a folder down to something in it. -/
abbrev Path := List String

/-- A path in writing. -/
def Path.text (p : Path) : String := "/".intercalate p

/-- Whether a path stands before another one: names count one by one. -/
def Path.before : Path → Path → Bool
  | [], _ => true
  | _ :: _, [] => false
  | a :: p, b :: q => if a == b then Path.before p q else decide (a < b)

/-- Why the ignore files of a tree cannot be read. -/
inductive LoadFault where
  | unread (f : ReadFault)
  | pattern (f : PatternFault)

namespace Node

/-- The name of files with ignore rules. -/
def ignoreFile : String := ".gitignore"

/-- The name of folders that are always passed over. -/
def historyFolder : String := ".git"

/-- Puts a node under a name; entries are kept in the order of their names. -/
def putEntry (name : String) (n : Node) : List (String × Node) → List (String × Node)
  | [] => [(name, n)]
  | (m, k) :: rest =>
    if name == m then (name, n) :: rest
    else if name < m then (name, n) :: (m, k) :: rest
    else (m, k) :: putEntry name n rest

/-- The entries of a folder. -/
def entries : Node → List (String × Node)
  | file _ => []
  | folder es => es

/-- Puts a node under a path, making the folders on the way. -/
def put : Node → Path → Node → Node
  | _, [], n => n
  | tree, name :: rest, n =>
    let inner := (tree.entries.lookup name).getD (folder [])
    folder (putEntry name (put inner rest n) tree.entries)

/-- What stands under a path. -/
def find? : Node → Path → Option Node
  | n, [] => some n
  | folder es, name :: rest => (es.lookup name).bind (find? · rest)
  | file _, _ :: _ => none

mutual

/-- The number of nodes in a tree. -/
def size : Node → Nat
  | file _ => 1
  | folder es => sizeOfAll es + 1

/-- The number of nodes in some trees. -/
def sizeOfAll : List (String × Node) → Nat
  | [] => 0
  | (_, n) :: es => n.size + sizeOfAll es

end

/-- The suffix of a file name: from the last dot on, unless that is the first or the last
character. -/
def suffixOf (name : String) : String :=
  match Dotted.splitLastChars name.toList with
  | some (a, b) => if a.isEmpty || b.isEmpty then "" else String.ofList ('.' :: b)
  | none => ""

/-- What is passed over: the path, and whether it is a folder. -/
abbrev Skip := Path → Bool → Bool

mutual

/-- The files of a node under a path. -/
def filesOf (suffix : String) (skip : Skip) (at_ : Path) (name : String) :
    Node → List (Path × FileContent)
  | file content =>
    if skip (at_ ++ [name]) false || suffixOf name != suffix then []
    else [(at_ ++ [name], content)]
  | folder es =>
    if name == historyFolder || skip (at_ ++ [name]) true then []
    else filesOfAll suffix skip (at_ ++ [name]) es

/-- The files of some nodes in a folder. -/
def filesOfAll (suffix : String) (skip : Skip) (at_ : Path) :
    List (String × Node) → List (Path × FileContent)
  | [] => []
  | (name, n) :: es => filesOf suffix skip at_ name n ++ filesOfAll suffix skip at_ es

end

/-- The files with a suffix in a folder and below, in the order of their paths. -/
def sources (suffix : String) (skip : Skip) (tree : Node) : List (Path × FileContent) :=
  (filesOfAll suffix skip [] tree.entries).mergeSort fun a b => Path.before a.1 b.1

/-- Passes over what a matcher ignores. -/
def skipIgnored : Option Matcher → Skip
  | none, _, _ => false
  | some m, p, isFolder => m.ignores p.text isFolder

/-- A matcher with the rules of a folder. -/
def withRulesOf (reader : RuleReader) (at_ : Path) (es : List (String × Node)) (m : Matcher) :
    Except LoadFault Matcher :=
  match es.lookup ignoreFile with
  | some (file content) =>
    match textOfContent content with
    | .error f => .error (.unread f)
    | .ok t => (m.extend reader (Lines.split t) at_.text).mapError .pattern
  | _ => .ok m

/-- The folders right below a folder that are entered. -/
def foldersIn (m : Matcher) (at_ : Path) (es : List (String × Node)) :
    List (Path × List (String × Node)) :=
  es.filterMap fun (name, n) => match n with
    | file _ => none
    | folder inner =>
      if name == historyFolder || m.ignores (at_ ++ [name]).text true then none
      else some (at_ ++ [name], inner)

/-- The number of nodes in folders that are still to be entered. -/
def pendingSize : List (Path × List (String × Node)) → Nat
  | [] => 0
  | (_, es) :: rest => sizeOfAll es + 1 + pendingSize rest

theorem sizeOfAll_foldersIn (m : Matcher) (at_ : Path) (es : List (String × Node)) :
    pendingSize (foldersIn m at_ es) ≤ sizeOfAll es := by
  induction es with
  | nil => simp [foldersIn, pendingSize, sizeOfAll]
  | cons e es ih =>
    obtain ⟨name, n⟩ := e
    cases n with
    | file c =>
      simp only [foldersIn, List.filterMap_cons, sizeOfAll, size] at ih ⊢
      omega
    | folder inner =>
      simp only [foldersIn, List.filterMap_cons, sizeOfAll, size] at ih ⊢
      split
      · omega
      · rename_i h
        split at h
        · simp at h
        · simp only [Option.some.injEq] at h
          subst h
          simp only [pendingSize] at ih ⊢
          omega

theorem pendingSize_append (a b : List (Path × List (String × Node))) :
    pendingSize (a ++ b) = pendingSize a + pendingSize b := by
  induction a with
  | nil => simp [pendingSize]
  | cons q a ih => simp only [List.cons_append, pendingSize, ih]; omega

/-- Reads the ignore files of the folders in a queue and of those below, level by level. -/
def loadFrom (reader : RuleReader) (queue : List (Path × List (String × Node))) (m : Matcher) :
    Except LoadFault Matcher :=
  match queue with
  | [] => .ok m
  | (at_, es) :: rest =>
    match withRulesOf reader at_ es m with
    | .error f => .error f
    | .ok m => loadFrom reader (rest ++ foldersIn m at_ es) m
termination_by pendingSize queue
decreasing_by
  have h := sizeOfAll_foldersIn m at_ es
  rw [pendingSize_append]
  simp only [pendingSize] at h ⊢
  omega

/-- Reads the ignore files of a tree. -/
def load (reader : RuleReader) (tree : Node) : Except LoadFault Matcher :=
  match Matcher.ofLines reader [] with
  | .error f => .error (.pattern f)
  | .ok m => loadFrom reader [([], tree.entries)] m

/-- The parts of a path that say where to go. -/
def partsOf (path : String) : Path :=
  (splitChars '/' path.toList).filterMap fun cs =>
    if cs.isEmpty || cs == ['.'] then none else some (String.ofList cs)

/-- A path as messages spell it; two slashes before it stay, more of them do not. -/
def normalText (path : String) : String :=
  let inner := (partsOf path).text
  match path.toList.takeWhile (· == '/') with
  | [] => if inner.isEmpty then "." else inner
  | ['/', '/'] => "//" ++ inner
  | _ => "/" ++ inner

/-- The name that a path gives to what it leads to. -/
def lastName (path : String) : String := (partsOf path).getLast?.getD ""

end Node

end Marginalia
