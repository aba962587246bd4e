/-
Expressions as they are written.

An `Expr` is the tree of an expression; each node knows where it starts.
`Expr.walk` lists every node of a tree level by level, the outer ones first,
which is the order in which failures are looked for.
-/
import Marginalia.Location
import Marginalia.Value.Operate

namespace Marginalia

/-- A place in a source text: lines count from one, columns count bytes from zero. -/
structure Place where
  line : Nat
  column : Nat
deriving DecidableEq, Repr, Inhabited

/-- A place of a file. -/
def Place.inFile (p : Place) (file : String) : Location := ⟨file, p.line, p.column⟩

/-- A constant as it is written. -/
inductive Literal where
  | nothing
  | ellipsis
  | bool (b : Bool)
  | int (n : Nat)
  | real (x : Binary64)
  | imaginary (x : Binary64)
  /-- A text; `lettered` when a `u` stands before its quote. -/
  | text (s : String) (lettered : Bool)
  | bytes (bs : List UInt8)
deriving Repr

/-- The value of a constant. -/
def Literal.value : Literal → Value
  | nothing => .nothing
  | ellipsis => .ellipsis
  | bool b => .bool b
  | int n => .int n
  | real x => .float x 0
  | imaginary x => .complex (Binary64.zero false) x 0
  | text s _ => .str s
  | bytes bs => .bytes bs

/-- A question about two values. -/
inductive Relation where
  | equal | unequal
  | order (c : Comparison)
  | among | notAmong
  | same | notSame
deriving DecidableEq, Repr

/-- What a comprehension makes. -/
inductive Gathering where
  | list | set | generator | dict
deriving DecidableEq, Repr

/-- The names of parameters. -/
structure Signature where
  positionalOnly : List String := []
  positional : List String := []
  /-- The parameter that takes the remaining arguments. -/
  others : Option String := none
  keywordOnly : List String := []
  /-- The parameter that takes the remaining arguments by name. -/
  otherKeywords : Option String := none
deriving DecidableEq, Repr

mutual

/-- An expression. -/
inductive Expr where
  | literal (p : Place) (l : Literal)
  | name (p : Place) (id : String)
  | tuple (p : Place) (items : List Expr)
  | list (p : Place) (items : List Expr)
  | set (p : Place) (items : List Expr)
  | dict (p : Place) (entries : List Entry)
  | unary (p : Place) (op : UnaryOp) (operand : Expr)
  | binary (p : Place) (op : BinaryOp) (left right : Expr)
  /-- Operands joined by `and`. -/
  | both (p : Place) (operands : List Expr)
  /-- Operands joined by `or`. -/
  | either (p : Place) (operands : List Expr)
  | comparison (p : Place) (first : Expr) (ops : List Relation) (others : List Expr)
  | conditional (p : Place) (test body otherwise : Expr)
  | access (p : Place) (base : Expr) (name : String)
  | subscript (p : Place) (base index : Expr)
  | slice (p : Place) (start stop step : Option Expr)
  | call (p : Place) (function : Expr) (arguments : List Expr) (keywords : List Keyword)
  | starred (p : Place) (e : Expr)
  | named (p : Place) (target value : Expr)
  | lambda (p : Place) (parameters : Signature) (defaults : List Expr)
      (keywordDefaults : List (Option Expr)) (body : Expr)
  /-- A comprehension; a mapping has two results, key and value. -/
  | gather (p : Place) (kind : Gathering) (results : List Expr) (clauses : List Clause)
  | await (p : Place) (e : Expr)
  | yield (p : Place) (e : Option Expr)
  | yieldFrom (p : Place) (e : Expr)
  /-- A text with replacement fields. -/
  | joined (p : Place) (parts : List Expr)
  /-- A replacement field inside a joined text. -/
  | field (p : Place) (e : Expr) (conversion : Option Char) (spec : Option Expr)

/-- A clause of a comprehension. -/
inductive Clause where
  | mk (isAsync : Bool) (target source : Expr) (conditions : List Expr)

/-- An entry of a mapping: a key with its value, or a mapping to be unpacked. -/
inductive Entry where
  | item (key value : Expr)
  | unpacked (mapping : Expr)

/-- An argument by name, or a mapping to be unpacked. -/
inductive Keyword where
  | given (name : String) (value : Expr)
  | unpacked (mapping : Expr)

end

instance : Inhabited Expr := ⟨.tuple default []⟩

namespace Expr

/-- Where an expression starts. -/
def place : Expr → Place
  | literal p _ | name p _ | tuple p _ | list p _ | set p _ | dict p _ | unary p _ _
  | binary p _ _ _ | both p _ | either p _ | comparison p _ _ _
  | conditional p _ _ _ | access p _ _ | subscript p _ _ | slice p _ _ _ | call p _ _ _
  | starred p _ | named p _ _ | lambda p _ _ _ _ | gather p _ _ _ | await p _ | yield p _
  | yieldFrom p _ | joined p _ | field p _ _ _ => p

/-- The name of a form of expression in refusals. -/
def form : Expr → String
  | literal .. => "Constant"
  | name .. => "Name"
  | tuple .. => "Tuple"
  | list .. => "List"
  | set .. => "Set"
  | dict .. => "Dict"
  | unary .. => "UnaryOp"
  | binary .. => "BinOp"
  | both .. | either .. => "BoolOp"
  | comparison .. => "Compare"
  | conditional .. => "IfExp"
  | access .. => "Attribute"
  | subscript .. => "Subscript"
  | slice .. => "Slice"
  | call .. => "Call"
  | starred .. => "Starred"
  | named .. => "NamedExpr"
  | lambda .. => "Lambda"
  | gather _ .list _ _ => "ListComp"
  | gather _ .set _ _ => "SetComp"
  | gather _ .generator _ _ => "GeneratorExp"
  | gather _ .dict _ _ => "DictComp"
  | await .. => "Await"
  | yield .. => "Yield"
  | yieldFrom .. => "YieldFrom"
  | joined .. => "JoinedStr"
  | field .. => "FormattedValue"

end Expr

/-- Nodes by how deep they stand, the outermost first. -/
abbrev Levels := List (List Expr)

namespace Levels

/-- Two trees side by side. -/
def beside : Levels → Levels → Levels
  | [], ms => ms
  | ls, [] => ls
  | l :: ls, m :: ms => (l ++ m) :: beside ls ms

/-- Trees under a node that is no expression itself. -/
def under (ls : Levels) : Levels := if ls.isEmpty then [] else [] :: ls

end Levels

mutual

/-- The nodes of an expression by depth.  Keywords of calls, parameters and clauses
of comprehensions count as a level of their own. -/
def Expr.levels : Expr → Levels
  | .literal p l => [[.literal p l]]
  | .name p n => [[.name p n]]
  | .tuple p es => [.tuple p es] :: levelsOfAll es
  | .list p es => [.list p es] :: levelsOfAll es
  | .set p es => [.set p es] :: levelsOfAll es
  | .dict p es => [.dict p es] :: (levelsOfKeys es).beside (levelsOfEntryValues es)
  | .unary p op e => [.unary p op e] :: e.levels
  | .binary p op a b => [.binary p op a b] :: a.levels.beside b.levels
  | .both p es => [.both p es] :: levelsOfAll es
  | .either p es => [.either p es] :: levelsOfAll es
  | .comparison p e ops es => [.comparison p e ops es] :: e.levels.beside (levelsOfAll es)
  | .conditional p a b c =>
    [.conditional p a b c] :: a.levels.beside (b.levels.beside c.levels)
  | .access p e n => [.access p e n] :: e.levels
  | .subscript p a b => [.subscript p a b] :: a.levels.beside b.levels
  | .slice p a b c =>
    [.slice p a b c] :: (levelsOfPart a).beside ((levelsOfPart b).beside (levelsOfPart c))
  | .call p f es ks => [.call p f es ks] ::
    f.levels.beside ((levelsOfAll es).beside (levelsOfKeywords ks).under)
  | .starred p e => [.starred p e] :: e.levels
  | .named p a b => [.named p a b] :: a.levels.beside b.levels
  | .lambda p s ds ks e => [.lambda p s ds ks e] ::
    ((levelsOfParts ks).beside (levelsOfAll ds)).under.beside e.levels
  | .gather p k es cs => [.gather p k es cs] ::
    (levelsOfAll es).beside (levelsOfClauses cs).under
  | .await p e => [.await p e] :: e.levels
  | .yield p e => [.yield p e] :: levelsOfPart e
  | .yieldFrom p e => [.yieldFrom p e] :: e.levels
  | .joined p es => [.joined p es] :: levelsOfAll es
  | .field p e c s => [.field p e c s] :: e.levels.beside (levelsOfPart s)

/-- The nodes of several expressions by depth. -/
def levelsOfAll : List Expr → Levels
  | [] => []
  | e :: es => e.levels.beside (levelsOfAll es)

/-- The nodes of a part that may be left out. -/
def levelsOfPart : Option Expr → Levels
  | none => []
  | some e => e.levels

/-- The nodes of several such parts. -/
def levelsOfParts : List (Option Expr) → Levels
  | [] => []
  | e :: es => (levelsOfPart e).beside (levelsOfParts es)

/-- The nodes of the keys of a mapping. -/
def levelsOfKeys : List Entry → Levels
  | [] => []
  | .item k _ :: es => k.levels.beside (levelsOfKeys es)
  | .unpacked _ :: es => levelsOfKeys es

/-- The nodes of the values of a mapping and of the mappings unpacked in it. -/
def levelsOfEntryValues : List Entry → Levels
  | [] => []
  | .item _ v :: es => v.levels.beside (levelsOfEntryValues es)
  | .unpacked m :: es => m.levels.beside (levelsOfEntryValues es)

/-- The nodes of arguments by name. -/
def levelsOfKeywords : List Keyword → Levels
  | [] => []
  | .given _ v :: ks => v.levels.beside (levelsOfKeywords ks)
  | .unpacked m :: ks => m.levels.beside (levelsOfKeywords ks)

/-- The nodes of a clause. -/
def Clause.levels : Clause → Levels
  | .mk _ t s cs => t.levels.beside (s.levels.beside (levelsOfAll cs))

/-- The nodes of several clauses. -/
def levelsOfClauses : List Clause → Levels
  | [] => []
  | c :: cs => c.levels.beside (levelsOfClauses cs)

end

/-- The value of an argument by name, or the mapping that is unpacked. -/
def Keyword.value : Keyword → Expr
  | given _ v => v
  | unpacked m => m

namespace Expr

/-- Every node of an expression, the outer ones first, else left to right. -/
def walk (e : Expr) : List Expr := e.levels.flatten

/-- The name an expression ends with, if it is a name or reads an attribute. -/
def lastName? : Expr → Option String
  | name _ n => some n
  | access _ _ n => some n
  | _ => none

/-- The dotted name an expression spells, if it does. -/
def dottedName? : Expr → Option String
  | name _ n => some n
  | access _ e n => e.dottedName?.map fun base => base ++ "." ++ n
  | _ => none

/-- Whether an expression is a call of something that ends with a name. -/
def isCallTo (n : String) : Expr → Bool
  | call _ f _ _ => f.lastName? == some n
  | _ => false

end Expr

end Marginalia
