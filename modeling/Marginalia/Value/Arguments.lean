/-
Arguments of calls.

A call hands over values by place and by name.  The functions here bring them
to the parameters of what is called, or say which argument is missing, unknown
or one too many.
-/
import Marginalia.Fault

namespace Marginalia

/-- What a call hands over; no name occurs twice. -/
structure Arguments where
  positional : List Value
  named : List (String × Value) := []

namespace Arguments

/-- How many arguments there are. -/
def count (a : Arguments) : Nat := a.positional.length + a.named.length

/-- Refuses arguments by name. -/
def onlyPositional (a : Arguments) (function : String) : Except Fault (List Value) :=
  if a.named.isEmpty then .ok a.positional
  else .error (.typeError (function ++ "() takes no keyword arguments"))

/-- An `s` unless there is one of something. -/
def plural (n : Nat) : String := if n = 1 then "" else "s"

/-- Refuses fewer or more arguments than a function expects. -/
def expected (vs : List Value) (function : String) (least most : Nat) : Except Fault Unit :=
  let n := vs.length
  if n < least then
    .error (.typeError (function ++ " expected at least " ++ toString least ++ " argument" ++
      plural least ++ ", got " ++ toString n))
  else if n > most then
    .error (.typeError (function ++ " expected at most " ++ toString most ++ " argument" ++
      plural most ++ ", got " ++ toString n))
  else .ok ()

/-- The same, in the words of functions that take positions in a text. -/
def takes (vs : List Value) (function : String) (least most : Nat) : Except Fault Unit :=
  let n := vs.length
  if n < least then
    .error (.typeError (function ++ "() takes at least " ++ toString least ++ " argument" ++
      plural least ++ " (" ++ toString n ++ " given)"))
  else if n > most then
    .error (.typeError (function ++ "() takes at most " ++ toString most ++ " argument" ++
      plural most ++ " (" ++ toString n ++ " given)"))
  else .ok ()

/-- The only argument of a function that takes exactly one. -/
def exactlyOne (a : Arguments) (function : String) : Except Fault Value := do
  match ← a.onlyPositional function with
  | [v] => return v
  | vs => throw (.typeError (function ++ "() takes exactly one argument (" ++
      toString vs.length ++ " given)"))

/-- Refuses any argument. -/
def none (a : Arguments) (function : String) : Except Fault Unit := do
  match ← a.onlyPositional function with
  | [] => return ()
  | vs => throw (.typeError (function ++ "() takes no arguments (" ++
      toString vs.length ++ " given)"))

/-- Refuses so many arguments by place, and arguments of these names, for parameters that can be
given by place or by name; those without a name only by place.  The first so many are required,
and only so many can be given by place. -/
def checkFill (function : String) (parameters : List String) (required mostPlaces given : Nat)
    (names : List String) : Except Fault Unit := do
  let most := parameters.length
  let count := given + names.length
  if count > most then
    throw (.typeError (function ++ "() takes at most " ++ toString most ++
      (if given = 0 then " keyword argument" else " argument") ++
      plural most ++ " (" ++ toString count ++ " given)"))
  if given > mostPlaces then
    throw (.typeError (function ++ "() takes at most " ++ toString mostPlaces ++
      " positional argument" ++ plural mostPlaces ++ " (" ++ toString given ++ " given)"))
  for (name, i) in parameters.zipIdx do
    if given ≤ i && i < required && !names.contains name then
      throw (.typeError (function ++ "() missing required argument '" ++ name ++ "' (pos " ++
        toString (i + 1) ++ ")"))
  for (name, i) in parameters.zipIdx do
    if !name.isEmpty && i < given && names.contains name then
      throw (.typeError ("argument for " ++ function ++ "() given by name ('" ++ name ++
        "') and position (" ++ toString (i + 1) ++ ")"))
  for name in names do
    if name.isEmpty || !parameters.contains name then
      throw (.typeError ("'" ++ name ++ "' is an invalid keyword argument for " ++ function ++ "()"))

/-- Brings arguments to parameters, if they fit. -/
def fill (a : Arguments) (function : String) (parameters : List String)
    (required mostPlaces : Nat) : Except Fault (List (Option Value)) := do
  checkFill function parameters required mostPlaces a.positional.length (a.named.map Prod.fst)
  return parameters.zipIdx.map fun p => a.positional[p.2]?.or (a.named.lookup p.1)

/-- Brings arguments to parameters none of which is required. -/
def optional (a : Arguments) (function : String) (parameters : List String) :
    Except Fault (List (Option Value)) :=
  a.fill function parameters 0 parameters.length

/-- A parameter of a function, with the value it has when none is given. -/
structure Parameter where
  name : String
  default? : Option Value

/-- Names one after the other, in quotes. -/
def listed : List String → String
  | [] => ""
  | [a] => quoted a
  | [a, b] => quoted a ++ " and " ++ quoted b
  | names =>
    ", ".intercalate (names.dropLast.map quoted) ++ ", and " ++ quoted (names.getLast?.getD "")

/-- Puts arguments given by name into the places of their parameters. -/
def placeNamed (function : String) (parameters : List Parameter) :
    List (String × Value) → List (Option Value) → Except Fault (List (Option Value))
  | [], places => .ok places
  | (name, v) :: rest, places =>
    match parameters.findIdx? fun p => p.name == name with
    | Option.none =>
      .error (.typeError (function ++ "() got an unexpected keyword argument '" ++ name ++ "'"))
    | some i =>
      match places[i]? with
      | some (some _) =>
        .error (.typeError (function ++ "() got multiple values for argument '" ++ name ++ "'"))
      | _ => placeNamed function parameters rest (places.set i (some v))

/-- The refusal of too many arguments by place; of a constructor, what is made counts as
the first.  Arguments that only a name can give are told apart. -/
def tooMany (function : String) (parameters : List Parameter) (hidden given named : Nat) :
    Fault :=
  let most := parameters.length + hidden
  let least := most - (parameters.filter fun p => p.default?.isSome).length
  let range := if least < most then "from " ++ toString least ++ " to " ++ toString most
    else toString most
  let s := if least < most then "s" else plural most
  let given := given + hidden
  let aside := if named = 0 then "" else " positional argument" ++ plural given ++ " (and " ++
    toString named ++ " keyword-only argument" ++ plural named ++ ")"
  .typeError (function ++ "() takes " ++ range ++ " positional argument" ++ s ++ " but " ++
    toString given ++ aside ++ (if given = 1 ∧ named = 0 then " was given" else " were given"))

/-- What parameters are filled with by name, their own values where nothing is given. -/
def filled (parameters : List Parameter) (places : List (Option Value)) :
    List (String × Option Value) :=
  (parameters.zip places).map fun e => (e.1.name, e.2.or e.1.default?)

/-- The names of parameters that have no value. -/
def missing (filled : List (String × Option Value)) : List String :=
  (filled.filter fun e => e.2.isNone).map Prod.fst

/-- The values of parameters, if each has one. -/
def complete (function : String) (filled : List (String × Option Value)) :
    Except Fault (List Value) :=
  let names := missing filled
  if names.isEmpty then .ok (filled.filterMap Prod.snd)
  else .error (.typeError (function ++ "() missing " ++ toString names.length ++
    " required positional argument" ++ plural names.length ++ ": " ++ listed names))

/-- Brings arguments to parameters, before which some are hidden; arguments of the names
`aside` are taken and not used. -/
def bindBehind (hidden : Nat) (a : Arguments) (function : String) (parameters : List Parameter)
    (aside : List String) : Except Fault (List Value) := do
  let start := (List.range parameters.length).map fun i => a.positional[i]?
  let unused := a.named.filter fun e => aside.contains e.1
  let places ← placeNamed function parameters (a.named.filter fun e => !aside.contains e.1) start
  if a.positional.length > parameters.length then
    throw (tooMany function parameters hidden a.positional.length unused.length)
  complete function (filled parameters places)

/-- Brings arguments to the parameters of a constructor. -/
def bind (a : Arguments) (function : String) (parameters : List Parameter) :
    Except Fault (List Value) := a.bindBehind 1 function parameters []

/-- The same for a constructor that takes some names and does not use what they give. -/
def bindBeside (a : Arguments) (function : String) (parameters : List Parameter)
    (aside : List String) : Except Fault (List Value) := a.bindBehind 1 function parameters aside

/-- Brings arguments to the parameters of a function that belongs to no class. -/
def bindFree (a : Arguments) (function : String) (parameters : List Parameter) :
    Except Fault (List Value) := a.bindBehind 0 function parameters []

end Arguments

end Marginalia
