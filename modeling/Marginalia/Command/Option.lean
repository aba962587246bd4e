/-
Options of a command line.

Words that start with a dash name options, in full or by a beginning that fits one name
only; a value follows an equals sign or is the next word.  `classify` tells what a word is
to a set of options, and `readOptions` collects the values that words give.
-/
import Marginalia.Text.Digits
import Marginalia.Text.Quoted

namespace Marginalia

/-- What is wrong with the words of a command line. -/
inductive UsageFault where
  /-- A beginning that fits several options. -/
  | ambiguous (word : String) (names : List String)
  | valueMissing (option : String)
  | valueIgnored (option value : String)
  | notAmong (option value : String) (choices : List String)
  | missing (options : List String)
  /-- Words that nothing asks for. -/
  | unknown (words : List String)
deriving DecidableEq, Repr

namespace UsageFault

/-- The sentence for a fault. -/
def message : UsageFault → String
  | ambiguous w names => "ambiguous option: " ++ w ++ " could match " ++ ", ".intercalate names
  | valueMissing o => "argument " ++ o ++ ": expected one argument"
  | valueIgnored o v => "argument " ++ o ++ ": ignored explicit argument " ++ quoted v
  | notAmong o v cs => "argument " ++ o ++ ": invalid choice: " ++ quoted v ++
      " (choose from " ++ ", ".intercalate (cs.map quoted) ++ ")"
  | missing os => "the following arguments are required: " ++ ", ".intercalate os
  | unknown ws => "unrecognized arguments: " ++ " ".intercalate ws

end UsageFault

/-- What an option takes. -/
inductive Takes where
  | nothing
  | anyValue
  | oneOf (choices : List String)
deriving DecidableEq, Repr

/-- An option. -/
structure OptionRule where
  name : String
  takes : Takes
  required : Bool := false
deriving DecidableEq, Repr

/-- The option that asks for help; it has a short name as well. -/
def helpOption : OptionRule := ⟨"--help", .nothing, false⟩

/-- The short name of the option that asks for help. -/
def shortHelp : String := "-h"

/-- The option that asks for help, as messages name it. -/
def helpLabel : String := shortHelp ++ "/" ++ helpOption.name

/-- What a word of a command line is. -/
inductive WordRole where
  | operand
  /-- An option, with what follows its equals sign. -/
  | option (rule : OptionRule) (value : Option String)
  /-- The short name for help, with what follows it and whether an equals sign stands between. -/
  | shortHelp (value : Option String) (equals : Bool)
  | unknown
deriving DecidableEq, Repr

namespace Options

/-- Parts a word at its first equals sign. -/
def splitEquals (w : String) : String × Option String :=
  let name := w.toList.takeWhile (· != '=')
  let rest := w.toList.drop name.length
  (String.ofList name, if rest.isEmpty then none else some (String.ofList (rest.drop 1)))

/-- Whether a word is a number below zero. -/
def isNegativeNumber (w : String) : Bool :=
  match w.toList with
  | '-' :: cs =>
    let isDigit (c : Char) := (digitValue? c).isSome
    let whole := cs.takeWhile isDigit
    match cs.drop whole.length with
    | [] => !whole.isEmpty
    | '.' :: ds => !ds.isEmpty && ds.all isDigit
    | _ => false
  | _ => false

/-- What a word with a dash is that names no option. -/
def roleOfOther (w : String) : WordRole :=
  if isNegativeNumber w || w.toList.contains ' ' then .operand else .unknown

/-- What a word is that starts with two dashes. -/
def roleOfLong (rules : List OptionRule) (w : String) : Except UsageFault WordRole :=
  let (name, value) := splitEquals w
  match rules.find? fun r => r.name == name with
  | some r => .ok (.option r value)
  | none =>
    match rules.filter fun r => name.toList.isPrefixOf r.name.toList with
    | [] => .ok (roleOfOther w)
    | [r] => .ok (.option r value)
    | rs => .error (.ambiguous w (rs.map OptionRule.name))

/-- What a word is. -/
def classify (rules : List OptionRule) (w : String) : Except UsageFault WordRole :=
  match w.toList with
  | '-' :: '-' :: _ => roleOfLong rules w
  | ['-', 'h'] => .ok (.shortHelp none false)
  | '-' :: 'h' :: '=' :: cs => .ok (.shortHelp (some (String.ofList cs)) true)
  | '-' :: 'h' :: cs => .ok (.shortHelp (some (String.ofList cs)) false)
  | ['-'] => .ok .operand
  | '-' :: _ => .ok (roleOfOther w)
  | _ => .ok .operand

/-- The word behind which all words are operands. -/
def separator : String := "--"

/-- The words of a command line with their roles.  The separator and the words behind it
have none. -/
def classifyAll (rules : List OptionRule) (ws : List String) :
    Except UsageFault (List (String × WordRole)) :=
  (ws.takeWhile (· != separator)).mapM fun w => do return (w, ← classify rules w)

/-- The value that follows the short name for help although it takes none; other short
names may follow it. -/
def valueBehindShortHelp : List Char → Option String
  | [] => none
  | '-' :: cs => some (String.ofList ('-' :: cs))
  | 'h' :: '=' :: cs => some (String.ofList cs)
  | 'h' :: cs => valueBehindShortHelp cs
  | _ => none

end Options

/-- What came out of the words of a command. -/
structure Settings where
  /-- The options that were given, the last one first, with their values. -/
  values : List (String × String) := []
  /-- The words that nothing asks for, the last one first. -/
  unknown : List String := []
deriving Repr

/-- Why words give no settings. -/
inductive Interruption where
  | help
  | fault (f : UsageFault)
deriving DecidableEq, Repr

namespace Settings

/-- The value of an option. -/
def value? (s : Settings) (name : String) : Option String := s.values.lookup name

/-- Whether an option was given. -/
def has (s : Settings) (name : String) : Bool := (s.value? name).isSome

/-- Adds an option with its value. -/
def give (s : Settings) (name value : String) : Settings :=
  { s with values := (name, value) :: s.values }

/-- Adds a word that nothing asks for. -/
def leave (s : Settings) (w : String) : Settings := { s with unknown := w :: s.unknown }

/-- Gives a value to an option, if it may have that one. -/
def set (s : Settings) (r : OptionRule) (value : String) : Except Interruption Settings :=
  match r.takes with
  | .nothing => .error (.fault (.valueIgnored r.name value))
  | .anyValue => .ok (s.give r.name value)
  | .oneOf choices =>
    if value ∈ choices then .ok (s.give r.name value)
    else .error (.fault (.notAmong r.name value choices))

end Settings

namespace Options

/-- What asking for help by its short name leads to. -/
def askForHelp (value : Option String) (equals : Bool) : Interruption :=
  match value with
  | none => .help
  | some v =>
    if equals then .fault (.valueIgnored helpLabel v)
    else match valueBehindShortHelp v.toList with
      | some v => .fault (.valueIgnored helpLabel v)
      | none => .help

/-- Collects what words with roles give; operands are words that nothing asks for. -/
def collect : List (String × WordRole) → Settings → Except Interruption Settings
  | [], s => .ok s
  | (w, .operand) :: ws, s => collect ws (s.leave w)
  | (w, .unknown) :: ws, s => collect ws (s.leave w)
  | (_, .shortHelp v equals) :: _, _ => .error (askForHelp v equals)
  | (_, .option r (some v)) :: ws, s =>
    if r = helpOption then .error (.fault (.valueIgnored helpLabel v))
    else match s.set r v with
      | .ok s => collect ws s
      | .error i => .error i
  | (_, .option r none) :: ws, s =>
    if r = helpOption then .error .help
    else
      match r.takes, ws with
      | .nothing, ws => collect ws (s.give r.name "")
      | _, (v, .operand) :: ws =>
        match s.set r v with
        | .ok s => collect ws s
        | .error i => .error i
      | _, _ => .error (.fault (.valueMissing r.name))

/-- Reads the words of a command that has options only. -/
def readOptions (rules : List OptionRule) (ws : List String) : Except Interruption Settings := do
  let roles ← (classifyAll rules ws).mapError .fault
  let s ← collect roles {}
  let s := (ws.drop roles.length).foldl Settings.leave s
  match (rules.filter fun r => r.required && !s.has r.name).map OptionRule.name with
  | [] => return s
  | names => throw (.fault (.missing names))

end Options

end Marginalia
