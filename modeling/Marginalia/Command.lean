/-
Commands on projects.

`dump` reports every annotation of a project and `query` those of one declaration.
`Command.ofWords` reads a command line, and `Command.run` carries a command out on the
folder that its path leads to.  The language of the sources and the packages that read
ignore rules and print are for an `Installation` to say.
-/
import Marginalia.Command.Option
import Marginalia.Disk
import Marginalia.Project
import Marginalia.Report

namespace Marginalia

/-- What commands rely on: the language of the sources, what reads ignore rules, and what prints. -/
structure Installation where
  language : Language := {}
  ruleReader : RuleReader := .documented
  screen : Screen := .documented

/-- How the sources of projects are analysed. -/
def Installation.analyzer (i : Installation) : Analyzer := { host := { language := i.language } }

/-- The forms of a report. -/
inductive ReportForm where
  | table
  /-- To a file, if one is named. -/
  | json (file : Option String)
deriving DecidableEq, Repr

/-- What is asked of a project. -/
inductive Demand where
  | dump (form : ReportForm)
  | query (declaration : String) (type : Option String)
deriving DecidableEq, Repr

/-- A command on the project under a path. -/
structure Command where
  path : String
  demand : Demand
  /-- Whether the ignore files of the project count. -/
  heedsIgnored : Bool := true
deriving DecidableEq, Repr

/-- The forms that a command line can have. -/
inductive CommandForm where
  | dump
  | query
deriving DecidableEq, Repr

namespace CommandForm

/-- The word for a command. -/
def word : CommandForm → String
  | dump => "dump"
  | query => "query"

/-- All of them. -/
def all : List CommandForm := [dump, query]

/-- The options of a command. -/
def options : CommandForm → List OptionRule
  | dump => [helpOption, ⟨"--path", .anyValue, true⟩, ⟨"--format", .oneOf ["table", "json"], false⟩,
      ⟨"--output", .anyValue, false⟩, ⟨"--no-gitignore", .nothing, false⟩]
  | query => [helpOption, ⟨"--path", .anyValue, true⟩, ⟨"--declaration", .anyValue, true⟩,
      ⟨"--type", .anyValue, false⟩, ⟨"--no-gitignore", .nothing, false⟩]

end CommandForm

/-- Why words make no command; without a form the words before the command are meant. -/
structure Refused where
  form : Option CommandForm
  why : Interruption
deriving DecidableEq, Repr

namespace Command

/-- The options before the command. -/
def generalOptions : List OptionRule := [helpOption, ⟨"--verbose", .nothing, false⟩]

/-- A text, if there is any. -/
def given (s : Option String) : Option String := s.filter (!·.isEmpty)

/-- The command that settings ask for. -/
def ofSettings (form : CommandForm) (s : Settings) : Command where
  path := (s.value? "--path").getD ""
  demand := match form with
    | .dump =>
      .dump (if s.value? "--format" == some "json" then .json (given (s.value? "--output"))
        else .table)
    | .query => .query ((s.value? "--declaration").getD "") (given (s.value? "--type"))
  heedsIgnored := !s.has "--no-gitignore"

/-- Reads the words from the command on; `unknown` are words before it that nothing asks
for. -/
def ofForm (unknown : List String) (word : String) (ws : List String) :
    Except Refused Command :=
  let refuse (form : Option CommandForm) (f : UsageFault) : Except Refused Command :=
    .error ⟨form, .fault f⟩
  match CommandForm.all.find? fun f => f.word == word with
  | none => refuse none (.notAmong "command" word (CommandForm.all.map CommandForm.word))
  | some form =>
    match Options.readOptions form.options ws with
    | .error i => .error ⟨some form, i⟩
    | .ok s =>
      match unknown ++ s.unknown.reverse with
      | [] => .ok (ofSettings form s)
      | ws => refuse none (.unknown ws)

/-- The words before the first operand, with their roles, and the words from it on. -/
def splitGeneral (roles : List (String × WordRole)) (ws : List String) :
    List (String × WordRole) × List String :=
  let general := roles.takeWhile fun r => r.2 != .operand
  (general, ws.drop general.length)

/-- Reads a command line. -/
def ofWords (ws : List String) : Except Refused Command := do
  let plain (i : Interruption) : Refused := ⟨none, i⟩
  let roles ← (Options.classifyAll generalOptions ws).mapError fun f => plain (.fault f)
  let (general, rest) := splitGeneral roles ws
  let s ← (Options.collect general {}).mapError plain
  match rest with
  | [] => throw (plain (.fault (.missing ["command"])))
  | [w] =>
    if w == Options.separator then throw (plain (.fault (.missing ["command"])))
    else ofForm s.unknown.reverse w []
  | w :: ws => ofForm s.unknown.reverse w ws

/-- What a command leaves behind: the status, what it prints, and a file to be written. -/
structure Outcome where
  status : Nat
  printed : String := ""
  complaints : String := ""
  file : Option (String × String) := none
deriving DecidableEq, Repr

/-- What stops a command without an outcome. -/
inductive Failure where
  | pattern (f : PatternFault)
  | fault (f : Fault)
  | markup (f : MarkupFault)

namespace Failure

/-- The class of error. -/
def kind : Failure → String
  | pattern f => f.kind
  | fault f => f.kind
  | markup f => f.kind

/-- The sentence for a failure. -/
def message : Failure → String
  | pattern f => f.message
  | fault f => f.message
  | markup f => f.message

/-- The failure of a report. -/
def ofReport : Report.Failure → Failure
  | .value f => fault f
  | .markup f => markup f

end Failure

/-- A JSON text as it is printed. -/
def printedJson (s : Screen) (j : Json) : String := String.ofList (s.text j.render.toList)

/-- Reports every annotation. -/
def dump (s : Screen) (c : Compilation) : ReportForm → Except Failure Outcome
  | .table => do
    return { status := 0, printed := ← (Report.toTables s (Report.annotated c)).mapError .ofReport }
  | .json file => do
    let j ← (Report.toJson (Report.annotated c)).mapError .fault
    match file with
    | some path => return { status := 0, file := some (path, j.render) }
    | none => return { status := 0, printed := printedJson s j }

/-- Reports the value of a declaration under a type. -/
def queryType (s : Screen) (c : Compilation) (declaration type : String) (i : Identity)
    (rs : List Record) : Except Failure Outcome :=
  let answer (more : List (String × Json)) : Outcome :=
    { status := 0
      printed := printedJson s (.ofMembers (("declaration", .text declaration) :: more)) }
  match rs.find? fun r => r.type.dealias.displayName == type with
  | none => .ok (answer [("value", .null)])
  | some r =>
    match c.singleOfType i r.type with
    | .error e => .ok { status := 1, complaints := e.message ++ "\n" }
    | .ok none => .ok (answer [("type", .text type), ("value", .text Value.nothing.written)])
    | .ok (some v) => do
      let text ← (Report.valueText v).mapError .fault
      return answer [("type", .text type), ("value", .text text)]

/-- Reports the annotations of a declaration. -/
def query (s : Screen) (c : Compilation) (declaration : String) (type : Option String) :
    Except Failure Outcome :=
  let found := do
    let i ← c.table.resolvePath declaration
    return (i, ← c.table.get i, ← c.annotations i)
  match found with
  | .error e => .ok { status := 2, complaints := e.message ++ "\n" }
  | .ok (i, d, rs) =>
    match type with
    | some t => queryType s c declaration t i rs
    | none => do
      let j ← (Report.toJson [⟨d, rs⟩]).mapError .fault
      return { status := 0, printed := printedJson s j }

/-- Carries out a demand on a compilation. -/
def answer (s : Screen) (c : Compilation) : Demand → Except Failure Outcome
  | .dump form => dump s c form
  | .query d t => query s c d t

/-- The lines for diagnostics. -/
def diagnosticLines (ds : List Diagnostic) : String :=
  String.join (ds.map fun d => d.kind ++ ": " ++ d.message ++ "\n")

/-- The ignore rules of a project, if they count. -/
def ignoreRules (cmd : Command) (reader : RuleReader) (project : Node) :
    Except LoadFault (Option Matcher) :=
  if cmd.heedsIgnored then (project.load reader).map some else .ok none

/-- What is said when ignore files cannot be read. -/
def unreadIgnoreFiles (message : String) : Outcome :=
  { status := 2, complaints := "Failed to read .gitignore files: " ++ message ++ "\n" }

/-- Carries out a command on the folder under its path. -/
def run (cmd : Command) (i : Installation) (project : Except PathFault Node) :
    Except Failure Outcome :=
  match project with
  | .error _ => .ok
    { status := 2, complaints := "Path does not exist: " ++ Node.normalText cmd.path ++ "\n" }
  | .ok project =>
    match cmd.ignoreRules i.ruleReader project with
    | .error (.pattern f) => .error (.pattern f)
    | .error (.unread f) => .ok (unreadIgnoreFiles f.message)
    | .ok rules =>
      let c := Compilation.empty 1 Kind.all
      match i.analyzer.analyze (Node.lastName cmd.path) project rules c with
      | (.error e, _) => .error (.fault e)
      | (.ok a, c) => (answer i.screen c cmd.demand).map fun o =>
        { o with complaints := diagnosticLines a.diagnostics ++ o.complaints }

/-- The outcome when the file of another one cannot be written. -/
def Outcome.unwritten (o : Outcome) (path : String) : Outcome :=
  { status := 2
    complaints := o.complaints ++ "Failed to write JSON output file: " ++ path ++ "\n" }

/-- Carries out a command on a disk and writes its file there. -/
def runIn (cmd : Command) (i : Installation) (d : Disk) : Except Failure Outcome × Disk :=
  match cmd.run i (d.folderAt cmd.path) with
  | .error f => (.error f, d)
  | .ok o =>
    match o.file with
    | none => (.ok o, d)
    | some (path, text) =>
      match d.write path (Utf8.encode text) with
      | (.ok (), d) => (.ok o, d)
      | (.error .refused, d) => (.ok (o.unwritten path), d)
      | (.error .nullCharacter, d) => (.error (.fault (.valueError "embedded null byte")), d)

end Command

end Marginalia
