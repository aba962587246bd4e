/-
How the program is called.

`Refused.outcome` says what is printed when words make no command: the help that was
asked for, or the usage and what is wrong with the words.
-/
import Marginalia.Command

namespace Marginalia

namespace Usage

/-- The name of the program, with that of a command. -/
def program : Option CommandForm → String
  | none => "annot"
  | some f => "annot " ++ f.word

/-- Lines of text, each with its end. -/
def text (lines : List String) : String := String.join (lines.map (· ++ "\n"))

/-- The lines that say which words there are. -/
def usageLines : Option CommandForm → List String
  | none => ["usage: annot [-h] [--verbose] \x7bdump,query\x7d ..."]
  | some .dump => [
    "usage: annot dump [-h] --path PATH [--format \x7btable,json\x7d] [--output OUTPUT]",
    "                  [--no-gitignore]"]
  | some .query => [
    "usage: annot query [-h] --path PATH --declaration DECLARATION [--type TYPE]",
    "                   [--no-gitignore]"]

/-- The lines that say what the words mean. -/
def meaningLines : Option CommandForm → List String
  | none => [
    "positional arguments:",
    "  \x7bdump,query\x7d",
    "",
    "options:",
    "  -h, --help    show this help message and exit",
    "  --verbose     Enable debug logging."]
  | some .dump => [
    "options:",
    "  -h, --help            show this help message and exit",
    "  --path PATH           Root path to analyze.",
    "  --format \x7btable,json\x7d",
    "                        Output format.",
    "  --output OUTPUT       Optional output file path for raw JSON when --format",
    "                        json is used.",
    "  --no-gitignore        Analyze files even when .gitignore patterns exclude",
    "                        them."]
  | some .query => [
    "options:",
    "  -h, --help            show this help message and exit",
    "  --path PATH           Root path to analyze.",
    "  --declaration DECLARATION",
    "                        Declaration to inspect, spelled module:qualname.",
    "  --type TYPE           Type name for a single typed annotation query.",
    "  --no-gitignore        Analyze files even when .gitignore patterns exclude",
    "                        them."]

end Usage

/-- What is printed when words make no command. -/
def Refused.outcome (r : Refused) : Command.Outcome :=
  match r.why with
  | .help =>
    { status := 2, printed := Usage.text (Usage.usageLines r.form ++ "" :: Usage.meaningLines r.form) }
  | .fault f =>
    { status := 2
      complaints := Usage.text (Usage.usageLines r.form ++
        [Usage.program r.form ++ ": error: " ++ f.message]) }

end Marginalia
