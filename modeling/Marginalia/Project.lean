/-
Analysis of source texts and of whole projects.

`analyzeText` reads the text of a module and elaborates it into a compilation;
`analyze` does so for every source file of a project, one after the other.  A file that
cannot be read is reported and passed over.
-/
import Marginalia.Elaborate
import Marginalia.Source.StatementReader
import Marginalia.Tree

namespace Marginalia

/-- What came out of an analysis. -/
structure Analysis where
  sites : List ElaboratedSite := []
  diagnostics : List Diagnostic := []

namespace Analysis

/-- What came out of two analyses, one after the other. -/
def append (a b : Analysis) : Analysis := ⟨a.sites ++ b.sites, a.diagnostics ++ b.diagnostics⟩

end Analysis

/-- How sources are analysed. -/
structure Analyzer where
  host : Host := {}
  spellings : Spellings := {}

namespace Analyzer

/-- Reads a source as the statements of a module. -/
def readSource (f : Analyzer) (source : String) : Except SourceFault (List Statement) :=
  readModule source f.host.language.typeParameters

/-- Elaborates the text of a module.  Its names are gone afterwards. -/
def analyzeText (f : Analyzer) (name : ModuleName) (file source : String) (c : Compilation) :
    Except Fault Analysis × Compilation :=
  match f.readSource source with
  | .error fault => (.ok { diagnostics := [⟨file, .malformed fault⟩] }, c)
  | .ok body =>
    let setting : ModuleSetting := { host := f.host, spellings := f.spellings, name, file }
    let (r, p) := (Elaboration.wholeModule setting body).run.run { compilation := c }
    let left := p.compilation.forget c.created
    match r with
    | .ok () => (.ok ⟨p.sites, p.diagnostics⟩, left)
    | .error fault => (.error fault, left)

/-- The suffix of source files. -/
def sourceSuffix : String := ".py"

/-- The module of a file below a root with some name. -/
def moduleOf (rootName : String) (path : Path) : ModuleName :=
  let stem (name : String) := String.ofList (name.toList.take (name.length - sourceSuffix.length))
  ModuleName.ofPath rootName (path.dropLast ++ (path.getLast?.map stem).toList)

/-- Elaborates source files. -/
def analyzeFiles (f : Analyzer) (rootName : String) :
    List (Path × FileContent) → Compilation → Except Fault Analysis × Compilation
  | [], c => (.ok {}, c)
  | (path, content) :: rest, c =>
    let (here, c) : Except Fault Analysis × Compilation := match textOfContent content with
      | .error fault => (.ok { diagnostics := [⟨path.text, .unread fault⟩] }, c)
      | .ok source => f.analyzeText (moduleOf rootName path) path.text source c
    match here with
    | .error fault => (.error fault, c)
    | .ok a =>
      let (others, c) := analyzeFiles f rootName rest c
      (others.map a.append, c)

/-- Elaborates the source files of a project that a matcher does not ignore. -/
def analyze (f : Analyzer) (rootName : String) (tree : Node) (ignore : Option Matcher)
    (c : Compilation) : Except Fault Analysis × Compilation :=
  f.analyzeFiles rootName (tree.sources sourceSuffix (Node.skipIgnored ignore)) c

end Analyzer

end Marginalia
