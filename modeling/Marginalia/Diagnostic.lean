/-
What is reported about a source file.

A `Diagnostic` is a problem met in a file: an annotation error, a text that cannot be
read as statements, or a content that is no text.  It is reported for a file, a line and a
column with the class of the problem and a sentence.
-/
import Marginalia.AnnotationError
import Marginalia.Content
import Marginalia.Source.Token

namespace Marginalia

/-- What can be wrong with a source file. -/
inductive Problem where
  | rejected (e : AnnotationError)
  | malformed (f : SourceFault)
  | unread (f : ReadFault)

/-- A problem and the file in which it was met. -/
structure Diagnostic where
  met : String
  problem : Problem

namespace Diagnostic

/-- The place that is reported: that of the error if it has one. -/
def location (d : Diagnostic) : Location :=
  match d.problem with
  | .rejected e => e.location.getD ⟨d.met, 0, 0⟩
  | .malformed f => ⟨d.met, f.line, 0⟩
  | .unread _ => ⟨d.met, 0, 0⟩

/-- The class of the problem. -/
def kind (d : Diagnostic) : String :=
  match d.problem with
  | .rejected e => e.kind
  | .malformed f => f.kind.label
  | .unread _ => "SourceError"

/-- The name of a file at the end of a path. -/
def fileName (path : String) : String :=
  String.ofList ((splitChars '/' path.toList).getLast?.getD [])

/-- The sentence that is reported. -/
def message (d : Diagnostic) : String :=
  match d.problem with
  | .rejected e => e.message
  | .malformed f =>
    "invalid syntax (" ++ fileName d.met ++ ", line " ++ toString f.line ++ ")"
  | .unread f => f.message

end Diagnostic

end Marginalia
