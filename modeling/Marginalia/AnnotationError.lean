/-
Failures of attaching, placing, evaluating and looking up annotations.

An `AnnotationError` is a cause together with the place it is blamed on, if one
is known.  The wording is in `Cause.text`, the class of error in `Cause.kind`.
-/
import Marginalia.Fault
import Marginalia.Identity
import Marginalia.Value.Structural

namespace Marginalia

/-- Why an annotation or a question about annotations is rejected. -/
inductive Cause where
  /-- The value, or a part of it, can change or is compared by identity. -/
  | notStructural (o : Obstacle)
  /-- A host function refuses a value in its own words. -/
  | refusedValue (text : String)
  /-- Annotations stand where nothing is declared. -/
  | withoutConstruct
  /-- Declarations of this kind cannot be annotated here. -/
  | kindNotAnnotatable (k : Kind)
  | onTypeSpecifier
  /-- Annotations in a group that has a vendor's name before it. -/
  | mixedGroup (vendor : String)
  | unknownName (module name : String)
  | notLive (i : Identity)
  /-- The class of a value is not the one of the type it is recorded under. -/
  | typeMismatch (actual declared : TypeTerm)
  /-- A value is attached while another one is evaluated. -/
  | reentrant
  | notConstant (name : String)
  | privateAttribute (name : String)
  | notCallable (class_ : String)
  /-- A form of expression that has no constant value. -/
  | unsupported (form : String)
  /-- An operation in the expression went wrong. -/
  | failed (f : Fault)
  /-- Several annotations of one type that are not equivalent. -/
  | ambiguous (t : TypeTerm) (records : List Record)
deriving Repr

namespace Cause

/-- The class of error a cause belongs to. -/
def kind : Cause → String
  | notStructural _ | refusedValue _ => "NonStructuralAnnotationError"
  | withoutConstruct | kindNotAnnotatable _ => "NoApplicableConstructError"
  | onTypeSpecifier => "IllegalAppertainanceError"
  | mixedGroup _ => "MixedAttributeGroupError"
  | unknownName .. | notLive _ => "UnknownDeclarationError"
  | typeMismatch .. => "AnnotationTypeMismatchError"
  | reentrant => "ReentrantAnnotationError"
  | notConstant _ | privateAttribute _ | notCallable _ | unsupported _ | failed _ =>
    "ConstantEvaluationError"
  | ambiguous .. => "AmbiguousAnnotationError"

/-- The sentence for a cause. -/
def text : Cause → String
  | notStructural o => "Annotation value is not structural: " ++ o.reason
  | refusedValue t => t
  | withoutConstruct => "Annotation does not appertain to any declaration"
  | kindNotAnnotatable k => "Declarations of kind " ++ k.label ++ " cannot be annotated"
  | onTypeSpecifier => "Annotations cannot appertain to a type specifier"
  | mixedGroup v =>
    "Annotations cannot appear in an attribute group prefixed with using=" ++ quoted v
  | unknownName m n =>
    "No declaration named " ++ quoted (if n.isEmpty then "<module>" else n) ++
      " in module " ++ quoted m
  | notLive i => "Declaration identity " ++ i.toString ++ " is not live in this compilation"
  | typeMismatch a d =>
    "Value of type " ++ a.displayName ++ " cannot be recorded as " ++ d.displayName
  | reentrant =>
    "Annotations cannot be added while another annotation value is being evaluated"
  | notConstant n => "Name " ++ quoted n ++ " is not a compile-time constant"
  | privateAttribute n => "Private attribute " ++ quoted n ++ " cannot be read at compile time"
  | notCallable c => "Value of type " ++ c ++ " is not callable"
  | unsupported f => "Unsupported expression in annotation: " ++ f
  | failed f => "Evaluation failed: " ++ f.kind ++ ": " ++ f.message
  | ambiguous t rs =>
    "Declaration has " ++ toString rs.length ++ " unequal annotations of type " ++ t.displayName ++
      " (candidates at " ++ ", ".intercalate (rs.map fun r => r.location.toString) ++ ")"

end Cause

/-- A failure and the place it is blamed on. -/
structure AnnotationError where
  cause : Cause
  location : Option Location
deriving Repr

namespace AnnotationError

/-- The class of error. -/
def kind (e : AnnotationError) : String := e.cause.kind

/-- The sentence, behind the location if there is one. -/
def message (e : AnnotationError) : String :=
  match e.location with
  | some l => l.toString ++ ": " ++ e.cause.text
  | none => e.cause.text

end AnnotationError

end Marginalia
