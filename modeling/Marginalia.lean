import Marginalia.Main
import Marginalia.Marker
import Marginalia.Proofs.AnalysedTwice
import Marginalia.Proofs.AnalysisOrder
import Marginalia.Proofs.AnnotationLocality
import Marginalia.Proofs.AssignedAlias
import Marginalia.Proofs.AttachRefusals
import Marginalia.Proofs.BlamedPlaces
import Marginalia.Proofs.ClassScoping
import Marginalia.Proofs.CommandOutcome
import Marginalia.Proofs.EvaluationGuard
import Marginalia.Proofs.FolderPruning
import Marginalia.Proofs.ImportClimb
import Marginalia.Proofs.LegibleSource
import Marginalia.Proofs.ListedEntries
import Marginalia.Proofs.ListedFiles
import Marginalia.Proofs.MemberLookup
import Marginalia.Proofs.MemberPaths
import Marginalia.Proofs.MentionedNames
import Marginalia.Proofs.NameDenotation
import Marginalia.Proofs.NestedRules
import Marginalia.Proofs.PlacementVerdict
import Marginalia.Proofs.PrintedJson
import Marginalia.Proofs.Reanalysis
import Marginalia.Proofs.ReboundClass
import Marginalia.Proofs.RecordedAnnotations
import Marginalia.Proofs.RelativeImports
import Marginalia.Proofs.SearchSteps
import Marginalia.Proofs.SingleAnnotation
import Marginalia.Proofs.SubmoduleImport
import Marginalia.Proofs.TypedQueries
import Marginalia.Proofs.UnreadableFile
import Marginalia.Proofs.VisibleConstant
