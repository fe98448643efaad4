import CDecl.Main
import CDecl.Syntax.Build
import CDecl.Proofs.Replay
import CDecl.Proofs.DeclarationFollowsUse
import CDecl.Proofs.DeclaredNames
import CDecl.Proofs.Sites
import CDecl.Proofs.Outcome
import CDecl.Proofs.History
import CDecl.Proofs.Construction
import CDecl.Proofs.SymbolSummary
import CDecl.Proofs.Interruption
import CDecl.Proofs.TagTable
import CDecl.Proofs.Compositional
import CDecl.Proofs.Recording
import CDecl.Proofs.Agreement
import CDecl.Proofs.Growth
import CDecl.Proofs.ConstantsRead
import CDecl.Proofs.Skeleton
import CDecl.Proofs.WarningOptions
import CDecl.Proofs.EvaluatorIndependence
import CDecl.Proofs.Chains
import CDecl.Proofs.Inputs
import CDecl.Proofs.AllOrNothing
import CDecl.Proofs.Layouts
import CDecl.Proofs.RoundTrip
import CDecl.Proofs.Repetition
import CDecl.Proofs.Accumulation
import CDecl.Proofs.AtomicQualifiers
import CDecl.Proofs.SiblingDeclarators
import CDecl.Proofs.IntegerFolding
import CDecl.Proofs.Division
import CDecl.Proofs.KnownValues
import CDecl.Proofs.Truth
import CDecl.Proofs.ParameterScope
import CDecl.Proofs.OutlineShape
import CDecl.Proofs.TypeReading
import CDecl.Proofs.ExpressionGrouping
