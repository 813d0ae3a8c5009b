import IndexQuery.Error
import IndexQuery.Execution
import IndexQuery.Expr.Basic
import IndexQuery.Expr.Display
import IndexQuery.Expr.Evaluation
import IndexQuery.Expr.Traversal
import IndexQuery.Field.Mapping
import IndexQuery.Json.Basic
import IndexQuery.Json.Codec
import IndexQuery.Json.Number
import IndexQuery.Lowering.Annotation
import IndexQuery.Lowering.Bounds
import IndexQuery.Lowering.FieldAccess
import IndexQuery.Lowering.FieldTest
import IndexQuery.Lowering.NullGuard
import IndexQuery.Lowering.Pipeline
import IndexQuery.Lowering.Truth
import IndexQuery.Number.Arithmetic
import IndexQuery.Number.Binary
import IndexQuery.Number.Decimal
import IndexQuery.Number.Integer
import IndexQuery.Number.Shortest
import IndexQuery.Plan.Basic
import IndexQuery.Plan.Condition
import IndexQuery.Plan.Drafting
import IndexQuery.Plan.Fragment
import IndexQuery.Plan.Model
import IndexQuery.Proofs.Actions
import IndexQuery.Proofs.Bookkeeping
import IndexQuery.Proofs.BoundMerging
import IndexQuery.Proofs.Building
import IndexQuery.Proofs.ConditionTruth
import IndexQuery.Proofs.Conjoining
import IndexQuery.Proofs.DeclaredKinds
import IndexQuery.Proofs.Drafting
import IndexQuery.Proofs.FailedOperations
import IndexQuery.Proofs.Faults
import IndexQuery.Proofs.Formula
import IndexQuery.Proofs.FormulaLowering
import IndexQuery.Proofs.FormulaPlan
import IndexQuery.Proofs.FormulaTruth
import IndexQuery.Proofs.GapMerging
import IndexQuery.Proofs.GuardedValues
import IndexQuery.Proofs.MergedBuilding
import IndexQuery.Proofs.MirroredLowering
import IndexQuery.Proofs.Mirroring
import IndexQuery.Proofs.NestedModels
import IndexQuery.Proofs.OperandOrder
import IndexQuery.Proofs.Operations
import IndexQuery.Proofs.PathCasts
import IndexQuery.Proofs.Positivity
import IndexQuery.Proofs.QueryClaims
import IndexQuery.Proofs.ReaderClosings
import IndexQuery.Proofs.ResultWindow
import IndexQuery.Proofs.RetypedLowering
import IndexQuery.Proofs.Retyping
import IndexQuery.Proofs.Sameness
import IndexQuery.Proofs.Settling
import IndexQuery.Proofs.SnapshotCensus
import IndexQuery.Proofs.SnapshotIsolation
import IndexQuery.Proofs.SnapshotRuns
import IndexQuery.Proofs.TestTree
import IndexQuery.Proofs.Traversal
import IndexQuery.Proofs.Verdict
import IndexQuery.Proofs.Weight
import IndexQuery.Proofs.WellFormedTests
import IndexQuery.Proofs.WildcardLanguage
import IndexQuery.Query.Basic
import IndexQuery.Query.Request
import IndexQuery.Query.Similarity
import IndexQuery.Query.Wildcard
import IndexQuery.Rehearsal.Index
import IndexQuery.Rehearsal.Session
import IndexQuery.Settings
import IndexQuery.Snapshot.Census
import IndexQuery.Snapshot.Context
import IndexQuery.Snapshot.Lifecycle
import IndexQuery.Text.Blank
import IndexQuery.Text.CaseTable
import IndexQuery.Text.LetterCase
import IndexQuery.Text.Quoted
import IndexQuery.Text.Shapeless
import IndexQuery.Time.Calendar
import IndexQuery.Time.Instant
import IndexQuery.Time.Reading
import IndexQuery.Value
import IndexQuery.Proofs.LastItem
import IndexQuery.Proofs.BoostedOrder
import IndexQuery.Proofs.Placement
import IndexQuery.Proofs.TruthComparison
import IndexQuery.Proofs.PatternCalls
import IndexQuery.Proofs.NearestDouble
import IndexQuery.Proofs.LiteralOrder
import IndexQuery.Proofs.AnyField
import IndexQuery.Proofs.IntegerArithmetic
import IndexQuery.Proofs.EscapedText
import IndexQuery.Proofs.VisitingOrder
import IndexQuery.Proofs.PowersOfTwo
import IndexQuery.Proofs.BoostedQuestions
import IndexQuery.Proofs.StackedBoosts
