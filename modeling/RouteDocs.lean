import RouteDocs.Document.Decode
import RouteDocs.Json.Reader
import RouteDocs.Main
import RouteDocs.Proofs.Generation.OrderIndependence
import RouteDocs.Proofs.Generation.SelfContained
import RouteDocs.Proofs.Generation.Skipped
import RouteDocs.Proofs.Operation.Block
import RouteDocs.Proofs.Schema.CacheTransparency
import RouteDocs.Proofs.Schema.Session
import RouteDocs.Proofs.Schema.SuccessCondition
import RouteDocs.Proofs.Document.Grouping
import RouteDocs.Proofs.Generation.Agreement
import RouteDocs.Proofs.Files.AbsolutePath
import RouteDocs.Proofs.Files.Writing
import RouteDocs.Proofs.CommandLine.Effects
import RouteDocs.Source.Constants
import RouteDocs.Proofs.Json.RoundTrip
import RouteDocs.Proofs.Document.Wire
import RouteDocs.Proofs.Source.Lexing
import RouteDocs.Proofs.Source.Operand
import RouteDocs.Proofs.Source.Assignments
import RouteDocs.Proofs.Document.GeneratedModule
import RouteDocs.Proofs.Operation.ParameterPlace
import RouteDocs.Proofs.Document.Refusal
import RouteDocs.Proofs.CommandLine.Diagnostics
import RouteDocs.Proofs.Generation.Lossless
import RouteDocs.Proofs.Operation.ResponseType
import RouteDocs.Proofs.Schema.InheritedFields
import RouteDocs.Proofs.Source.AttachedComments
import RouteDocs.Proofs.Source.CommentScan
import RouteDocs.Proofs.Schema.TypeForm
import RouteDocs.Proofs.Schema.BreadthFirst
import RouteDocs.Proofs.Schema.Recursion
import RouteDocs.Proofs.Schema.Optionality
import RouteDocs.Proofs.Operation.Failure
import RouteDocs.Proofs.Operation.Method
import RouteDocs.Proofs.Schema.BaseExpressions
import RouteDocs.Proofs.Schema.Overriding
import RouteDocs.Proofs.Operation.Rearrangement
import RouteDocs.Proofs.Generation.InsertionOrder
import RouteDocs.Proofs.Project.ModuleNames
import RouteDocs.Proofs.Source.ClassFields
import RouteDocs.Proofs.ApiInfo
import RouteDocs.Proofs.Document.Merging
import RouteDocs.Proofs.Json.EmptyMembers
import RouteDocs.Proofs.Schema.NormalForm
