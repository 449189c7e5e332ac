import PathQuery.Evaluation.Selection
import PathQuery.CommandLine.Answer
import PathQuery.Proofs.Evaluation.Strictness
import PathQuery.Proofs.Evaluation.Pipeline
import PathQuery.Proofs.Evaluation.Composition
import PathQuery.Proofs.Evaluation.Failures
import PathQuery.Proofs.Evaluation.DocumentOrder
import PathQuery.Proofs.Location
import PathQuery.Main
import PathQuery.Proofs.Path.Concatenation
import PathQuery.Proofs.Path.ReadShape
import PathQuery.Proofs.Evaluation.Slice
import PathQuery.Proofs.CommandLine.Lines
import PathQuery.Proofs.Json.Traversal
import PathQuery.Proofs.Path.ElementIndexer
import PathQuery.Proofs.Evaluation.Filtering
import PathQuery.Proofs.Evaluation.Rearrangement
import PathQuery.Proofs.Path.MemberChain
import PathQuery.Proofs.Comparison.Order
import PathQuery.Proofs.Comparison.Converse
import PathQuery.Proofs.Evaluation.Scans
import PathQuery.Proofs.Evaluation.SelectorLists
import PathQuery.Proofs.Comparison.Equality
import PathQuery.Proofs.Path.PatternLiteral
import PathQuery.Proofs.Comparison.OrEqual
import PathQuery.Proofs.Path.Cursor.Termination
import PathQuery.Proofs.Number.Scaling
