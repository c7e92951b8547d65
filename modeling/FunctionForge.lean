import FunctionForge.Main
import FunctionForge.Disk.Tree
import FunctionForge.Generator
import FunctionForge.Proofs.TypeExpr.Name
import FunctionForge.Proofs.TypeExpr.Scan
import FunctionForge.Proofs.TypeExpr.Layout
import FunctionForge.Proofs.TypeExpr.Reader
import FunctionForge.Proofs.TypeExpr.Grammar
import FunctionForge.Proofs.Output.Answer
import FunctionForge.Proofs.Pass.Visits
import FunctionForge.Proofs.Pass.Run
import FunctionForge.Proofs.Pass.Protocol
import FunctionForge.Proofs.Pass.Fold
import FunctionForge.Proofs.Manifest.Name
import FunctionForge.Proofs.Manifest.Rules
import FunctionForge.Proofs.Manifest.Unit
import FunctionForge.Proofs.Rendering.Clause
import FunctionForge.Proofs.Rendering.Unresolved
import FunctionForge.Proofs.Symbol.Table
import FunctionForge.Proofs.Symbol.Precedence
import FunctionForge.Proofs.Rendering.RoundTrip
import FunctionForge.Proofs.Path
import FunctionForge.Proofs.Disk.Walk
import FunctionForge.Proofs.Disk.Directories
import FunctionForge.Proofs.Output.File
import FunctionForge.Proofs.Disk.Writing
import FunctionForge.Proofs.Manifest.Trial
import FunctionForge.Proofs.Manifest.Agreement
import FunctionForge.Proofs.Manifest.Effect
import FunctionForge.Proofs.Disk.Faults
import FunctionForge.Proofs.Manifest.Failure
import FunctionForge.Proofs.Text.Lines
import FunctionForge.Proofs.Function.Summary
import FunctionForge.Proofs.Rendering.Line
import FunctionForge.Proofs.Function.Visit
import FunctionForge.Proofs.Pass.Deferred
import FunctionForge.Proofs.Function.Errors
import FunctionForge.Proofs.Function.Legible
import FunctionForge.Proofs.Pass.Reading
import FunctionForge.Proofs.Manifest.Order
import FunctionForge.Proofs.Pass.Session
import FunctionForge.Proofs.Function.Growth
import FunctionForge.Proofs.Text.Boundary
import FunctionForge.Proofs.TypeExpr.Progress
import FunctionForge.Proofs.TypeExpr.Refusal
import FunctionForge.Proofs.Manifest.Places
import FunctionForge.Proofs.Manifest.Labels
import FunctionForge.Proofs.Manifest.Document
import FunctionForge.Proofs.Manifest.Duplicate
import FunctionForge.Proofs.Text.Brackets
import FunctionForge.Proofs.Function.Brackets
import FunctionForge.Proofs.Options
import FunctionForge.Proofs.Manifest.Naming
import FunctionForge.Proofs.Output.Location
import FunctionForge.Proofs.Manifest.Confinement
import FunctionForge.Proofs.Pass.Outline
import FunctionForge.Proofs.Output.Memory
import FunctionForge.Proofs.Report.Status
import FunctionForge.Proofs.Manifest.Keys
import FunctionForge.Proofs.TypeExpr.Account
import FunctionForge.Proofs.TypeExpr.Rounds
