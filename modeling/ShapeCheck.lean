import ShapeCheck.CommandLine.Arguments
import ShapeCheck.CommandLine.LogFilter
import ShapeCheck.CommandLine.Run
import ShapeCheck.Entries
import ShapeCheck.Instance.Basic
import ShapeCheck.Instance.Heap
import ShapeCheck.Instance.Tree
import ShapeCheck.Json.Basic
import ShapeCheck.Json.Numeral
import ShapeCheck.Json.Reader
import ShapeCheck.Json.Rest
import ShapeCheck.Json.Writer
import ShapeCheck.Log
import ShapeCheck.Main
import ShapeCheck.Number.Decimal
import ShapeCheck.Number.Decoding
import ShapeCheck.Number.Double
import ShapeCheck.Number.Shortest
import ShapeCheck.Proofs.Acceptance
import ShapeCheck.Proofs.Agreement
import ShapeCheck.Proofs.Aliases
import ShapeCheck.Proofs.Collection
import ShapeCheck.Proofs.Compilation
import ShapeCheck.Proofs.Conformance
import ShapeCheck.Proofs.Decoding
import ShapeCheck.Proofs.Defects
import ShapeCheck.Proofs.Dependence
import ShapeCheck.Proofs.Descent
import ShapeCheck.Proofs.Entering
import ShapeCheck.Proofs.Escaping
import ShapeCheck.Proofs.Faults
import ShapeCheck.Proofs.Findings
import ShapeCheck.Proofs.Forms
import ShapeCheck.Proofs.Grammar
import ShapeCheck.Proofs.Handles
import ShapeCheck.Proofs.HeapData
import ShapeCheck.Proofs.Histories
import ShapeCheck.Proofs.IntegerLiterals
import ShapeCheck.Proofs.JsonText
import ShapeCheck.Proofs.Keywords
import ShapeCheck.Proofs.Layout
import ShapeCheck.Proofs.Lines
import ShapeCheck.Proofs.Loading
import ShapeCheck.Proofs.Locations
import ShapeCheck.Proofs.Meaning
import ShapeCheck.Proofs.Mutation
import ShapeCheck.Proofs.Names
import ShapeCheck.Proofs.Origins
import ShapeCheck.Proofs.PathText
import ShapeCheck.Proofs.Placement
import ShapeCheck.Proofs.Previews
import ShapeCheck.Proofs.Puts
import ShapeCheck.Proofs.Registration
import ShapeCheck.Proofs.Relocation
import ShapeCheck.Proofs.Reordering
import ShapeCheck.Proofs.Reports
import ShapeCheck.Proofs.Resolution
import ShapeCheck.Proofs.Rounding
import ShapeCheck.Proofs.Sessions
import ShapeCheck.Proofs.Sharing
import ShapeCheck.Proofs.Slots
import ShapeCheck.Proofs.Survey
import ShapeCheck.Proofs.Threading
import ShapeCheck.Proofs.TreeData
import ShapeCheck.Proofs.Trees
import ShapeCheck.Proofs.Unfolding
import ShapeCheck.Proofs.Unresolved
import ShapeCheck.Proofs.Visits
import ShapeCheck.Proofs.Wording
import ShapeCheck.Schema.Basic
import ShapeCheck.Schema.Definitions
import ShapeCheck.Schema.Error
import ShapeCheck.Schema.Reader
import ShapeCheck.Script.Basic
import ShapeCheck.Script.Checker
import ShapeCheck.Script.Module
import ShapeCheck.Script.Name
import ShapeCheck.Source.Directory
import ShapeCheck.Source.Document
import ShapeCheck.Source.Error
import ShapeCheck.Spec.Basic
import ShapeCheck.Spec.Compile
import ShapeCheck.Spec.Table
import ShapeCheck.Text.Alphabetic
import ShapeCheck.Text.CodeRange
import ShapeCheck.Text.GraphemeExtend
import ShapeCheck.Text.Numeric
import ShapeCheck.Text.Quoted
import ShapeCheck.Text.Unprintable
import ShapeCheck.Validation.Check
import ShapeCheck.Validation.Inspection
import ShapeCheck.Validation.Path
import ShapeCheck.Validation.Progress
import ShapeCheck.Validation.Violation
