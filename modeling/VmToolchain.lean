import VmToolchain.Bytes
import VmToolchain.Catalog
import VmToolchain.Category
import VmToolchain.Command.Arguments
import VmToolchain.Command.Basic
import VmToolchain.Command.Run
import VmToolchain.ConstantPool.Basic
import VmToolchain.ConstantPool.Builder
import VmToolchain.Evaluation
import VmToolchain.Expr.Basic
import VmToolchain.Expr.Json
import VmToolchain.File
import VmToolchain.Folding
import VmToolchain.Json.Document
import VmToolchain.Json.Reader
import VmToolchain.Json.Token
import VmToolchain.Main
import VmToolchain.ModuleFile.Basic
import VmToolchain.ModuleFile.Builder
import VmToolchain.ModuleFile.ChunkKind
import VmToolchain.ModuleFile.Decoding
import VmToolchain.ModuleFile.Dump
import VmToolchain.ModuleFile.Error
import VmToolchain.ModuleFile.Header
import VmToolchain.Operator
import VmToolchain.Palette
import VmToolchain.PrimitiveType
import VmToolchain.Rule
import VmToolchain.Session
import VmToolchain.Store
import VmToolchain.Text.Basic
import VmToolchain.Text.CodePoints
import VmToolchain.Text.Plain
import VmToolchain.Trace.Basic
import VmToolchain.Trace.Printer
import VmToolchain.Value
import VmToolchain.Proofs.Results
import VmToolchain.Proofs.Folding.Rewriting
import VmToolchain.Proofs.Folding.Substitution
import VmToolchain.Proofs.Bytes
import VmToolchain.Proofs.ModuleFile.Frames
import VmToolchain.Proofs.ModuleFile.Canonical
import VmToolchain.Proofs.ModuleFile.Building
import VmToolchain.Proofs.ConstantPool.Layout
import VmToolchain.Proofs.ConstantPool.Interning
import VmToolchain.Proofs.ConstantPool.IdSurvival
import VmToolchain.Proofs.ModuleFile.UnknownChunks
import VmToolchain.Proofs.ConstantPool.Acceptance
import VmToolchain.Proofs.ModuleFile.Runs
import VmToolchain.Proofs.Evaluation.Policies
import VmToolchain.Proofs.Folding.Residue
import VmToolchain.Proofs.Command.FoldReport
import VmToolchain.Proofs.Command.FoldedConstants
import VmToolchain.Proofs.Json.Lexing
import VmToolchain.Proofs.Json.Documents
import VmToolchain.Proofs.Json.Numerals
import VmToolchain.Proofs.Expr.RoundTrip
import VmToolchain.Proofs.Evaluation.Meaning
import VmToolchain.Proofs.Trace.Observers
import VmToolchain.Proofs.Trace.Printing
import VmToolchain.Proofs.Session
import VmToolchain.Proofs.Command.Atomicity
import VmToolchain.Proofs.Text.Sequences
import VmToolchain.Proofs.Colors
import VmToolchain.Proofs.Evaluation.Binding
import VmToolchain.Proofs.Evaluation.Inference
import VmToolchain.Proofs.Folding.Collapse
import VmToolchain.Proofs.Trace.Lines
import VmToolchain.Proofs.Trace.Nesting
import VmToolchain.Proofs.Trace.FailingPath
import VmToolchain.Proofs.Trace.Rewrites
import VmToolchain.Proofs.ModuleFile.Truncation
import VmToolchain.Proofs.Command.Packing
import VmToolchain.Proofs.ConstantPool.DenseIds
import VmToolchain.Proofs.ConstantPool.Tightness
import VmToolchain.Proofs.Trace.Verbosity
import VmToolchain.Proofs.Text.Lines
import VmToolchain.Proofs.Text.Quoting
import VmToolchain.Proofs.Display
import VmToolchain.Proofs.Trace.Output
import VmToolchain.Proofs.Command.ChunkSpecs
import VmToolchain.Proofs.ModuleFile.Listing
import VmToolchain.Proofs.Trace.Notes
import VmToolchain.Proofs.ModuleFile.Progress
import VmToolchain.Proofs.ConstantPool.Bounds
