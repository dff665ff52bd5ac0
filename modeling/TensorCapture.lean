import TensorCapture.Text.Blank
import TensorCapture.Json.Reader
import TensorCapture.Json.Writer
import TensorCapture.Guard
import TensorCapture.Graph.Operand
import TensorCapture.Library.Basic
import TensorCapture.Module.Lazy
import TensorCapture.Module.Replay
import TensorCapture.Metadata
import TensorCapture.Log
import TensorCapture.Variable.Constant
import TensorCapture.Graph.Basic
import TensorCapture.Module.Basic
import TensorCapture.Capture.Example
import TensorCapture.Capture.Classification
import TensorCapture.Capture.Method
import TensorCapture.Capture.Execution
import TensorCapture.Capture.Script
import TensorCapture.Stored.Graph
import TensorCapture.Stored.Guard
import TensorCapture.Capture.Session
import TensorCapture.Exchange.Value
import TensorCapture.Exchange.Report
import TensorCapture.Proofs.Placeholder.Kernels
import TensorCapture.Proofs.Placeholder.Abstraction
import TensorCapture.Proofs.Capture.Keeps
import TensorCapture.Proofs.Capture.Workshop
import TensorCapture.Proofs.Capture.Steps
import TensorCapture.Proofs.Capture.Operations
import TensorCapture.Proofs.Capture.Isolation
import TensorCapture.Proofs.Graph.Growth
import TensorCapture.Proofs.Graph.WellFormed
import TensorCapture.Proofs.Placeholder.Agree
import TensorCapture.Proofs.Placeholder.Erasure
import TensorCapture.Proofs.Placeholder.Running
import TensorCapture.Proofs.Placeholder.Classifying
import TensorCapture.Proofs.Placeholder.Independence
import TensorCapture.Proofs.Placeholder.Sameness
import TensorCapture.Proofs.Capture.Building
import TensorCapture.Proofs.Capture.History
import TensorCapture.Proofs.Literal.Outcome
import TensorCapture.Proofs.Literal.Once
import TensorCapture.Proofs.Literal.Inputs
import TensorCapture.Proofs.Literal.Guards
import TensorCapture.Proofs.Literal.Commuting
import TensorCapture.Proofs.Rerun.Continues
import TensorCapture.Proofs.Rerun.Replays
import TensorCapture.Proofs.Rerun.Stored
import TensorCapture.Proofs.Rerun.Follows
import TensorCapture.Proofs.Rerun.Replayable
import TensorCapture.Proofs.Operands.Usable
import TensorCapture.Proofs.Unpacking.Refused
import TensorCapture.Proofs.Shadow.Programs
import TensorCapture.Proofs.Created.Carrying
import TensorCapture.Proofs.Folding.Agreement
import TensorCapture.Proofs.Hook.Reentry
import TensorCapture.Proofs.Hook.Wrapping
import TensorCapture.Proofs.Graph.Refused
import TensorCapture.Proofs.Extents.Reported
import TensorCapture.Proofs.Bounds.Conforms
import TensorCapture.Proofs.Hook.Direct
import TensorCapture.Proofs.Bounds.Computing
import TensorCapture.Proofs.Bounds.Moving
import TensorCapture.Proofs.Bounds.Closed
import TensorCapture.Proofs.Layers.Linear
import TensorCapture.Proofs.Layers.Lazy
import TensorCapture.Proofs.Layers.Initialization
import TensorCapture.Proofs.Positions.Contiguous
import TensorCapture.Proofs.Guards.Algebra
import TensorCapture.Proofs.Guards.Order
import TensorCapture.Proofs.Elements.Views
import TensorCapture.Proofs.Elements.Pieces
import TensorCapture.Proofs.Elements.Unpacked
import TensorCapture.Proofs.Elements.Splitting
import TensorCapture.Proofs.Elements.Entries
import TensorCapture.Proofs.Elements.Transposes
import TensorCapture.Proofs.Elements.Tiles
import TensorCapture.Proofs.Elements.Nonzero
import TensorCapture.Proofs.Elements.Doubles
import TensorCapture.Proofs.Elements.Maxima
import TensorCapture.Proofs.Modulo.Recorded
import TensorCapture.Proofs.Elements.Items
import TensorCapture.Proofs.Elements.Swapped
import TensorCapture.Proofs.Names.Sources
import TensorCapture.Proofs.Guards.Restored
