import TensorCapture.Graph.Basic
import TensorCapture.Json.Writer
import TensorCapture.Stored.Graph
import TensorCapture.Stored.Guard

set_option autoImplicit false

/-! # Summaries of a graph

A summary shows the structure of a graph as a document: the nodes with the types of their
example values, the inputs that are still needed, and the guards in evaluation order.
-/

namespace TensorCapture

/-- Named documents as one object. -/
def Named.toJson (args : Named Json) : Json := .object args

/-- A node in a summary. -/
def Node.summary (node : Node) : Json :=
  .object
    [("id", node.id.toJson), ("op", .text node.target.kind.tag), ("target", .text node.target.text),
      ("args", .array (node.args.map Operand.toJson)),
      ("kwargs", Named.toJson (node.kwargs.mapValues Operand.toJson)),
      ("example", .ofOption (node.example?.map fun value => .text value.typeName))]

/-- An input in a summary. -/
def GraphInput.summary (input : GraphInput) : Json :=
  .array [.text input.source.name, input.node.toJson]

namespace Graph

/-- The summary of a graph. -/
def summary (g : Graph) : Json :=
  .object
    [("nodes", .array (g.nodes.toList.map Node.summary)),
      ("inputs", .array (g.liveInputs.map GraphInput.summary)),
      ("guards", .array (g.guards.ordered.map Guard.toJson))]

/-- The summary as a text over several lines. -/
def summaryText (g : Graph) : String := g.summary.spreadOut 0

end Graph

end TensorCapture
