import TensorCapture.Graph.Operand
import TensorCapture.Graph.Target
import TensorCapture.Stored.Literal

set_option autoImplicit false

/-! # Stored parts of a graph

The stored forms of node identities, targets and operands.
-/

namespace TensorCapture

/-- The stored form. -/
def NodeId.toJson (id : NodeId) : Json := .natural id.index

/-- The node identity in a document. -/
def NodeId.ofJson? (j : Json) : Option NodeId :=
  (Stored.naturalBelow? Word.halfBound j).map NodeId.mk

/-- The stored form. -/
def Builtin.toJson (b : Builtin) : Json := Stored.bare b.tag

/-- The builtin operator in a document. -/
def Builtin.ofJson? (levels : Nat) (j : Json) : Option Builtin :=
  Stored.choice? tag all levels j

/-- The stored form. -/
def Target.toJson : Target → Json
  | placeholder name => Stored.tagged "Placeholder" (.text name)
  | builtin b => Stored.tagged "Builtin" b.toJson
  | function name => Stored.tagged "Function" (.text name)
  | method name => Stored.tagged "Method" (.text name)
  | module path => Stored.tagged "Module" (.text path)

/-- The target in a document. -/
def Target.ofJson? (levels : Nat) (j : Json) : Option Target :=
  match Stored.tagged? levels j with
  | some ("Placeholder", content, _) => (Stored.text? content).map placeholder
  | some ("Builtin", content, levels) => (Builtin.ofJson? levels content).map builtin
  | some ("Function", content, _) => (Stored.text? content).map function
  | some ("Method", content, _) => (Stored.text? content).map method
  | some ("Module", content, _) => (Stored.text? content).map module
  | _ => none

namespace Operand

mutual

/-- The stored form. -/
def toJson : Operand → Json
  | node id => Stored.tagged "Node" id.toJson
  | literal value => Stored.tagged "Const" value.toJson
  | tuple items => Stored.tagged "Tuple" (.array (toJsonAll items))
  | list items => Stored.tagged "List" (.array (toJsonAll items))

/-- The stored forms of several operands. -/
def toJsonAll : List Operand → List Json
  | [] => []
  | item :: rest => toJson item :: toJsonAll rest

end

/-- The operand in a document. A tuple and a list take two levels. -/
def ofJson? : Nat → Json → Option Operand
  | _ + 1, .object [("Node", content)] => (NodeId.ofJson? content).map node
  | levels + 1, .object [("Const", content)] => (Literal.ofJson? levels content).map literal
  | levels + 2, .object [("Tuple", .array items)] => (items.mapM (ofJson? levels)).map tuple
  | levels + 2, .object [("List", .array items)] => (items.mapM (ofJson? levels)).map list
  | _, _ => none

end Operand

end TensorCapture
