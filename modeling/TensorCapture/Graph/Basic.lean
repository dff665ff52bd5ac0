import TensorCapture.Capture.Error
import TensorCapture.Guard
import TensorCapture.Value

set_option autoImplicit false

/-! # The captured graph

Nodes are appended in program order. A node's target and operands never change, and its example
value is written once. Beside the nodes the graph keeps the inputs that the captured program
needs, the guards it depends on, the modules it may call, the nodes that were made literals,
and the identities handed out to containers.
-/

namespace TensorCapture

/-- A recorded operation. -/
structure Node where
  id : NodeId
  target : Target
  args : List Operand
  kwargs : Named Operand
  /-- The representative result, once it is known. -/
  example? : Option Value

/-- The nodes that occur in the operands, positional ones first. -/
def Node.operandNodes (node : Node) : List NodeId :=
  Operand.nodesOfAll node.args ++ Operand.nodesOfAll node.kwargs.values

/-- An input that the captured program needs. -/
structure GraphInput where
  source : Source
  node : NodeId
  /-- Whether the input is no longer needed. -/
  erased : Bool
  deriving DecidableEq, Repr

/-- A captured graph. -/
structure Graph where
  nodes : Array Node
  inputs : List GraphInput
  /-- The handles of modules by path. -/
  modules : List (String × Nat)
  /-- The nodes whose values were made literals, in the order in which this happened. -/
  deoptimized : List NodeId
  /-- The identity that the next container gets. -/
  nextIdentity : Nat
  guards : GuardSet

namespace Graph

/-- The graph without nodes. -/
def empty : Graph := ⟨#[], [], [], [], 0, ∅⟩

/-- The node with this identity. -/
def node? (g : Graph) (id : NodeId) : Except CaptureError Node :=
  match g.nodes[id.index]? with
  | some node => .ok node
  | none => .error (.internal (.unknownNode id))

/-- The example value of a node, where it is known. -/
def exampleOf (g : Graph) (id : NodeId) : Except CaptureError (Option Value) :=
  (g.node? id).map Node.example?

/-- The identity of the next node. -/
def nextNode (g : Graph) : NodeId := ⟨g.nodes.size⟩

/-- Appends a node. -/
def append (g : Graph) (target : Target) (args : List Operand) (kwargs : Named Operand) : Graph :=
  { g with nodes := g.nodes.push ⟨g.nextNode, target, args, kwargs, none⟩ }

/-- The last of the given nodes that is not in the graph. -/
def foreign? (g : Graph) (ids : List NodeId) : Option NodeId :=
  (ids.filter fun id => g.nodes.size ≤ id.index).getLast?

/-- Records an operation, whose operands have to be in the graph. -/
def record (g : Graph) (target : Target) (args : List Operand) (kwargs : Named Operand) :
    Except CaptureError (NodeId × Graph) :=
  match g.foreign? (Operand.nodesOfAll args ++ Operand.nodesOfAll kwargs.values) with
  | some id => .error (.internal (.foreignOperand id target))
  | none => .ok (g.nextNode, g.append target args kwargs)

/-- Adds an input with its node. -/
def addInput (g : Graph) (name : String) (source : Source) : NodeId × Graph :=
  (g.nextNode,
    { g.append (.placeholder name) [] [] with
      inputs := g.inputs ++ [⟨source, g.nextNode, false⟩] })

/-- Writes the example value of a node, which must have none. -/
def setExample (g : Graph) (id : NodeId) (value : Value) : Except CaptureError Graph :=
  match g.nodes[id.index]? with
  | none => .error (.internal (.unknownNode id))
  | some node =>
      match node.example? with
      | some _ => .error (.internal (.alreadyHasExample id))
      | none =>
          .ok { g with nodes := g.nodes.modify id.index fun n => { n with example? := value } }

/-- The inputs that are still needed. -/
def liveInputs (g : Graph) : List GraphInput := g.inputs.filter fun i => !i.erased

/-- Marks the inputs from a source as no longer needed. -/
def eraseInputs (g : Graph) (source : Source) : Graph :=
  { g with
    inputs := g.inputs.map fun i => if i.source = source then { i with erased := true } else i }

/-- The number of needed inputs from a source. -/
def countInputs (g : Graph) (source : Source) : Nat :=
  g.liveInputs.countP fun i => i.source = source

/-- Hands out an identity for a container. -/
def newIdentity (g : Graph) : Nat × Graph :=
  (g.nextIdentity, { g with nextIdentity := g.nextIdentity + 1 })

/-- Adds guards to those that the graph depends on. -/
def addGuards (g : Graph) (guards : GuardSet) : Graph := { g with guards := g.guards ∪ guards }

/-- Registers a module under a path, in place of one that is there. -/
def register (g : Graph) (path : String) (handle : Nat) : Graph :=
  { g with modules := (path, handle) :: g.modules.filter (·.1 ≠ path) }

/-- The handle of the module under a path. -/
def module? (g : Graph) (path : String) : Option Nat := g.modules.lookup path

/-- Whether the value of the node was made a literal. -/
def isDeoptimized (g : Graph) (id : NodeId) : Bool := decide (id ∈ g.deoptimized)

/-- The nodes whose values were made literals, in ascending order. -/
def deoptimizedNodes (g : Graph) : List NodeId :=
  g.deoptimized.mergeSort fun a b => a.index ≤ b.index

@[simp] theorem size_nodes_append (g : Graph) (target : Target) (args : List Operand)
    (kwargs : Named Operand) : (g.append target args kwargs).nodes.size = g.nodes.size + 1 := by
  simp [append]

end Graph

end TensorCapture
