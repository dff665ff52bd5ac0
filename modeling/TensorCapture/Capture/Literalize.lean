import TensorCapture.Capture.Trace

set_option autoImplicit false

/-! # Scalars made literals

A captured scalar whose value turns out to be fixed is made a literal. The inputs that were read
from its source are no longer needed, and the guards that held for this trace only become
constant matches, both of the variable and of the graph. A node is made a literal at most once.
-/

namespace TensorCapture

/-- The graph after the scalar of a node with this provenance was made a literal. -/
def Graph.literalize (g : Graph) (id : NodeId) (p : Provenance) : Graph :=
  let g := match p.source with
    | some source => g.eraseInputs source
    | none => g
  { g with
    deoptimized := g.deoptimized ++ [id]
    guards := g.guards.downgrade p.guards.volatileMembers }

/-- The number of inputs that are erased along with the source. -/
def Graph.inputsFrom (g : Graph) (p : Provenance) : Nat :=
  match p.source with
  | some source => g.countInputs source
  | none => 0

namespace Capture

/-- Makes a captured scalar a literal. -/
def literalize (t : SymbolicTensor) : Capture Variable := do
  if !t.role.isUnspecialized then breach (.notUnspecialized t.role.name)
  else match t.role.raw? with
    | none => breach (.noRawValue t.node)
    | some raw =>
        let graph := (← get).graph
        if graph.isDeoptimized t.node then breach (.alreadyDeoptimized t.node)
        else
          let p := t.provenance
          let volatile := p.guards.volatileMembers
          modifyGraph fun g => g.literalize t.node p
          say .debug .graph <|
            s!"deoptimized {t.node.text} to {raw.describe} ({graph.inputsFrom p}" ++
              s!" graph inputs erased, {volatile.length} guards downgraded)"
          return .constant (.ofScalar raw) (.ofGuards (p.guards.downgrade volatile))

end Capture

end TensorCapture
