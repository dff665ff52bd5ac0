import TensorCapture.Literal

set_option autoImplicit false

/-! # Operands

An operand of a node is the result of another node, a literal, or a tuple or list of operands.
-/

namespace TensorCapture

/-- The identity of a node in its graph. -/
structure NodeId where
  index : Nat
  deriving DecidableEq, Repr

/-- The identity in messages. -/
def NodeId.text (id : NodeId) : String := "%" ++ toString id.index

/-- An operand of a node. -/
inductive Operand where
  | node (id : NodeId)
  | literal (value : Literal)
  | tuple (items : List Operand)
  | list (items : List Operand)

namespace Operand

mutual

/-- The nodes that occur in an operand, in order. -/
def nodes : Operand → List NodeId
  | node id => [id]
  | literal _ => []
  | tuple items => nodesOfAll items
  | list items => nodesOfAll items

/-- The nodes that occur in several operands, in order. -/
def nodesOfAll : List Operand → List NodeId
  | [] => []
  | item :: rest => nodes item ++ nodesOfAll rest

end

theorem nodesOfAll_eq_flatMap (items : List Operand) :
    nodesOfAll items = items.flatMap nodes := by
  induction items with
  | nil => rfl
  | cons item rest ih => simp [nodesOfAll, ih]

end Operand

end TensorCapture
