import TensorCapture.Capture.Classification
import TensorCapture.Proofs.Rerun.Stored

set_option autoImplicit false

/-! # The shape of an unpacked value

Classifying a container takes it apart. The variable has the shape of the value: a container has
a variable for each item, in the same order, and an item has a node of its own, the subscript of
the node of its container. Only absent items get no node. Nodes are numbered in the order in
which the value is walked, so a value, the node that it belongs to and the number of the next
node say which variable comes out, and which nodes are recorded.

Classification comes to an answer unless it finds a leaf that it does not know what to make of.
-/

namespace TensorCapture

/-! ## Leaves -/

namespace Value

mutual

/-- What occurs in the value at any depth and is no container. -/
def leaves : Value → List Value
  | tuple items => leavesAll items
  | list items => leavesAll items
  | record _ items => leavesAll items
  | value => [value]

/-- The leaves of several values. -/
def leavesAll : List Value → List Value
  | [] => []
  | item :: rest => leaves item ++ leavesAll rest

end

mutual

/-- The positions in every container and size, at any depth, are signed words. In memory no
sequence is longer. -/
def Addressable : Value → Prop
  | tuple items => items.length < Word.signedBound ∧ AddressableAll items
  | list items => items.length < Word.signedBound ∧ AddressableAll items
  | record _ items => items.length < Word.signedBound ∧ AddressableAll items
  | size extents => extents.length < Word.signedBound
  | _ => True

/-- Each of the values is addressable. -/
def AddressableAll : List Value → Prop
  | [] => True
  | item :: rest => Addressable item ∧ AddressableAll rest

end

mutual

/-- Erasing a value erases its leaves. -/
theorem leaves_erase (v : Value) : v.erase.leaves = v.leaves.map erase := by
  cases v with
  | tuple items => exact leavesAll_eraseAll items
  | list items => exact leavesAll_eraseAll items
  | record type items => exact leavesAll_eraseAll items
  | _ => rfl

theorem leavesAll_eraseAll (vs : List Value) :
    leavesAll (eraseAll vs) = (leavesAll vs).map erase := by
  cases vs with
  | nil => rfl
  | cons v rest =>
      simp only [eraseAll, leavesAll, List.map_append]
      rw [leaves_erase v, leavesAll_eraseAll rest]

end

mutual

theorem addressable_erase (v : Value) (h : v.Addressable) : v.erase.Addressable := by
  have hitems (items : List Value)
      (h : items.length < Word.signedBound ∧ AddressableAll items) :
      (eraseAll items).length < Word.signedBound := by
    rw [length_eraseAll]
    exact h.1
  cases v with
  | tuple items => exact ⟨hitems items h, addressableAll_eraseAll items h.2⟩
  | list items => exact ⟨hitems items h, addressableAll_eraseAll items h.2⟩
  | record type items => exact ⟨hitems items h, addressableAll_eraseAll items h.2⟩
  | size extents => exact h
  | _ => trivial

theorem addressableAll_eraseAll (vs : List Value) (h : AddressableAll vs) :
    AddressableAll (eraseAll vs) := by
  cases vs with
  | nil => trivial
  | cons v rest => exact ⟨addressable_erase v h.1, addressableAll_eraseAll rest h.2⟩

end

end Value

/-- Whether classification knows what to make of a leaf inside of a container: of a tensor, of an
absent value, of a size, whose extents have to be signed words where they are to be symbolic, and
of a number where it is to be symbolic. -/
def Config.Takes (config : Config) : Value → Prop
  | .none | .tensor _ => True
  | .size extents => config.dynamicShapes = true → ∀ n ∈ extents, n < Word.signedBound
  | .bool _ | .int _ | .float _ => config.dynamicShapes = true
  | _ => False

theorem Config.takes_erase (config : Config) (v : Value) :
    config.Takes v.erase ↔ config.Takes v := by
  cases v <;> simp [Value.erase, Takes]

/-- A value as the trace uses it has the leaves of the value, as the trace uses them. -/
theorem Config.takes_leaves_prepared (config : Config) (placeholders : Bool) (v : Value) :
    (∀ leaf ∈ (Capture.prepared placeholders v).leaves, config.Takes leaf) ↔
      ∀ leaf ∈ v.leaves, config.Takes leaf := by
  cases placeholders with
  | false => rfl
  | true =>
      simp only [Capture.prepared, if_true, Value.leaves_erase, List.forall_mem_map,
        config.takes_erase]

/-! ## Variables and nodes -/

/-- The subscript of a node, with an example. -/
def Node.subscript (id parent : NodeId) (index : Nat) (e : Option Value) : Node :=
  ⟨id, .builtin .getItem, [.node parent, .literal (.int (Word.signed index))], [], e⟩

/-- The nodes of a graph once one of them has an example. -/
def Graph.nodesWith (g : Graph) (id : NodeId) (e : Value) : List Node :=
  g.nodes.toList.modify id.index fun n => { n with example? := some e }

/-- What is remembered of the tensor that a node gives: of a placeholder only the difference
between parameters and other tensors. -/
def Tensor.captured (x : Tensor) (config : Config) : Metadata :=
  if config.placeholderPropagation && x.isPlaceholder then
    { x.specialize config with
      runtimeClass := if x.runtimeClass = .parameter then .parameter else .tensor }
  else x.specialize config

open Capture

mutual

/-- The variable stands for the value, which is the example of a node. The next node has the
given number, and the listed ones are recorded from there on. -/
inductive Unpacks (config : Config) (role : TensorRole) (p : Provenance) :
    NodeId → Nat → Value → Variable → List Node → Prop where
  | tensor (id : NodeId) (next : Nat) (x : Tensor) :
      Unpacks config role p id next (.tensor x)
        (.tensor ⟨id, some (x.captured config),
          if x.runtimeClass = .parameter then some x else none, role, p⟩) []
  | number (id : NodeId) (next : Nat) {value : Value} {number : Scalar}
      (hdynamic : config.dynamicShapes = true) (h : value.toScalar? = some number) :
      Unpacks config role p id next value (symbolicNumber id number.runtimeClass p) []
  | size (id : NodeId) (next : Nat) (extents : List Nat)
      (hstatic : config.dynamicShapes = false) :
      Unpacks config role p id next (.size extents) (.ofExtents .size extents p) []
  /-- Each extent of a symbolic size has a node of its own. -/
  | symbolicSize (id : NodeId) (next : Nat) (extents : List Nat)
      (hdynamic : config.dynamicShapes = true) :
      Unpacks config role p id next (.size extents)
        (.container .size (extents.mapIdx fun k _ => symbolicNumber ⟨next + k⟩ .int .none) id p)
        (extents.mapIdx fun k extent =>
          .subscript ⟨next + k⟩ id k (some (.int (Word.signed extent))))
  | tuple {id : NodeId} {next : Nat} {items : List Value} {contents : List Variable}
      {new : List Node} (h : UnpacksAll config role p id 0 next items contents new) :
      Unpacks config role p id next (.tuple items) (.container .tuple contents none p) new
  | list {id : NodeId} {next : Nat} {items : List Value} {contents : List Variable}
      {new : List Node} (h : UnpacksAll config role p id 0 next items contents new)
      (identity : Nat) :
      Unpacks config role p id next (.list items)
        (.container .list contents none { p with identity := some identity }) new
  | record {id : NodeId} {next : Nat} {items : List Value} {contents : List Variable}
      {new : List Node} (h : UnpacksAll config role p id 0 next items contents new)
      (type : RecordType) :
      Unpacks config role p id next (.record type items)
        (.container (.record type) contents none p) new

/-- The variables stand for the items of a node's example from an index on. -/
inductive UnpacksAll (config : Config) (role : TensorRole) (p : Provenance) :
    NodeId → Nat → Nat → List Value → List Variable → List Node → Prop where
  | nil (id : NodeId) (index next : Nat) : UnpacksAll config role p id index next [] [] []
  /-- An absent item has no node, but counts as an item. -/
  | none {id : NodeId} {index next : Nat} {rest : List Value} {others : List Variable}
      {new : List Node} (h : UnpacksAll config role p id (index + 1) next rest others new) :
      UnpacksAll config role p id index next (.none :: rest) (.constant .none p :: others) new
  | item {id : NodeId} {index next : Nat} {value : Value} {rest : List Value} {first : Variable}
      {others : List Variable} {inside new : List Node} (hnone : value.isNone = false)
      (hfirst : Unpacks config role p ⟨next⟩ (next + 1) value first inside)
      (h : UnpacksAll config role p id (index + 1) (next + 1 + inside.length) rest others new) :
      UnpacksAll config role p id index next (value :: rest) (first :: others)
        (.subscript ⟨next⟩ id index value :: (inside ++ new))

end

end TensorCapture
