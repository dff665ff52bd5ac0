import TensorCapture.Library.Arguments

set_option autoImplicit false

/-! # Kernels that rearrange elements

Views of another shape, transposition and tiling.
-/

namespace TensorCapture.Kernel

/-- The extent that a requested one stands for; `-1` stands for the inferred one. -/
def chosenExtent (inferred : Nat) (d : Int64) : Nat :=
  if d = -1 then inferred else d.toInt.toNat

/-- The shape that a requested one stands for, in a view of `count` elements. One `-1` at most
stands for the extent that is left. -/
def viewShape (shape : List Int64) (count : Nat) : Kernel (List Nat) := do
  let known ← Outcome.ofBounded (Word.productSigned? (shape.filter (· ≠ -1)))
  let inferred := shape.count (-1)
  let resolved ←
    if inferred = 0 then .ok (shape.map (chosenExtent 0))
    else if inferred = 1 ∧ 0 < known then
      .ok (shape.map (chosenExtent (count / known.toInt.toNat)))
    else fail .inferredExtents
  let size ← Outcome.ofBounded (Word.product? resolved)
  if size ≠ count then fail (.viewOfOtherSize (shape.map Int64.toInt) count)
  else .ok resolved

/-- The same elements in another shape. -/
def view (this : Tensor) (args : List Value) : Kernel Value := do
  let shape ← signedShapeOf args
  let count ← Outcome.ofBounded this.numel?
  let size ← viewShape shape count
  .ok (.tensor (this.derive size this.storage))

/-- The matrix with rows and columns exchanged. -/
def transpose (this : Tensor) : Kernel Value :=
  match this.size with
  | [r, c] => do
      let storage ← match this.storage with
        | .placeholder => .ok Storage.placeholder
        | .dense a => do
            let count ← Outcome.ofBounded (Word.mul? r c)
            let elements ← Outcome.ofBounded <|
              gather? count fun flat => a[flat % r * c + flat / r]?
            .ok (Storage.dense elements)
      let outer ← Outcome.ofBounded this.stride[0]?
      let inner ← Outcome.ofBounded this.stride[1]?
      .ok (.tensor { this.derive [c, r] storage with stride := [inner, outer] })
  | _ => fail .transposeRank

/-- What is known while a position of a tiling is decoded, from the last axis on: what is left of it
above the axes so far, the position in the tensor along these axes, and how far apart neighbours
along the next axis are in the tensor. -/
structure TileCursor where
  left : Nat
  origin : Nat
  scale : Nat

/-- Decodes the index along the next axis, given the extents of the tensor and of the tiling. -/
def TileCursor.step (extents : Nat × Nat) (cursor : TileCursor) : TileCursor where
  left := cursor.left / extents.2
  origin := cursor.origin + cursor.left % extents.2 % extents.1 * cursor.scale
  scale := cursor.scale * extents.1

/-- The position in the tensor that a position of a tiling stands for. -/
def tileOrigin (size tiled : List Nat) (flat : Nat) : Nat :=
  ((List.zip size tiled).foldr TileCursor.step ⟨flat, 0, 1⟩).origin

/-- Copies of the tensor laid side by side along each axis. -/
def tile (mode : Mode) (this : Tensor) (counts : List Nat) : Kernel Value := do
  if counts.length ≠ this.ndim then fail (.repeatCounts this.ndim counts.length)
  else do
    let tiled ← (List.zip this.size counts).mapM fun (s, r) => Outcome.ofBounded (Word.mul? s r)
    let storage ← storageUnless (mode.erases [this]) do
      let a ← elementsOf this
      let count ← allocate (Shape.size? tiled)
      Outcome.ofBounded <| gather? count fun flat => a[tileOrigin this.size tiled flat]?
    .ok (.tensor (this.derive tiled storage))

end TensorCapture.Kernel
