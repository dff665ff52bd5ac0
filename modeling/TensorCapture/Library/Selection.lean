import TensorCapture.Library.Arguments

set_option autoImplicit false

/-! # Kernels that select elements

Subscripts, lengths, pieces along the first axis, the one element of a tensor, and the
positions of the elements other than zero.
-/

namespace TensorCapture.Kernel

/-- The rows from one up to another, for rows of this many elements. -/
def rows (mode : Mode) (this : Tensor) (row start stop : Nat) : Kernel Storage :=
  storageUnless (mode.erases [this]) do
    let a ← elementsOf this
    Outcome.ofBounded (slice? a (start * row) (stop * row))

/-- The item of a sequence at an index. -/
def itemOf (items : List Value) (index : Int64) : Kernel Value := do
  let position ← resolveIndex index items.length
  Outcome.ofBounded items[position]?

/-- The item of a sequence, extent of a size, or row of a tensor at an index. -/
def subscript (mode : Mode) (container index : Value) : Kernel Value := do
  let index ← integerOf index
  match container with
  | .tuple items => itemOf items index
  | .list items => itemOf items index
  | .record _ items => itemOf items index
  | .size extents => do
      let position ← resolveIndex index extents.length
      let extent ← Outcome.ofBounded extents[position]?
      .ok (.int (Word.signed extent))
  | .tensor this =>
      match this.size with
      | [] => fail .subscriptOfScalar
      | first :: rest => do
          let position ← resolveIndex index first
          let storage ←
            if mode.erases [this] then .ok Storage.placeholder
            else do
              let row ← Outcome.ofBounded (Word.product? rest)
              rows mode this row position (position + 1)
          .ok (.tensor (this.derive rest storage))
  | other => fail (.notSubscriptable other.typeName)

/-- The number of items, extents or rows. -/
def length (v : Value) : Kernel Value :=
  match v with
  | .tensor this =>
      match this.size with
      | [] => fail .lengthOfScalar
      | first :: _ => .ok (.int (Word.signed first))
  | .tuple items => .ok (.int (Word.signed items.length))
  | .list items => .ok (.int (Word.signed items.length))
  | .size extents => .ok (.int (Word.signed extents.length))
  | other => fail (.noLength other.typeName)

/-- The one element of a tensor as a number. -/
def item (mode : Mode) (this : Tensor) : Kernel Value :=
  if mode.erases [this] then Outcome.fail (.dataDependentOutput "aten._local_scalar_dense.default")
  else do
    let a ← elementsOf this
    match a.toList with
    | [x] => .ok (.ofScalar (.ofElement this.elementType x))
    | xs => fail (.notOneElement xs.length)

/-- The ranges of rows that pieces of at most `step` rows cover, from `start` on. -/
def ranges (step first : Nat) (start : Nat) : Kernel (List (Nat × Nat)) :=
  if _h : start < first ∧ 0 < step then do
    let _ ← Outcome.ofBounded (Word.add? start step)
    let stop := min (start + step) first
    let rest ← ranges step first stop
    .ok ((start, stop) :: rest)
  else .ok []
termination_by first - start
decreasing_by omega

/-- The quotient, rounded up. -/
def divideUp (n d : Nat) : Nat := (n + d - 1) / d

/-- Pieces along the first axis, at most `count` of them, all but the last of equal length. -/
def pieces (mode : Mode) (this : Tensor) (count : Int64) : Kernel Value :=
  match this.size with
  | [] => fail .pieceRank
  | first :: rest =>
      if count ≤ 0 then fail .pieceCountNotPositive
      else do
        let step := max (divideUp first count.toInt.toNat) 1
        let row ← Outcome.ofBounded (Word.product? rest)
        let parts ← ranges step first 0
        let parts ← parts.mapM fun (start, stop) => do
          let storage ← rows mode this row start stop
          .ok (Value.tensor (this.derive ((stop - start) :: rest) storage))
        .ok (.tuple parts)

/-- The multi-indices of the elements other than zero, one row each, in row-major order. -/
def nonzero (mode : Mode) (input : Value) : Kernel Value := do
  let this ← tensorOf input
  if mode.erases [this] then Outcome.fail (.dynamicOutputShape "aten.nonzero.default")
  else do
    let a ← elementsOf this
    let positions := (List.range a.size).filter fun i => a[i]?.any (· != 0.0)
    let indices := positions.map (Shape.unravel this.size)
    let coordinates := indices.flatten.map fun i => (UInt64.ofNat i).toFloat
    .ok (.tensor (Tensor.ofElements [positions.length, this.ndim] coordinates.toArray .i64))

end TensorCapture.Kernel
