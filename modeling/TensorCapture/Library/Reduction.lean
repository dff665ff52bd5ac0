import TensorCapture.Library.Arguments

set_option autoImplicit false

/-! # Kernels that combine elements

Sums, matrix products and maxima along an axis. Sums go from the left, starting from negative
zero.
-/

namespace TensorCapture.Kernel

/-- The sum of all elements. -/
def total (mode : Mode) (this : Tensor) : Kernel Value := do
  let storage ← storageUnless (mode.erases [this]) do
    let a ← elementsOf this
    .ok #[sum a.toList]
  .ok (.tensor (this.derive [] storage))

/-- One entry of the product of an `m × k` and a `k × n` matrix. -/
def entry? (x y : Array Float) (k n i j : Nat) : Option Float :=
  ((List.range k).mapM fun p => do
    let a ← x[i * k + p]?
    let b ← y[p * n + j]?
    some (a * b)).map sum

/-- The product of two matrices. -/
def matmul (mode : Mode) (lhs rhs : Value) : Kernel Value := do
  let a ← tensorOf lhs
  let b ← tensorOf rhs
  match a.size, b.size with
  | [m, k], [k', n] =>
      if k ≠ k' then fail (.innerExtentsDiffer k k')
      else do
        let storage ← storageUnless (mode.erases [a, b]) do
          let x ← elementsOf a
          let y ← elementsOf b
          let count ← allocate (Word.mul? m n)
          Outcome.ofBounded <| gather? count fun flat => entry? x y k n (flat / n) (flat % n)
        .ok <| .tensor
          { a.derive [m, n] storage with requiresGrad := a.requiresGrad || b.requiresGrad }
  | _, _ => fail .notMatrices

/-- The largest element so far, with its position, starting from negative infinity: a later
element counts only when it is larger. -/
def best (slice : List (Nat × Float)) : Nat × Float :=
  slice.foldl (fun top next => if next.2 > top.2 then next else top) (0, -(1.0 / 0.0))

/-- The elements of one slice along an axis with their positions on it. -/
def axisSlice? (data : Array Float) (extent inner outer offset : Nat) :
    Option (List (Nat × Float)) :=
  (List.range extent).mapM fun l =>
    (data[(outer * extent + l) * inner + offset]?).map fun v => (l, v)

/-- The class of the two results of a maximum along an axis. -/
def maxResult : RecordType := ⟨"torch.return_types.max", ["values", "indices"]⟩

/-- The largest elements along an axis, and their positions on it. -/
def maxAlong (mode : Mode) (input axis : Value) : Kernel Value := do
  let this ← tensorOf input
  let axis ← integerOf axis
  let axis ← resolveAxis axis this.ndim
  let outer ← Outcome.ofBounded (Word.product? (this.size.take axis))
  let extent ← Outcome.ofBounded this.size[axis]?
  let inner ← Outcome.ofBounded (Word.product? (this.size.drop (axis + 1)))
  let size := this.size.eraseIdx axis
  let (values, indices) ←
    if mode.erases [this] then .ok (Storage.placeholder, Storage.placeholder)
    else do
      let data ← elementsOf this
      let count ← allocate (Word.mul? outer inner)
      let tops ← Outcome.ofBounded <| (List.range count).mapM fun flat =>
        (axisSlice? data extent inner (flat / inner) (flat % inner)).map best
      .ok (Storage.dense (tops.map Prod.snd).toArray,
        Storage.dense (tops.map fun top => (UInt64.ofNat top.1).toFloat).toArray)
  .ok <| .record maxResult
    [.tensor (this.derive size values),
      .tensor { this.derive size indices with elementType := .i64, requiresGrad := false }]

end TensorCapture.Kernel
