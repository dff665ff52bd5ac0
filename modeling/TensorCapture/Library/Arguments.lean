import TensorCapture.Library.Error
import TensorCapture.Value

set_option autoImplicit false

/-! # Reading arguments

How the kernels read their arguments, and the two modes they run in. In placeholder mode, and
whenever an input is a placeholder, a result has no elements.
-/

namespace TensorCapture

/-- How the kernels run. -/
inductive Mode where
  /-- Elements are computed. -/
  | eager
  /-- Only shapes and other metadata are computed. -/
  | placeholder
  deriving DecidableEq, Repr

/-- Whether the result of an operation on these tensors has no elements. -/
def Mode.erases (mode : Mode) (inputs : List Tensor) : Bool :=
  mode = .placeholder || inputs.any Tensor.isPlaceholder

namespace Kernel

/-- A tensor. -/
def tensorOf (v : Value) : Kernel Tensor := orFail (.notATensor v.typeName) v.toTensor?

/-- An integer; truth values count as zero and one. -/
def integerOf (v : Value) : Kernel Int64 :=
  match v with
  | .int value => .ok value
  | .bool value => .ok (if value then 1 else 0)
  | other => fail (.notAnInteger other.typeName)

/-- A number. -/
def numberOf (v : Value) : Kernel Scalar := orFail (.notANumber v.typeName) v.toScalar?

/-- The elements of a tensor. -/
def elementsOf (t : Tensor) : Kernel (Array Float) := orFail .elementsOfPlaceholder t.elements?

/-- The elements of a result: none where the inputs or the mode erase them. -/
def storageUnless (erased : Bool) (elements : Kernel (Array Float)) : Kernel Storage :=
  if erased then .ok .placeholder else elements.map Storage.dense

/-- An index counted from the end where it is negative. -/
def resolveIndex (index : Int64) (size : Nat) : Kernel Nat := do
  let size64 := Word.signed size
  let resolved ←
    if index < 0 then Outcome.ofBounded (Word.addSigned? index size64) else .ok index
  if resolved < 0 || size64 ≤ resolved then fail (.indexOutOfBounds index.toInt size)
  else .ok resolved.toInt.toNat

/-- An axis of a tensor. A tensor without axes takes those of a tensor with one. -/
def resolveAxis (axis : Int64) (rank : Nat) : Kernel Nat :=
  match resolveIndex axis (max rank 1) with
  | .error (.error _) => fail (.axisOutOfRange axis.toInt rank)
  | outcome => outcome

/-- A shape given as one sequence or as separate integers. -/
def signedShapeOf (args : List Value) : Kernel (List Int64) :=
  match args with
  | [.tuple items] => items.mapM integerOf
  | [.list items] => items.mapM integerOf
  | [.size extents] => .ok (extents.map Word.signed)
  | items => items.mapM integerOf

/-- An extent that is not negative. -/
def extentOf (i : Int64) : Kernel Nat :=
  if i < 0 then fail (.negativeExtent i.toInt) else .ok i.toInt.toNat

/-- A shape of extents that are not negative. -/
def shapeOf (args : List Value) : Kernel (List Nat) := do
  let extents ← signedShapeOf args
  extents.mapM extentOf

/-- The elements at the positions below `count`, where each has one. -/
def gather? (count : Nat) (element? : Nat → Option Float) : Option (Array Float) :=
  ((List.range count).mapM element?).map List.toArray

/-- Fewer elements than one allocation can hold, or the end of the run. -/
def allocate (count? : Option Nat) : Kernel Nat :=
  Outcome.ofBounded (count?.bind fun n => if n ≤ Word.allocatable then some n else none)

/-- The elements from one position up to another, where both are in range. -/
def slice? (elements : Array Float) (start stop : Nat) : Option (Array Float) :=
  if start ≤ stop ∧ stop ≤ elements.size then some (elements.extract start stop) else none

/-- The sum from the left, starting from negative zero. -/
def sum (xs : List Float) : Float := xs.foldl (· + ·) (-0.0)

end Kernel

end TensorCapture
