import TensorCapture.Library.Arguments

set_option autoImplicit false

/-! # Elementwise kernels

Operations that treat each element on its own. The result has the shape of the first tensor
operand; a second tensor has the same shape or one element, which then meets every element.
-/

namespace TensorCapture.Kernel

/-- The result of an operation on two tensors; `this` gives the shape. -/
def onTensors (mode : Mode) (name : String) (op : Float → Float → Float) (this other : Tensor) :
    Kernel Value := do
  if other.size ≠ this.size then
    let count ← Outcome.ofBounded other.numel?
    if count ≠ 1 then fail (.shapesDiffer name other.size this.size)
  let storage ← storageUnless (mode.erases [this, other]) do
    let a ← elementsOf this
    let b ← elementsOf other
    Outcome.ofBounded <| gather? a.size fun i => do
      let x ← a[i]?
      let y ← b[if b.size = 1 then 0 else i]?
      some (op x y)
  .ok <| .tensor
    { this.derive this.size storage with
      elementType := this.elementType.promote other.elementType
      requiresGrad := this.requiresGrad || other.requiresGrad }

/-- The result of an operation on a tensor and a number. -/
def onScalar (mode : Mode) (op : Float → Float) (this : Tensor) : Kernel Value := do
  let storage ← storageUnless (mode.erases [this]) do
    let a ← elementsOf this
    .ok (a.map op)
  .ok (.tensor (this.derive this.size storage))

/-- An operation on a tensor and another value; `flip` says that the tensor stands second. -/
def onTensor (mode : Mode) (name : String) (op : Float → Float → Float) (flip : Bool)
    (this : Tensor) (other : Value) : Kernel Value :=
  let op := if flip then fun a b => op b a else op
  match other with
  | .tensor other => onTensors mode name op this other
  | other => do
      let number ← orFail (.unusableOperand name other.typeName) other.toScalar?
      onScalar mode (fun a => op a number.toFloat) this

/-- An operation on two values, of which one at least is a tensor. -/
def elementwise (mode : Mode) (name : String) (op : Float → Float → Float) (lhs rhs : Value) :
    Kernel Value :=
  match lhs, rhs with
  | .tensor this, other => onTensor mode name op false this other
  | other, .tensor this => onTensor mode name op true this other
  | _, _ => fail (.noTensorOperand name)

/-- An operation on each element of one tensor. -/
def unary (mode : Mode) (op : Float → Float) (input : Value) : Kernel Value := do
  let this ← tensorOf input
  onScalar mode op this

/-- The element cut off at zero; a number that is not comparable becomes zero. -/
def relu (x : Float) : Float := if x.isNaN || x < 0.0 then 0.0 else x

/-- The remainder with the sign of the divisor. -/
def floatMod (a b : Float) : Float := Decimal.remainder (Decimal.remainder a b + b) b

end TensorCapture.Kernel
