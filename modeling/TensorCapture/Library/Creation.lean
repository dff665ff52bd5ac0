import TensorCapture.Library.Arguments
import TensorCapture.Library.Generator

set_option autoImplicit false

/-! # Kernels that create tensors -/

namespace TensorCapture.Kernel

/-- The element type asked for by name, 32-bit floating point where none is. -/
def elementTypeOf (kwargs : Named Value) : Kernel ElementType :=
  match kwargs.get? "dtype" with
  | some (.elementType t) => .ok t
  | some other => fail (.notAnElementType other.typeName)
  | none => .ok .f32

/-- A new tensor of copies of a number. -/
def filled (mode : Mode) (value : Float) (args : List Value) (kwargs : Named Value) :
    Kernel Value := do
  let size ← shapeOf args
  let elementType ← elementTypeOf kwargs
  match mode with
  | .placeholder => .ok (.tensor (Tensor.placeholder size elementType))
  | .eager => do
      let count ← allocate (Shape.size? size)
      .ok (.tensor (Tensor.ofElements size (Array.replicate count value) elementType))

/-- A new tensor of random numbers in `[0, 1)`, drawn in row-major order. -/
def uniform (mode : Mode) (args : List Value) (kwargs : Named Value) (g : Generator) :
    Kernel (Value × Generator) := do
  let size ← shapeOf args
  let elementType ← elementTypeOf kwargs
  match mode with
  | .placeholder => .ok (.tensor (Tensor.placeholder size elementType), g)
  | .eager => do
      let count ← allocate (Shape.size? size)
      let (elements, g) := g.nextUnits count
      .ok (.tensor (Tensor.ofElements size elements.toArray elementType), g)

/-- A new tensor of zeros like another one. -/
def zerosLike (mode : Mode) (this : Tensor) (args : List Value) : Kernel Value := do
  let size ← shapeOf args
  let storage ← storageUnless (mode.erases [this]) do
    let count ← allocate (Shape.size? size)
    .ok (Array.replicate count 0.0)
  .ok (.tensor { this.derive size storage with requiresGrad := false })

end TensorCapture.Kernel
