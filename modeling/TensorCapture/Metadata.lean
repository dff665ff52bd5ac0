import TensorCapture.Config
import TensorCapture.Tensor

set_option autoImplicit false

/-! # Captured metadata

What a trace remembers of a tensor. The layout is remembered only where shapes are static.
-/

namespace TensorCapture

/-- Extents, strides and contiguity of a tensor with a static shape. -/
structure StaticLayout where
  size : List Nat
  stride : List Nat
  isContiguous : Bool
  deriving DecidableEq, Repr

/-- What a tensor shows of itself, without its elements. -/
structure TensorView where
  elementType : ElementType
  device : Device
  size : List Nat
  stride : List Nat
  requiresGrad : Bool
  isQuantized : Bool
  isSparse : Bool
  runtimeClass : RuntimeClass
  deriving DecidableEq, Repr

/-- The view of a tensor of the library, which is neither quantized nor sparse. -/
def Tensor.view (t : Tensor) : TensorView :=
  ⟨t.elementType, t.device, t.size, t.stride, t.requiresGrad, false, false, t.runtimeClass⟩

/-- The remembered metadata of a tensor. -/
structure Metadata where
  elementType : ElementType
  device : Device
  ndim : Nat
  requiresGrad : Bool
  isQuantized : Bool
  isSparse : Bool
  runtimeClass : RuntimeClass
  /-- Absent where shapes are dynamic. -/
  layout : Option StaticLayout
  deriving DecidableEq, Repr

/-- What is remembered of a tensor. -/
def TensorView.specialize (t : TensorView) (config : Config) : Metadata where
  elementType := t.elementType
  device := t.device
  ndim := t.size.length
  requiresGrad := t.requiresGrad
  isQuantized := t.isQuantized
  isSparse := t.isSparse
  runtimeClass := t.runtimeClass
  layout :=
    if config.dynamicShapes then none
    else some ⟨t.size, t.stride, Shape.isContiguous t.size t.stride⟩

/-- What is remembered of a tensor of the library. -/
def Tensor.specialize (t : Tensor) (config : Config) : Metadata := t.view.specialize config

theorem Tensor.specialize_erase (t : Tensor) (config : Config) :
    t.erase.specialize config = t.specialize config := rfl

theorem TensorView.layout_specialize_isSome_iff (t : TensorView) (config : Config) :
    (t.specialize config).layout.isSome ↔ config.dynamicShapes = false := by
  unfold specialize
  cases config.dynamicShapes <;> simp

end TensorCapture
