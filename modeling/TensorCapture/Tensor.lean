import TensorCapture.Device
import TensorCapture.Fault
import TensorCapture.Scalar
import TensorCapture.Shape

set_option autoImplicit false

/-! # Tensors

A tensor carries metadata and, unless it is a placeholder, its elements in row-major order.
The strides are metadata only: the elements do not move when the strides change. A tensor is
well formed when it has one stride for each extent and, where it is dense, one element for
each position of its shape.
-/

namespace TensorCapture

/-- The elements of a tensor, all as doubles. -/
inductive Storage where
  /-- Elements in row-major order. -/
  | dense (elements : Array Float)
  /-- No elements: only the shape and the other metadata are known. -/
  | placeholder

/-- A tensor. -/
structure Tensor where
  elementType : ElementType
  device : Device
  size : List Nat
  stride : List Nat
  storage : Storage
  requiresGrad : Bool
  runtimeClass : RuntimeClass

namespace Tensor

/-- Whether only the metadata is known. -/
def isPlaceholder (t : Tensor) : Bool :=
  match t.storage with
  | .placeholder => true
  | .dense _ => false

/-- The elements, where they are known. -/
def elements? (t : Tensor) : Option (Array Float) :=
  match t.storage with
  | .placeholder => none
  | .dense elements => some elements

/-- The number of axes. -/
def ndim (t : Tensor) : Nat := t.size.length

/-- The number of positions of the shape, where it fits a word. -/
def numel? (t : Tensor) : Option Nat := Shape.size? t.size

/-- Whether the strides describe a dense row-major layout. -/
def isContiguous (t : Tensor) : Bool := Shape.isContiguous t.size t.stride

/-- A tensor on the processor with row-major strides. -/
def ofStorage (size : List Nat) (storage : Storage) (elementType : ElementType) : Tensor where
  elementType := elementType
  device := .cpu
  size := size
  stride := Shape.strides size
  storage := storage
  requiresGrad := false
  runtimeClass := .tensor

/-- A dense tensor with these elements. -/
def ofElements (size : List Nat) (elements : Array Float) (elementType : ElementType) : Tensor :=
  ofStorage size (.dense elements) elementType

/-- A placeholder of this shape. -/
def placeholder (size : List Nat) (elementType : ElementType) : Tensor :=
  ofStorage size .placeholder elementType

/-- The tensor without axes that holds one number. -/
def scalar (number : Scalar) : Tensor :=
  ofElements [] #[number.toFloat] number.elementType

/-- The same metadata without the elements. -/
def erase (t : Tensor) : Tensor := { t with storage := .placeholder }

/-- A tensor of the plain class, of another shape and other elements, with row-major strides;
element type, device and gradient flag stay. -/
def derive (t : Tensor) (size : List Nat) (storage : Storage) : Tensor :=
  { t with size, stride := Shape.strides size, storage, runtimeClass := .tensor }

/-- The tensor as a parameter of a module. -/
def toParameter (t : Tensor) : Tensor :=
  { t with runtimeClass := .parameter, requiresGrad := true }

/-- As many copies of a number as a shape has positions, where they can be allocated. -/
def filled? (size : List Nat) (value : Float) : Option (Array Float) :=
  (Shape.size? size).bind fun n =>
    if n ≤ Word.allocatable then some (Array.replicate n value) else none

/-- One stride for each extent and, where dense, one element for each position. -/
def WellFormed (t : Tensor) : Prop :=
  t.stride.length = t.size.length ∧
    match t.storage with
    | .dense elements => elements.size = Shape.volume t.size
    | .placeholder => True

@[simp] theorem isPlaceholder_erase (t : Tensor) : t.erase.isPlaceholder = true := rfl

@[simp] theorem erase_erase (t : Tensor) : t.erase.erase = t.erase := rfl

theorem derive_erase (t : Tensor) (size : List Nat) (storage : Storage) :
    t.erase.derive size storage = t.derive size storage := rfl

theorem erase_derive (t : Tensor) (size : List Nat) (storage : Storage) :
    (t.derive size storage).erase = t.derive size .placeholder := rfl

end Tensor

end TensorCapture
