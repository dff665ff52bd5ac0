import TensorCapture.Word

set_option autoImplicit false

/-! # Shapes and strides

A shape lists the extents of a tensor, outermost axis first. Its row-major strides say how far
apart neighbours along each axis lie when the elements are stored row after row. Products
saturate at the largest word, so that a shape of any extents has strides.
-/

namespace TensorCapture.Shape

/-- The product of the extents, staying at the largest word. It is formed from the right, as
the strides are. -/
def saturatedSize : List Nat → Nat
  | [] => 1
  | n :: rest => Word.mulSat (saturatedSize rest) n

/-- The row-major strides of a shape: each axis steps over all elements of the axes after it. -/
def strides : List Nat → List Nat
  | [] => []
  | _ :: rest => saturatedSize rest :: strides rest

/-- The stride that the next axis to the left has to carry in a dense layout, or nothing when
the axes from here on are not dense. An axis of extent one may carry any stride. -/
def denseStep : List Nat → List Nat → Option Nat
  | [], [] => some 1
  | n :: shape, s :: stride =>
      (denseStep shape stride).bind fun expected =>
        if n = 1 then some expected
        else if s = expected then some (Word.mulSat expected n)
        else none
  | _, _ => none

/-- Whether the strides describe a dense row-major layout of the shape. -/
def isContiguous (shape stride : List Nat) : Bool := (denseStep shape stride).isSome

/-- The number of elements, where it fits a word. -/
def size? (shape : List Nat) : Option Nat := Word.product? shape

/-- The number of positions, which is the product of the extents. -/
def volume : List Nat → Nat
  | [] => 1
  | n :: rest => n * volume rest

/-- What is left of a row-major position above the axes of the shape, and the index along each
axis: the last axis takes the remainder first. -/
def unravelFrom : List Nat → Nat → Nat × List Nat
  | [], position => (position, [])
  | n :: rest, position =>
      let (above, index) := unravelFrom rest position
      (above / n, above % n :: index)

/-- The multi-index of a row-major position. -/
def unravel (shape : List Nat) (position : Nat) : List Nat := (unravelFrom shape position).2

/-- The row-major position of a multi-index. -/
def rank : List Nat → List Nat → Nat
  | _ :: shape, i :: index => i * volume shape + rank shape index
  | _, _ => 0

@[simp] theorem length_strides (shape : List Nat) : (strides shape).length = shape.length := by
  induction shape with
  | nil => rfl
  | cons n rest ih => simp [strides, ih]

@[simp] theorem length_unravel (shape : List Nat) (position : Nat) :
    (unravel shape position).length = shape.length := by
  induction shape with
  | nil => rfl
  | cons n rest ih => simpa [unravel, unravelFrom] using ih

end TensorCapture.Shape
