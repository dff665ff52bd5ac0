set_option autoImplicit false

/-! # Element types

The scalar types that the elements of a tensor can have.
-/

namespace TensorCapture

/-- The type of the elements of a tensor. -/
inductive ElementType where
  | bool
  | u8
  | i8
  | i16
  | i32
  | i64
  | f16
  | bf16
  | f32
  | f64
  deriving DecidableEq, Repr

namespace ElementType

/-- Every element type. -/
def all : List ElementType := [bool, u8, i8, i16, i32, i64, f16, bf16, f32, f64]

/-- Whether the elements are floating-point numbers. -/
def isFloating : ElementType → Bool
  | f16 | bf16 | f32 | f64 => true
  | _ => false

/-- The number of bytes of one element. -/
def bytes : ElementType → Nat
  | bool | u8 | i8 => 1
  | i16 | f16 | bf16 => 2
  | i32 | f32 => 4
  | i64 | f64 => 8

/-- The name that messages use. -/
def name : ElementType → String
  | bool => "torch.bool"
  | u8 => "torch.uint8"
  | i8 => "torch.int8"
  | i16 => "torch.int16"
  | i32 => "torch.int32"
  | i64 => "torch.int64"
  | f16 => "torch.float16"
  | bf16 => "torch.bfloat16"
  | f32 => "torch.float32"
  | f64 => "torch.float64"

/-- The name in documents. -/
def tag : ElementType → String
  | bool => "Bool"
  | u8 => "U8"
  | i8 => "I8"
  | i16 => "I16"
  | i32 => "I32"
  | i64 => "I64"
  | f16 => "F16"
  | bf16 => "BF16"
  | f32 => "F32"
  | f64 => "F64"

/-- The element type of an operation on two: a floating one wins over another, else the wider
one, and of equally wide ones the first. -/
def promote (a b : ElementType) : ElementType :=
  if a.isFloating && !b.isFloating then a
  else if !a.isFloating && b.isFloating then b
  else if b.bytes ≤ a.bytes then a
  else b

theorem mem_all (t : ElementType) : t ∈ all := by cases t <;> decide

end ElementType

end TensorCapture
