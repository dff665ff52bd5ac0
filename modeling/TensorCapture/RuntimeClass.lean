import TensorCapture.ElementType

set_option autoImplicit false

/-! # Runtime classes

The classes that the traced program can observe on a value, with their subclass relation.
-/

namespace TensorCapture

/-- Tensor classes of one element type; membership is decided by the element type. -/
inductive TypedClass where
  | float
  | double
  | half
  | bfloat16
  | byte
  | char
  | short
  | int
  | long
  | bool
  deriving DecidableEq, Repr

namespace TypedClass

/-- Every typed class. -/
def all : List TypedClass := [float, double, half, bfloat16, byte, char, short, int, long, bool]

/-- The element type of the members. -/
def elementType : TypedClass → ElementType
  | float => .f32
  | double => .f64
  | half => .f16
  | bfloat16 => .bf16
  | byte => .u8
  | char => .i8
  | short => .i16
  | int => .i32
  | long => .i64
  | bool => .bool

/-- The name in documents. -/
def tag : TypedClass → String
  | float => "FloatTensor"
  | double => "DoubleTensor"
  | half => "HalfTensor"
  | bfloat16 => "BFloat16Tensor"
  | byte => "ByteTensor"
  | char => "CharTensor"
  | short => "ShortTensor"
  | int => "IntTensor"
  | long => "LongTensor"
  | bool => "BoolTensor"

end TypedClass

/-- The class of a value. -/
inductive RuntimeClass where
  | tensor
  | parameter
  /-- A user-defined subclass of the tensor class, by name. -/
  | subclass (name : String)
  | typed (typedClass : TypedClass)
  | int
  | bool
  | float
  deriving DecidableEq, Repr

namespace RuntimeClass

/-- The subclass relation: every class is one of its own subclasses, parameters and
user-defined subclasses are tensors, and truth values are integers. -/
def isSubclassOf (c d : RuntimeClass) : Bool :=
  c = d ||
    match c, d with
    | .parameter, .tensor => true
    | .subclass _, .tensor => true
    | .bool, .int => true
    | _, _ => false

/-- Whether the members are tensors. -/
def isTensor (c : RuntimeClass) : Bool := c.isSubclassOf .tensor

/-- The name that the traced program sees. -/
def name : RuntimeClass → String
  | .tensor => "torch.Tensor"
  | .parameter => "torch.nn.Parameter"
  | .subclass name => name
  | .typed c => "torch." ++ c.tag
  | .int => "int"
  | .bool => "bool"
  | .float => "float"

end RuntimeClass

end TensorCapture
