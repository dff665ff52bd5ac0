import TensorCapture.Decimal.Layout
import TensorCapture.RuntimeClass

set_option autoImplicit false

/-! # Scalars

The numbers of the traced program: signed words, truth values and doubles. A message shows a
double with the fewest digits that read back.
-/

namespace TensorCapture

/-- Doubles in messages: positional from 10^-4 to below 10^16, otherwise with an exponent; of
two equally near decimals the larger one. -/
def doubleLayout : Decimal.Layout where
  positionalFrom := -4
  positionalTo := 15
  exponentMark := "e"
  tie := .away
  nan := "NaN"
  infinity := "inf"
  negativeInfinity := "-inf"

/-- A number of the traced program. -/
inductive Scalar where
  | int (value : Int64)
  | bool (value : Bool)
  | float (value : Float)

namespace Scalar

/-- The exact class of the number. -/
def runtimeClass : Scalar → RuntimeClass
  | int _ => .int
  | bool _ => .bool
  | float _ => .float

/-- The element of a zero tensor of this type. -/
def zero (t : ElementType) : Scalar :=
  if t = .bool then bool false
  else if t.isFloating then float 0.0
  else int 0

/-- The number as a double. -/
def toFloat : Scalar → Float
  | int value => value.toFloat
  | bool value => if value then 1.0 else 0.0
  | float value => value

/-- The element of a tensor as a number of its type: other than zero is true, and a double is
cut towards zero and kept in range. -/
def ofElement (t : ElementType) (value : Float) : Scalar :=
  if t = .bool then bool (value != 0.0)
  else if t.isFloating then float value
  else int value.toInt64

/-- The element type of a tensor made of the number. -/
def elementType : Scalar → ElementType
  | int _ => .i64
  | bool _ => .bool
  | float _ => .f32

/-- The number with its kind, for messages. -/
def describe : Scalar → String
  | int value => "Int(" ++ toString value.toInt ++ ")"
  | bool value => "Bool(" ++ toString value ++ ")"
  | float value => "Float(" ++ doubleLayout.render value ++ ")"

end Scalar

end TensorCapture
