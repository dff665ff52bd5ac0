import TensorCapture.Device
import TensorCapture.Scalar
import TensorCapture.Text.Quoted
import TensorCapture.Word

set_option autoImplicit false

/-! # Literals

Values that a captured graph can hold as they stand.
-/

namespace TensorCapture

/-- A value written into the graph. -/
inductive Literal where
  | none
  | bool (value : Bool)
  | int (value : Int64)
  | float (value : Float)
  | text (value : String)
  | tuple (items : List Literal)
  | elementType (value : ElementType)
  | device (value : Device)
  | memoryFormat (value : MemoryFormat)

namespace Literal

/-- An integer or a truth value as an integer. -/
def toInt? : Literal → Option Int64
  | int value => some value
  | bool value => some (if value then 1 else 0)
  | _ => Option.none

/-- The name of the value's type in the traced program. -/
def typeName : Literal → String
  | none => "NoneType"
  | bool _ => "bool"
  | int _ => "int"
  | float _ => "float"
  | text _ => "str"
  | tuple _ => "tuple"
  | elementType _ => "torch.dtype"
  | device _ => "torch.device"
  | memoryFormat _ => "torch.memory_format"

/-- A number as a literal. -/
def ofScalar : Scalar → Literal
  | .int value => int value
  | .bool value => bool value
  | .float value => float value

/-- Extents or strides as a tuple of integers. -/
def ofExtents (extents : List Nat) : Literal :=
  tuple (extents.map fun n => int (Word.signed n))

/-- The texts of a tuple's items; a tuple of one keeps its comma. -/
def tupleText : List String → String
  | [item] => "(" ++ item ++ ",)"
  | items => "(" ++ ", ".intercalate items ++ ")"

mutual

/-- The literal as the traced program would show it. -/
def render : Literal → String
  | none => "None"
  | bool value => if value then "True" else "False"
  | int value => toString value.toInt
  | float value => doubleLayout.render value
  | text value => Text.quote value
  | tuple items => tupleText (renderAll items)
  | elementType value => value.name
  | device value => "device(" ++ value.text ++ ")"
  | memoryFormat value => value.tag

/-- The texts of several literals. -/
def renderAll : List Literal → List String
  | [] => []
  | item :: rest => render item :: renderAll rest

end

end Literal

end TensorCapture
