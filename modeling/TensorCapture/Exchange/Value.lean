import TensorCapture.Exchange.Basic
import TensorCapture.Stored.Literal
import TensorCapture.Value

set_option autoImplicit false

/-! # Exchanged values

The exchange forms of scalars, literals, tensors and values. A tensor is described by its size
and by what fills it; all other parts have standard values. In a value, a reference stands for
one of several values that are given beside the document. Reading a tensor or a value may end
the run, for the elements are allocated on the way.
-/

namespace TensorCapture

open Exchange

/-! ## Scalars and literals -/

/-- The exchange form. -/
def Scalar.toExchange : Scalar → Json
  | .float value => Stored.tagged "Float" (ofFloat value)
  | other => other.toJson

/-- A number that may be absent or left out. -/
def Scalar.optionToExchange (detail : Detail) : Option Scalar → Json
  | none => .null
  | some value => if detail = .shapes then withheld else value.toExchange

/-- The scalar in a document. -/
def Scalar.ofExchange? : Json → Option Scalar
  | .object [("Float", content)] => (float? content).map Scalar.float
  | j => Scalar.ofJson? Stored.levelLimit j

namespace Literal

mutual

/-- The exchange form. -/
def toExchange : Literal → Json
  | float value => Stored.tagged "Float" (ofFloat value)
  | tuple items => Stored.tagged "Tuple" (.array (toExchangeAll items))
  | other => other.toJson

/-- The exchange forms of several literals. -/
def toExchangeAll : List Literal → List Json
  | [] => []
  | item :: rest => toExchange item :: toExchangeAll rest

end

mutual

/-- The literal in a document. -/
def ofExchange? : Json → Option Literal
  | .object [("Float", content)] => (float? content).map float
  | .object [("Tuple", .array items)] => (ofExchangeAll? items).map tuple
  | j => ofJson? Stored.levelLimit j

/-- The literals in several documents. -/
def ofExchangeAll? : List Json → Option (List Literal)
  | [] => some []
  | item :: rest => do
      let first ← ofExchange? item
      let others ← ofExchangeAll? rest
      some (first :: others)

end

end Literal

/-! ## Tensors -/

namespace Tensor

/-- The exchange form. -/
def toExchange (detail : Detail) (t : Tensor) : Json :=
  let data : Json := match t.elements? with
    | none => .text "placeholder"
    | some elements =>
        if detail = .shapes then withheld else .array (elements.toList.map ofFloat)
  .object
    [("dtype", .text t.elementType.tag), ("device", .text t.device.text),
      ("size", naturals t.size), ("stride", naturals t.stride),
      ("contiguous", .bool t.isContiguous), ("grad", .bool t.requiresGrad),
      ("class", .text t.runtimeClass.name), ("data", data)]

/-- The elements in a document: as many as the shape has positions, or one for all of them. -/
def elementsOfExchange (size : List Nat) (j : Json) : Reading (Array Float) :=
  match given? "values" j with
  | some values => do
      let values ← .ofOption (list? float? values)
      if Shape.size? size = some values.length then .ok values.toArray else Outcome.stop
  | none => do
      let value ← .ofOption (partOr? "fill" float? 0.0 j)
      Outcome.ofBounded (filled? size value)

/-- The tensor that a document describes by its shape and its elements. -/
def contentOfExchange (j : Json) : Reading Tensor := do
  let size ← .ofOption (part? "size" (list? natural?) j)
  let type ← .ofOption (partOr? "dtype" (ElementType.ofJson? Stored.levelLimit) .f32 j)
  if ← .ofOption (partOr? "placeholder" Stored.bool? false j) then .ok (placeholder size type)
  else do
    let elements ← elementsOfExchange size j
    .ok (ofElements size elements type)

/-- The tensor with the other parts that a document gives. -/
def withPartsOfExchange? (t : Tensor) (j : Json) : Option Tensor := do
  let stride ← partOr? "stride" (list? natural?) t.stride j
  let device ← partOr? "device" (Device.ofJson? Stored.levelLimit) t.device j
  let t := { t with stride, device }
  let isParameter ← partOr? "param" Stored.bool? false j
  let t := if isParameter then t.toParameter else t
  let requiresGrad ← partOr? "requires_grad" Stored.bool? t.requiresGrad j
  let runtimeClass ←
    partOr? "class" (RuntimeClass.ofJson? Stored.levelLimit) t.runtimeClass j
  some { t with requiresGrad, runtimeClass }

/-- The tensor in a document. -/
def ofExchange (j : Json) : Reading Tensor := do
  let t ← contentOfExchange j
  .ofOption (t.withPartsOfExchange? j)

end Tensor

/-! ## Values -/

/-- The class of a tuple with named fields in a document. -/
def RecordType.ofExchange? (j : Json) : Option RecordType := do
  let name ← part? "name" Stored.text? j
  let fields ← part? "fields" (list? Stored.text?) j
  some ⟨name, fields⟩

namespace Value

/-- A number, or the name of its type where numbers are left out. -/
def numberToExchange (detail : Detail) (s : Scalar) : Json :=
  if detail = .shapes then .text s.runtimeClass.name else s.toExchange

mutual

/-- The exchange form. -/
def toExchange (detail : Detail) : Value → Json
  | none => Stored.bare "None"
  | bool value => numberToExchange detail (.bool value)
  | int value => numberToExchange detail (.int value)
  | float value => numberToExchange detail (.float value)
  | text value => Stored.tagged "Str" (.text value)
  | size extents => Stored.tagged "Size" (naturals extents)
  | tensor value => Stored.tagged "Tensor" (value.toExchange detail)
  | tuple items => Stored.tagged "Tuple" (.array (toExchangeAll detail items))
  | list items => Stored.tagged "List" (.array (toExchangeAll detail items))
  | record type items =>
      Stored.tagged "NamedTuple" <| .object
        [("name", .text type.name), ("fields", .texts type.fields),
          ("items", .array (toExchangeAll detail items))]
  | elementType value => Stored.tagged "Dtype" (.text value.tag)
  | device value => Stored.tagged "Device" (.text value.text)
  | memoryFormat value => Stored.tagged "MemoryFormat" (.text value.tag)

/-- The exchange forms of several values. -/
def toExchangeAll (detail : Detail) : List Value → List Json
  | [] => []
  | item :: rest => toExchange detail item :: toExchangeAll detail rest

end

/-- The value of a literal in a document. -/
def literalOfExchange? (j : Json) : Option Value := (Literal.ofExchange? j).map ofLiteral

mutual

/-- The value in a document; a reference to a value that is not given is none. -/
def ofExchange (given : List Value) : Json → Reading Value
  | .object [("Arg", index)] => do
      let i ← .ofOption (natural? index)
      .ok ((given[i]?).getD none)
  | .object [("Size", content)] => .ofOption ((list? natural? content).map size)
  | .object [("Tensor", content)] => (Tensor.ofExchange content).map tensor
  | .object [("Tuple", .array items)] => (ofExchangeAll given items).map tuple
  | .object [("List", .array items)] => (ofExchangeAll given items).map list
  | .object [("NamedTuple", .object fields)] => do
      let type ← .ofOption (RecordType.ofExchange? (.object fields))
      let items ← itemsOfExchange given fields
      .ok (record type items)
  | j => .ofOption (literalOfExchange? j)

/-- The values in several documents. -/
def ofExchangeAll (given : List Value) : List Json → Reading (List Value)
  | [] => .ok []
  | item :: rest => do
      let first ← ofExchange given item
      let others ← ofExchangeAll given rest
      .ok (first :: others)

/-- The values in the field `items`. -/
def itemsOfExchange (given : List Value) : List (String × Json) → Reading (List Value)
  | [] => Outcome.fail ⟨⟩
  | ("items", .array items) :: _ => ofExchangeAll given items
  | _ :: rest => itemsOfExchange given rest

end

/-- The positional arguments in a document. -/
def argsOfExchange (given : List Value) (j : Json) : Reading (List Value) := do
  let items ← .ofOption (partOr? "args" (list? some) [] j)
  ofExchangeAll given items

/-- The named arguments in a document. -/
def kwargsOfExchange (given : List Value) (j : Json) : Reading (Named Value) := do
  let fields ← .ofOption (partOr? "kwargs" (fields? some) [] j)
  let entries ← fields.mapM fun (name, value) => (ofExchange given value).map (name, ·)
  .ok (.ofList entries)

end Value

end TensorCapture
