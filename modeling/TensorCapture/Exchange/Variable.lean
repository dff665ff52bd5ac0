import TensorCapture.Exchange.Value
import TensorCapture.Graph.Basic
import TensorCapture.Stored.Graph
import TensorCapture.Stored.Guard
import TensorCapture.Variable.Basic

set_option autoImplicit false

/-! # Exchanged variables and nodes

The exchange forms of guards, metadata, variables, operands and nodes.
-/

namespace TensorCapture

open Exchange

/-! ## Guards and sources -/

/-- The guard in one line; a star marks one that holds for the current trace only. -/
def Guard.line (g : Guard) : String :=
  g.check.tag ++ (if g.volatile then "* " else " ") ++ g.source.name

/-- Guards, each in one line. -/
def Guard.lines (guards : List Guard) : Json := .texts (guards.map line)

/-- The name of a source that may be absent. -/
def Source.optionToExchange (source : Option Source) : Json :=
  .ofOption (source.map fun s => .text s.name)

/-! ## Metadata and roles -/

/-- The exchange form. -/
def StaticLayout.toExchange (l : StaticLayout) : Json :=
  .object
    [("size", naturals l.size), ("stride", naturals l.stride), ("contiguous", .bool l.isContiguous)]

/-- The exchange form. -/
def Metadata.toExchange (m : Metadata) : Json :=
  .object
    [("dtype", .text m.elementType.tag), ("device", .text m.device.text),
      ("ndim", .natural m.ndim), ("grad", .bool m.requiresGrad),
      ("quantized", .bool m.isQuantized), ("sparse", .bool m.isSparse),
      ("class", .text m.runtimeClass.name),
      ("layout", .ofOption (m.layout.map StaticLayout.toExchange))]

namespace TensorRole

/-- The exchange form. -/
def toExchange (detail : Detail) : TensorRole → Json
  | plain => .text "Plain"
  | symbolicNumber c => Stored.tagged "DynamicShape" (.text c.name)
  | arrayScalar raw =>
      Stored.tagged "UnspecializedNumpy" (.object [("raw", Scalar.optionToExchange detail raw)])
  | programScalar raw needsUnwrap =>
      Stored.tagged "UnspecializedPython" <| .object
        [("raw", Scalar.optionToExchange detail raw), ("need_unwrap", .bool needsUnwrap)]
  | opaqueItem needsUnwrap =>
      Stored.tagged "FakeItem" (.object [("need_unwrap", .bool needsUnwrap)])

/-- The role in a document. -/
def ofExchange? : Json → Option TensorRole
  | .text "Plain" => some plain
  | .object [("DynamicShape", c)] =>
      (RuntimeClass.ofJson? Stored.levelLimit c).map symbolicNumber
  | .object [("UnspecializedNumpy", j)] =>
      (optional? "raw" Scalar.ofExchange? j).map arrayScalar
  | .object [("UnspecializedPython", j)] => do
      let raw ← optional? "raw" Scalar.ofExchange? j
      let needsUnwrap ← partOr? "need_unwrap" Stored.bool? false j
      some (programScalar raw needsUnwrap)
  | .object [("FakeItem", j)] => (partOr? "need_unwrap" Stored.bool? false j).map opaqueItem
  | _ => none

end TensorRole

namespace ContainerKind

/-- The name in documents. -/
def tag : ContainerKind → String
  | tuple => "Tuple"
  | list => "List"
  | record _ => "NamedTuple"
  | size => "Size"
  | shape => "Shape"

/-- The kind of container in a document. -/
def ofExchange? : Json → Option ContainerKind
  | .object [("NamedTuple", type)] => (RecordType.ofExchange? type).map record
  | .text name => [tuple, list, size, shape].find? fun kind => kind.tag = name
  | _ => none

end ContainerKind

/-! ## Variables -/

/-- The exchange form, as a field named by what the object is. -/
def LibraryObject.toField : LibraryObject → String × Json
  | elementType value => ("dtype", .text value.tag)
  | device value => ("device", .text value.text)
  | runtimeClass value => ("class", .text value.name)

/-- What a symbolic tensor shows besides its provenance. -/
def SymbolicTensor.toFields (detail : Detail) (t : SymbolicTensor) : List (String × Json) :=
  [("node", t.node.toJson), ("tensor_kind", t.role.toExchange detail),
    ("props", .ofOption (t.metadata.map Metadata.toExchange)),
    ("param", .ofOption (t.parameter.map (Tensor.toExchange detail))),
    ("type", .text t.runtimeClass.name), ("raw", Scalar.optionToExchange detail t.role.raw?),
    ("unwrap", .bool t.role.needsUnwrap)]

namespace Variable

/-- What every variable shows. -/
def commonFields (v : Variable) : List (String × Json) :=
  [("kind", .text v.kindName), ("guards", Guard.lines v.guards.members),
    ("source", Source.optionToExchange v.provenance.source),
    ("mutable", .ofOption (v.provenance.identity.map Json.natural))]

mutual

/-- The exchange form. -/
def toExchange (detail : Detail) : Variable → Json
  | tensor value => .object ((tensor value).commonFields ++ value.toFields detail)
  | constant value p =>
      .object ((constant value p).commonFields ++ [("value", value.toExchange)])
  | container kind items node p => .object <| (container kind items node p).commonFields ++
      [("container", .text kind.tag), ("type", .text kind.typeName),
        ("len", .natural items.length), ("node", .ofOption (node.map NodeId.toJson)),
        ("items", .array (toExchangeAll detail items))]
  | object value p => .object ((object value p).commonFields ++ [value.toField])
  | override wrapped origin hook subclass p => .object <|
      (override wrapped origin hook subclass p).commonFields ++
      [("tensor", toExchange detail wrapped), ("orig_source", .text origin.name),
        ("func", .text hook), ("class", .text subclass.name)]
  | member owner name p => .object <| (member owner name p).commonFields ++
      [("obj", toExchange detail owner), ("name", .text name)]
  | userClass c p => .object ((userClass c p).commonFields ++ [("class", .text c.name)])
  | userFunction name p =>
      .object ((userFunction name p).commonFields ++ [("func", .text name)])
  | dict items p => .object <| (dict items p).commonFields ++
      [("items", .array (pairsToExchange detail items))]

/-- The exchange forms of several variables. -/
def toExchangeAll (detail : Detail) : List Variable → List Json
  | [] => []
  | item :: rest => toExchange detail item :: toExchangeAll detail rest

/-- The exchange forms of several variables, each behind its key. -/
def pairsToExchange (detail : Detail) : List (String × Variable) → List Json
  | [] => []
  | (key, item) :: rest =>
      .array [.text key, toExchange detail item] :: pairsToExchange detail rest

end

end Variable

/-! ## Operands and nodes -/

namespace Operand

mutual

/-- The exchange form. -/
def toExchange : Operand → Json
  | node id => Stored.tagged "Node" id.toJson
  | literal value => Stored.tagged "Const" value.toExchange
  | tuple items => Stored.tagged "Tuple" (.array (toExchangeAll items))
  | list items => Stored.tagged "List" (.array (toExchangeAll items))

/-- The exchange forms of several operands. -/
def toExchangeAll : List Operand → List Json
  | [] => []
  | item :: rest => toExchange item :: toExchangeAll rest

end

end Operand

/-- The exchange form, without the example value. -/
def Node.toExchange (node : Node) : Json :=
  .object
    [("id", node.id.toJson), ("op", .text node.target.kind.name),
      ("target", .text node.target.text), ("args", .array (node.args.map Operand.toExchange)),
      ("kwargs", .object (node.kwargs.mapValues Operand.toExchange))]

/-- The exchange form. -/
def GraphInput.toExchange (i : GraphInput) : Json := .array [.text i.source.name, i.node.toJson]

end TensorCapture
