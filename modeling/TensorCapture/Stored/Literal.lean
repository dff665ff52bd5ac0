import TensorCapture.Literal
import TensorCapture.Stored.Basic

set_option autoImplicit false

/-! # Stored literals

The stored forms of element types, devices, memory formats, runtime classes, scalars and
literals.
-/

namespace TensorCapture

/-! ## Element types, devices, formats, classes -/

/-- The stored form. -/
def ElementType.toJson (t : ElementType) : Json := Stored.bare t.tag

/-- The element type in a document. -/
def ElementType.ofJson? (levels : Nat) (j : Json) : Option ElementType :=
  Stored.choice? tag all levels j

/-- The stored form. -/
def Device.toJson (d : Device) : Json :=
  .object [("kind", Stored.bare d.kind.tag), ("index", .ofOption (d.index.map Json.natural))]

/-- The ordinal of a device in a document; a missing one is none. -/
def Device.indexOfJson? : Option Json → Option (Option Nat)
  | none | some .null => some none
  | some j => (Stored.naturalBelow? Word.halfBound j).map some

/-- The device in a document. -/
def Device.ofJson? (levels : Nat) (j : Json) : Option Device :=
  match Stored.parts? ["kind", "index"] levels j with
  | some ([some kind, index], levels) => do
      let kind ← Stored.choice? DeviceKind.tag DeviceKind.all levels kind
      let index ← indexOfJson? index
      some ⟨kind, index⟩
  | _ => none

/-- The stored form. -/
def MemoryFormat.toJson (f : MemoryFormat) : Json := Stored.bare f.tag

/-- The memory format in a document. -/
def MemoryFormat.ofJson? (levels : Nat) (j : Json) : Option MemoryFormat :=
  Stored.choice? tag all levels j

/-- The typed class in a document. -/
def TypedClass.ofJson? (levels : Nat) (j : Json) : Option TypedClass :=
  Stored.choice? tag all levels j

namespace RuntimeClass

/-- The classes without content. -/
def plain : List RuntimeClass := [tensor, parameter, int, bool, float]

/-- The name of the constructor. -/
def tag : RuntimeClass → String
  | tensor => "Tensor"
  | parameter => "Parameter"
  | subclass _ => "TensorSubclass"
  | typed _ => "Legacy"
  | int => "Int"
  | bool => "Bool"
  | float => "Float"

/-- The stored form. -/
def toJson (c : RuntimeClass) : Json :=
  match c with
  | subclass name => Stored.tagged c.tag (.text name)
  | typed typedClass => Stored.tagged c.tag (Stored.bare typedClass.tag)
  | _ => Stored.bare c.tag

/-- The runtime class in a document. -/
def ofJson? (levels : Nat) (j : Json) : Option RuntimeClass :=
  match Stored.tagged? levels j with
  | some ("TensorSubclass", content, _) => (Stored.text? content).map subclass
  | some ("Legacy", content, levels) => (TypedClass.ofJson? levels content).map typed
  | _ => Stored.choice? tag plain levels j

end RuntimeClass

/-! ## Scalars and literals -/

/-- The stored form. -/
def Scalar.toJson : Scalar → Json
  | int value => Stored.tagged "Int" (.integer value.toInt)
  | bool value => Stored.tagged "Bool" (.bool value)
  | float value => Stored.tagged "Float" (.real value)

/-- The scalar in a document. -/
def Scalar.ofJson? (levels : Nat) (j : Json) : Option Scalar :=
  match Stored.tagged? levels j with
  | some ("Int", content, _) => (Stored.signed? content).map int
  | some ("Bool", content, _) => (Stored.bool? content).map bool
  | some ("Float", content, _) => (Stored.float? content).map float
  | _ => none

namespace Literal

mutual

/-- The stored form. -/
def toJson : Literal → Json
  | none => Stored.bare "None"
  | bool value => Stored.tagged "Bool" (.bool value)
  | int value => Stored.tagged "Int" (.integer value.toInt)
  | float value => Stored.tagged "Float" (.real value)
  | text value => Stored.tagged "Str" (.text value)
  | tuple items => Stored.tagged "Tuple" (.array (toJsonAll items))
  | elementType value => Stored.tagged "Dtype" value.toJson
  | device value => Stored.tagged "Device" value.toJson
  | memoryFormat value => Stored.tagged "MemoryFormat" value.toJson

/-- The stored forms of several literals. -/
def toJsonAll : List Literal → List Json
  | [] => []
  | item :: rest => toJson item :: toJsonAll rest

end

/-- A literal without items in a document of this constructor and content. -/
def leaf? (levels : Nat) (tag : String) (content : Json) : Option Literal :=
  match tag with
  | "None" => if content matches .null then some none else Option.none
  | "Bool" => (Stored.bool? content).map bool
  | "Int" => (Stored.signed? content).map int
  | "Float" => (Stored.float? content).map float
  | "Str" => (Stored.text? content).map text
  | "Dtype" => (ElementType.ofJson? levels content).map elementType
  | "Device" => (Device.ofJson? levels content).map device
  | "MemoryFormat" => (MemoryFormat.ofJson? levels content).map memoryFormat
  | _ => Option.none

/-- The literal in a document. A tuple takes two levels. -/
def ofJson? : Nat → Json → Option Literal
  | _, .text tag => if tag = "None" then some none else Option.none
  | levels + 2, .object [("Tuple", .array items)] => (items.mapM (ofJson? levels)).map tuple
  | levels + 1, .object [(tag, content)] => leaf? levels tag content
  | _, _ => Option.none

end Literal

end TensorCapture
