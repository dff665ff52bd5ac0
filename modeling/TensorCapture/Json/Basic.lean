set_option autoImplicit false

/-! # Documents

A document is a tree of null, truth values, numbers, texts, arrays and objects. Objects keep
their fields in the written order, repeated names included. A well-formed part may denote no
value: a number beyond the finite doubles, a text with half of a surrogate pair, or an object
with such a text for a name. It is kept as `unreadable`, so that a reader of one field can
ignore it in another.
-/

namespace TensorCapture

/-- A document. -/
inductive Json where
  | null
  | bool (value : Bool)
  /-- A whole number, written without a point and without an exponent. -/
  | integer (value : Int)
  /-- Any other finite number. -/
  | real (value : Float)
  | text (value : String)
  /-- A well-formed number, text or object without a value. -/
  | unreadable
  | array (items : List Json)
  | object (fields : List (String × Json))
  deriving Inhabited

namespace Json

/-- A natural number as a document. -/
def natural (n : Nat) : Json := .integer n

/-- An optional document, null where it is absent. -/
def ofOption : Option Json → Json
  | some j => j
  | none => .null

/-- A list of texts. -/
def texts (xs : List String) : Json := .array (xs.map .text)

/-- The first field with this name. -/
def field? (name : String) : Json → Option Json
  | .object fields => fields.lookup name
  | _ => none

end Json

end TensorCapture
