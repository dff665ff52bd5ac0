import TensorCapture.Literal
import TensorCapture.Tensor

set_option autoImplicit false

/-! # Values

What running an operation gives: tensors, numbers and containers of them. Erasing a value turns
every tensor in it into a placeholder and keeps all else.
-/

namespace TensorCapture

/-- The class of a tuple with named fields. -/
structure RecordType where
  name : String
  fields : List String
  deriving DecidableEq, Repr

/-- The position of a field. -/
def RecordType.index? (r : RecordType) (field : String) : Option Nat := r.fields.idxOf? field

/-- A value of the traced program. -/
inductive Value where
  | none
  | bool (value : Bool)
  | int (value : Int64)
  | float (value : Float)
  | text (value : String)
  /-- The extents of a tensor. -/
  | size (extents : List Nat)
  | tensor (value : Tensor)
  | tuple (items : List Value)
  | list (items : List Value)
  | record (type : RecordType) (items : List Value)
  | elementType (value : ElementType)
  | device (value : Device)
  | memoryFormat (value : MemoryFormat)

/-- Arguments given by name, in ascending order of the names. -/
abbrev Named (α : Type) := List (String × α)

namespace Named

variable {α β : Type}

/-- Adds an argument, in place of one of the same name. -/
def insert (name : String) (value : α) : Named α → Named α
  | [] => [(name, value)]
  | (n, v) :: rest =>
      if name < n then (name, value) :: (n, v) :: rest
      else if name = n then (name, value) :: rest
      else (n, v) :: insert name value rest

/-- The arguments in order; of several with one name the last counts. -/
def ofList (args : List (String × α)) : Named α :=
  args.foldl (fun named (name, value) => named.insert name value) []

/-- The argument of this name. -/
def get? (name : String) (args : Named α) : Option α := args.lookup name

/-- The arguments without the one of this name. -/
def remove (name : String) (args : Named α) : Named α := args.filter (·.1 ≠ name)

/-- The arguments without their names. -/
def values (args : Named α) : List α := args.map Prod.snd

/-- Another value under each name. -/
def mapValues (f : α → β) (args : Named α) : Named β :=
  args.map fun (name, value) => (name, f value)

end Named

namespace Value

/-- The number, where the value is exactly one. -/
def toScalar? : Value → Option Scalar
  | int value => some (.int value)
  | bool value => some (.bool value)
  | float value => some (.float value)
  | _ => Option.none

/-- The tensor, where the value is exactly one. -/
def toTensor? : Value → Option Tensor
  | tensor value => some value
  | _ => Option.none

/-- Whether the value is the absent one. -/
def isNone : Value → Bool
  | none => true
  | _ => false

/-- The name of the value's type in the traced program. -/
def typeName : Value → String
  | none => "NoneType"
  | bool _ => "bool"
  | int _ => "int"
  | float _ => "float"
  | text _ => "str"
  | size _ => "torch.Size"
  | tensor _ => "torch.Tensor"
  | tuple _ => "tuple"
  | list _ => "list"
  | record type _ => type.name
  | elementType _ => "torch.dtype"
  | device _ => "torch.device"
  | memoryFormat _ => "torch.memory_format"

/-- A number as a value. -/
def ofScalar : Scalar → Value
  | .int value => int value
  | .bool value => bool value
  | .float value => float value

mutual

/-- A literal as a value. -/
def ofLiteral : Literal → Value
  | .none => none
  | .bool value => bool value
  | .int value => int value
  | .float value => float value
  | .text value => text value
  | .tuple items => tuple (ofLiterals items)
  | .elementType value => elementType value
  | .device value => device value
  | .memoryFormat value => memoryFormat value

/-- Several literals as values. -/
def ofLiterals : List Literal → List Value
  | [] => []
  | item :: rest => ofLiteral item :: ofLiterals rest

end

mutual

/-- The value with every tensor in it turned into a placeholder. -/
def erase : Value → Value
  | tensor value => tensor value.erase
  | tuple items => tuple (eraseAll items)
  | list items => list (eraseAll items)
  | record type items => record type (eraseAll items)
  | value => value

/-- Several values, each erased. -/
def eraseAll : List Value → List Value
  | [] => []
  | item :: rest => erase item :: eraseAll rest

end

theorem ofLiterals_eq_map (items : List Literal) : ofLiterals items = items.map ofLiteral := by
  induction items with
  | nil => rfl
  | cons item rest ih => simp [ofLiterals, ih]

theorem eraseAll_eq_map (items : List Value) : eraseAll items = items.map erase := by
  induction items with
  | nil => rfl
  | cons item rest ih => simp [eraseAll, ih]

end Value

end TensorCapture
