set_option autoImplicit false

/-! # Targets

A target says what a node of the graph invokes: nothing (it stands for an input), a builtin
operator, a function of the library, a method of a tensor, or a module.
-/

namespace TensorCapture

/-- Operators that are told apart by identity. -/
inductive Builtin where
  | getItem
  | setItem
  | len
  | mod
  | seed
  | manualSeed
  | getRank
  | getWorldSize
  | elementSize
  | mathSqrt
  | mathPow
  deriving DecidableEq, Repr

namespace Builtin

/-- Every builtin operator. -/
def all : List Builtin :=
  [getItem, setItem, len, mod, seed, manualSeed, getRank, getWorldSize, elementSize, mathSqrt,
    mathPow]

/-- The name in documents. -/
def tag : Builtin → String
  | getItem => "GetItem"
  | setItem => "SetItem"
  | len => "Len"
  | mod => "Mod"
  | seed => "Seed"
  | manualSeed => "ManualSeed"
  | getRank => "GetRank"
  | getWorldSize => "GetWorldSize"
  | elementSize => "ElementSize"
  | mathSqrt => "MathSqrt"
  | mathPow => "MathPow"

/-- The qualified name in the traced program. -/
def name : Builtin → String
  | getItem => "operator.getitem"
  | setItem => "operator.setitem"
  | len => "builtins.len"
  | mod => "operator.mod"
  | seed => "torch.seed"
  | manualSeed => "torch.manual_seed"
  | getRank => "torch.distributed.get_rank"
  | getWorldSize => "torch.distributed.get_world_size"
  | elementSize => "torch._utils._element_size"
  | mathSqrt => "math.sqrt"
  | mathPow => "math.pow"

/-- Whether the integer result may differ from run to run. -/
def isNondeterministic : Builtin → Bool
  | seed | mod | getRank | getWorldSize => true
  | _ => false

/-- Whether the operator computes one number from numbers. -/
def isScalarMath : Builtin → Bool
  | mathSqrt | mathPow => true
  | _ => false

end Builtin

/-- The kinds of node. -/
inductive NodeKind where
  | placeholder
  | callFunction
  | callMethod
  | callModule
  deriving DecidableEq, Repr

/-- The name in messages. -/
def NodeKind.name : NodeKind → String
  | .placeholder => "placeholder"
  | .callFunction => "call_function"
  | .callMethod => "call_method"
  | .callModule => "call_module"

/-- The name in documents. -/
def NodeKind.tag : NodeKind → String
  | .placeholder => "Placeholder"
  | .callFunction => "CallFunction"
  | .callMethod => "CallMethod"
  | .callModule => "CallModule"

/-- What a node invokes. -/
inductive Target where
  /-- An input of the graph, by name. -/
  | placeholder (name : String)
  | builtin (builtin : Builtin)
  /-- A function of the library, by name. -/
  | function (name : String)
  /-- A method of a tensor, by name. -/
  | method (name : String)
  /-- A module, by its path. -/
  | module (path : String)
  deriving DecidableEq, Repr

namespace Target

/-- The kind of node that invokes the target. -/
def kind : Target → NodeKind
  | placeholder _ => .placeholder
  | builtin _ | function _ => .callFunction
  | method _ => .callMethod
  | module _ => .callModule

/-- The builtin operator, where the target is one. -/
def builtin? : Target → Option Builtin
  | builtin b => some b
  | _ => none

/-- Whether the target is the method of this name. -/
def isMethod (t : Target) (name : String) : Bool := t = method name

/-- The target in messages. -/
def text : Target → String
  | placeholder name => name
  | builtin b => b.name
  | function name => "torch." ++ name
  | method name => name
  | module path => path

end Target

end TensorCapture
