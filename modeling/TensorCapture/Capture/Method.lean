import TensorCapture.Capture.Classification
import TensorCapture.Variable.Query

set_option autoImplicit false

/-! # Methods and attributes of symbolic tensors

A method call is answered from metadata, refused, or recorded as a node whose result is then
classified. Either way the result carries the guards of the tensor and of all arguments. An
attribute is answered from metadata, or by the method that asks for the same.
-/

namespace TensorCapture

namespace Capture

/-- Classifies the node that a method of a tensor recorded. -/
def createDerived (t : SymbolicTensor) (id : NodeId) (p : Provenance) : Capture Variable :=
  create id none none t.role.derived p

/-- The operands for a call of a method: the tensor, the positional and the named arguments. -/
def callOperands (t : SymbolicTensor) (args : List Variable) (kwargs : Named Variable) :
    Except CaptureError (List Operand × Named Operand) := do
  let args ← Variable.toOperands (.tensor t :: args)
  let values ← Variable.toOperands kwargs.values
  .ok (args, (kwargs.map Prod.fst).zip values)

/-- Whether the arguments are one size. -/
def areOneSize : List Variable → Bool
  | [.container kind _ _ _] => kind.isSize
  | _ => false

/-- The method that is recorded: without dynamic shapes a new tensor of a given size is an
empty one. -/
def recordedName (name : String) (dynamicShapes : Bool) (args : List Variable) : String :=
  if name = "new" && !dynamicShapes && areOneSize args then "new_empty" else name

/-- Why a method is refused outright. -/
def refusalOf? (config : Config) (name : String) (args : List Variable) (kwargs : Named Variable) :
    Option Refusal :=
  match name with
  | "repeat" =>
      if !config.dynamicShapes && !(args ++ kwargs.values).all Variable.isConstant then
        some .dynamicRepeat
      else none
  | "tolist" | "numpy" | "backward" => some (.method name)
  | "nonzero" => if config.dynamicShapes then none else some (.method name)
  | "item" => if config.captureScalarOutputs then none else some (.method name)
  | _ => none

/-- Records a call of a method and classifies its result. -/
def recordMethod (t : SymbolicTensor) (name : String) (args : List Variable)
    (kwargs : Named Variable) (p : Provenance) : Capture Variable := do
  let name := recordedName name (← config).dynamicShapes args
  let (args, kwargs) ← ofExcept (callOperands t args kwargs)
  let id ← record (.method name) args kwargs
  createDerived t id p

/-- Records an assignment to items. The node gets no example value. -/
def recordAssignment (t : SymbolicTensor) (args : List Variable) (kwargs : Named Variable)
    (p : Provenance) : Capture Variable := do
  addGuards p.guards
  let (args, kwargs) ← ofExcept (callOperands t args kwargs)
  let _ ← record (.builtin .setItem) args kwargs
  return .constant .none p

/-- The length of a tensor: its first extent, or a node. -/
def length (t : SymbolicTensor) (p : Provenance) : Capture Variable := do
  match t.size? with
  | some (first :: _) => return .constant (.int (Word.signed first)) p
  | _ =>
      let id ← record (.builtin .len) [.node t.node] []
      createDerived t id p

/-- A call of a method of a tensor. -/
def callMethod (t : SymbolicTensor) (name : String) (args : List Variable)
    (kwargs : Named Variable) : Capture Variable := do
  let p := Provenance.propagate (.tensor t :: args ++ kwargs.values)
  match t.query? name p with
  | some (.error fault) => throw fault
  | some (.ok answer) =>
      if (Variable.unansweredKeywords name kwargs).isEmpty then
        ofExcept (answer.indexed args p)
      else breach (.unhandledKeywords name)
  | none =>
      match refusalOf? (← config) name args kwargs with
      | some reason => refuse reason
      | none =>
          match name with
          | "item" =>
              let id ← record (.method "item") [.node t.node] []
              createDerived t id p
          | "__len__" => length t p
          | "__setitem__" => recordAssignment t args kwargs p
          | name => recordMethod t name args kwargs p

/-- The value of an attribute other than the class. -/
def memberOf (t : SymbolicTensor) (name : String) : Capture Variable :=
  let p := t.propagated
  match name, t.metadata with
  | "ndim", some m => return .constant (.int (Word.signed m.ndim)) p
  | "ndim", none => callMethod t "dim" [] []
  | "dtype", some m => return .object (.elementType m.elementType) p
  | "device", some m => return .object (.device m.device) p
  | "is_cuda", some m => return .constant (.bool m.device.isCuda) p
  | "shape", _ =>
      match t.layout? with
      | some layout => return .ofExtents .shape layout.size p
      | none => callMethod t "size" [] []
  | "requires_grad", some m => return .constant (.bool m.requiresGrad) p
  | "is_quantized", some m => return .constant (.bool m.isQuantized) p
  | "is_sparse", some m => return .constant (.bool m.isSparse) p
  | name, _ => fail (.notImplemented (.member name))

/-- The value of an attribute. All but the class depend on the type of what the source holds. -/
def readMember (t : SymbolicTensor) (name : String) : Capture Variable := do
  if name = "__class__" then return .object (.runtimeClass t.runtimeClass) t.propagated
  else
    let value ← memberOf t name
    match t.provenance.guardOn? .typeMatch with
    | some g => return value.addGuard g
    | none => return value

/-- The items of a tensor along its first axis, from an index on. -/
def unpackFrom (t : SymbolicTensor) (index : Nat) : Nat → Capture (List Variable)
  | 0 => return []
  | count + 1 => do
      let id ← recordItem t.node index
      let item ← create id none none .plain t.propagated
      let others ← unpackFrom t (index + 1) count
      return item :: others

/-- The items of a tensor along its first axis, each with a node of its own. -/
def unpack (t : SymbolicTensor) : Capture (List Variable) :=
  match t.role, t.size? with
  | .symbolicNumber _, _ => fail (.notImplemented (.unpack t.role.name))
  | _, some (first :: _) => unpackFrom t 0 first
  | _, _ => fail (.notImplemented .unpackOfUnknownSize)

end Capture

end TensorCapture
