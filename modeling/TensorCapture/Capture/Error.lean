import TensorCapture.Graph.Operand
import TensorCapture.Graph.Target
import TensorCapture.Library.Error

set_option autoImplicit false

/-! # Errors of a capture

A capture refuses a construct, lacks an answer, passes on a failure of the operation it ran, or
finds itself in a state that it has no answer for. The first two break the graph: the caller
gives up the capture at this point and runs the program as it is.
-/

namespace TensorCapture

/-- Constructs that a capture refuses. -/
inductive Refusal where
  | method (name : String)
  | dynamicRepeat
  | noInliner
  /-- A value of this kind is no operand. -/
  | notAnOperand (kind : String)
  | indexOutOfRange (index : Int) (length : Nat)
  | dataDependent (operator : String)
  | dynamicShape (operator : String)
  /-- A reason given by the library or by inlined code. -/
  | stated (reason : String)
  deriving DecidableEq, Repr

/-- Questions that a symbolic value cannot answer. -/
inductive Gap where
  | member (name : String)
  | classConstant
  | constant (kind : String)
  | subscript (kind : String)
  | subscriptOfConstant (type : String)
  | indexNotInteger
  | unpack (kind : String)
  | unpackOfUnknownSize
  deriving DecidableEq, Repr

/-- States without an answer. -/
inductive Breach where
  | unknownNode (node : NodeId)
  | alreadyClassified (node : NodeId)
  | alreadyHasExample (node : NodeId)
  | foreignOperand (node : NodeId) (target : Target)
  | indexOverflow (index : Nat)
  | extentOverflow (extent : Nat)
  | operandWithoutExample (node : NodeId)
  | placeholderRun (name : String)
  | noModule (path : String)
  | itemOfNonTensor
  | unclassified (type : String) (target : Target)
  | notUnspecialized (kind : String)
  | noRawValue (node : NodeId)
  | alreadyDeoptimized (node : NodeId)
  | unhandledKeywords (method : String)
  | overrideWithoutTensor
  | helperWithoutTensor
  | hookArguments
  | methodOfNonTensor
  deriving DecidableEq, Repr

/-- What a capture reports. -/
inductive CaptureError where
  | unsupported (reason : Refusal)
  | notImplemented (gap : Gap)
  /-- The operation itself failed. -/
  | runtime (target : Target) (cause : LibraryError)
  | internal (breach : Breach)
  deriving DecidableEq, Repr

/-- The reason in words. -/
def Refusal.message : Refusal → String
  | .method name => s!"Tensor.{name}"
  | .dynamicRepeat => "dynamic Tensor.repeat"
  | .noInliner => "no inliner installed for user functions"
  | .notAnOperand kind => s!"cannot pass {kind} to a graph operation"
  | .indexOutOfRange index length => s!"index {index} out of range for length {length}"
  | .dataDependent operator => s!"data dependent operator: {operator}"
  | .dynamicShape operator => s!"dynamic shape operator: {operator}"
  | .stated reason => reason

/-- The gap in words. -/
def Gap.message : Gap → String
  | .member name => s!"Tensor.{name}"
  | .classConstant => "class object as python constant"
  | .constant kind => s!"{kind} as python constant"
  | .subscript kind => s!"constant subscript of {kind}"
  | .subscriptOfConstant type => s!"subscript of constant {type}"
  | .indexNotInteger => "non-integer constant index"
  | .unpack kind => s!"unpack {kind}"
  | .unpackOfUnknownSize => "unpack tensor of unknown size"

/-- The state in words. -/
def Breach.message : Breach → String
  | .unknownNode node => s!"unknown node {node.text}"
  | .alreadyClassified node => s!"node {node.text} was already classified"
  | .alreadyHasExample node => s!"node {node.text} already carries an example value"
  | .foreignOperand node target =>
      s!"operand {node.text} of {target.text} is not part of this graph"
  | .indexOverflow index => s!"index {index} overflows i64"
  | .extentOverflow extent => s!"extent {extent} overflows i64"
  | .operandWithoutExample node => s!"operand {node.text} has no example value"
  | .placeholderRun name => s!"placeholder {name} cannot be executed"
  | .noModule path => s!"no module registered under {path}"
  | .itemOfNonTensor => "item called on a non-tensor"
  | .unclassified type target =>
      s!"torch.* op returned non-Tensor {type} {target.kind.name} {target.text}"
  | .notUnspecialized kind => s!"{kind} cannot be specialized"
  | .noRawValue node => s!"{node.text} has no raw value"
  | .alreadyDeoptimized node => s!"{node.text} was already deoptimized"
  | .unhandledKeywords method => s!"Tensor.{method}() unhandled kwargs"
  | .overrideWithoutTensor => "tensor subclass does not wrap a tensor variable"
  | .helperWithoutTensor => "helper expects a tensor"
  | .hookArguments => "unexpected hook arguments"
  | .methodOfNonTensor => "method of a non-tensor"

namespace CaptureError

/-- The error in words. -/
def message : CaptureError → String
  | unsupported reason => "unsupported operator: " ++ reason.message
  | notImplemented gap => "not implemented: " ++ gap.message
  | runtime target _ => "runtime error while running " ++ target.text
  | internal breach => "internal invariant violated: " ++ breach.message

/-- Whether the caller should give up the capture and run the program as it is. -/
def isGraphBreak : CaptureError → Bool
  | unsupported _ | notImplemented _ => true
  | _ => false

end CaptureError

end TensorCapture
