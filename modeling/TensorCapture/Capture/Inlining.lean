import TensorCapture.Capture.Error
import TensorCapture.Journal

set_option autoImplicit false

/-! # Inlined code

User functions are not run but inlined: an inliner says, for every call, which operations of the
capture the function's body performs and what it returns. A body is a tree. Each of its
operations comes with the inliner for calls that are made while it runs, and with the body that
goes on after it, for every possible answer. The tree is well founded, so nested inlining ends.
-/

namespace TensorCapture

/-- An operation of the capture. -/
inductive Operation where
  /-- A method call on a tensor, or on an instance of a tensor subclass. -/
  | callMethod (self : Variable) (name : String) (args : List Variable) (kwargs : Named Variable)
  | readMember (self : SymbolicTensor) (name : String)
  | unpack (self : SymbolicTensor)
  | literalize (self : SymbolicTensor)
  | addInput (name : String) (source : Source)
  | record (target : Target) (args : List Operand) (kwargs : Named Operand)
  | recordItem (node : NodeId) (index : Nat)
  | create (node : NodeId) (example? : Option Value) (module? : Option Nat) (role : TensorRole)
      (provenance : Provenance)
  | inline (call : FunctionCall)
  /-- The call of a subclass hook. -/
  | inlineHook (function : Variable) (origin : Source) (hook : String) (subclass : RuntimeClass)
      (provenance : Provenance) (args : List Variable) (kwargs : Named Variable)

/-- What an operation of the capture gives. -/
inductive Answer where
  | value (result : Variable)
  | node (id : NodeId)
  | values (results : List Variable)

/-- The body of an inlined function. -/
inductive Body where
  /-- Returns a variable, or fails. -/
  | finish (result : Except CaptureError Variable)
  /-- Performs an operation and goes on; `nested` inlines the calls made meanwhile. -/
  | perform (operation : Operation) (nested : FunctionCall → Body)
      (next : Except CaptureError Answer → Body)

/-- The body of every user function, for every call. -/
abbrev Inliner := FunctionCall → Body

/-- The answer as one variable, where it is one. -/
def Answer.value? : Answer → Option Variable
  | value result => some result
  | _ => none

end TensorCapture
