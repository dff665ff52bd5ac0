import TensorCapture.Log
import TensorCapture.Module.Replay
import TensorCapture.Variable.Basic

set_option autoImplicit false

/-! # The journal of a trace

What a trace tells the outside besides its results: messages, calls of replaying modules, and
calls of user functions that were handed to the inliner, in the order in which they happened.
-/

namespace TensorCapture

/-- A call of a user function. -/
structure FunctionCall where
  function : Variable
  args : List Variable
  kwargs : Named Variable

/-- A call of a replaying module. -/
structure ModuleCall where
  name : String
  copy : CopyKind
  /-- Whether the library was in placeholder mode. -/
  inPlaceholderMode : Bool
  args : List Value
  kwargs : Named Value

/-- An entry of the journal. -/
inductive Event where
  | message (message : Log.Message)
  | moduleCall (call : ModuleCall)
  /-- A call handed to the inliner, and whether overrides were dispatched at that time. -/
  | inlineCall (call : FunctionCall) (dispatching : Bool)

/-- The message, where the entry is one. -/
def Event.message? : Event → Option Log.Message
  | message m => some m
  | _ => none

end TensorCapture
