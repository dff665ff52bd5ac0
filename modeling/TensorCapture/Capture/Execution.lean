import TensorCapture.Capture.Literalize
import TensorCapture.Capture.Override

set_option autoImplicit false

/-! # Performing operations

An operation of the capture is performed with a way to inline user functions. A body performs
its operations one after the other: an error is an answer that the body can go on from, the end
of the run is not. Calls made meanwhile are inlined by the body's own tree, so bodies are run by
recursion on the tree.
-/

namespace TensorCapture

namespace Capture

variable {α : Type}

/-- A step whose error is part of the answer. -/
def attempt (act : Capture α) : Capture (Except CaptureError α) := ofFunction fun t =>
  match act.outcome t with
  | (.ok a, t) => (.ok (.ok a), t)
  | (.error (.error e), t) => (.ok (.error e), t)
  | (.error .abort, t) => (.error .abort, t)

/-- A method call on a tensor, or on an instance of a tensor subclass. -/
def callOn (inline : FunctionCall → Capture Variable) (self : Variable) (name : String)
    (args : List Variable) (kwargs : Named Variable) : Capture Variable :=
  match self with
  | .tensor t => callMethod t name args kwargs
  | .override wrapped origin hook subclass p =>
      callOverride inline wrapped origin hook subclass p name args kwargs
  | _ => breach .methodOfNonTensor

/-- Writes a call of a user function into the journal. -/
def noteCall (call : FunctionCall) : Capture Unit := modify fun t =>
  { t with workshop := t.workshop.note (.inlineCall call t.dispatching) }

end Capture

open Capture

/-- Performs an operation; `inline` inlines user functions. -/
def Operation.perform (inline : FunctionCall → Capture Variable) : Operation → Capture Answer
  | .callMethod self name args kwargs => Answer.value <$> callOn inline self name args kwargs
  | .readMember self name => Answer.value <$> Capture.readMember self name
  | .unpack self => Answer.values <$> Capture.unpack self
  | .literalize self => Answer.value <$> Capture.literalize self
  | .addInput name source => Answer.node <$> Capture.addInput name source
  | .record target args kwargs => Answer.node <$> Capture.record target args kwargs
  | .recordItem node index => Answer.node <$> Capture.recordItem node index
  | .create node supplied module? role p =>
      Answer.value <$> Capture.create node supplied module? role p
  | .inline call => Answer.value <$> inline call
  | .inlineHook function origin hook subclass p args kwargs =>
      Answer.value <$> Capture.inlineHook inline function origin hook subclass p args kwargs

/-- Runs a body. -/
def Body.run : Body → Capture Variable
  | .finish result => ofExcept result
  | .perform operation nested next => do
      let inline := fun call => do
        noteCall call
        (nested call).run
      let answer ← attempt (operation.perform inline)
      (next answer).run

namespace Capture

/-- Inlines a user function with the inliner of the trace. -/
def inlined (call : FunctionCall) : Capture Variable := do
  match (← get).inliner with
  | none => refuse .noInliner
  | some inliner => do
      noteCall call
      (inliner call).run

/-- Performs an operation with the inliner of the trace. -/
def perform (operation : Operation) : Capture Answer := operation.perform inlined

end Capture

end TensorCapture
