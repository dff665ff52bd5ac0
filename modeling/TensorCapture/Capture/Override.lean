import TensorCapture.Capture.Inlining
import TensorCapture.Capture.Method

set_option autoImplicit false

/-! # Hooks of tensor subclasses

A method call on an instance of a tensor subclass goes to the hook of the class. The hook is a
user function; while its body runs, no further call goes to a hook. Its result is wrapped again.
Where calls do not go to hooks, the method runs on the wrapped tensor itself.
-/

namespace TensorCapture

/-- The source of the hook function of an instance. -/
def Source.hook (origin : Source) : Source :=
  (origin.member "__torch_function__").member "__func__"

/-- The call of a hook: the class, the function, the classes involved, the arguments and the
keyword arguments. -/
def FunctionCall.ofHook (function : Variable) (origin : Source) (hook : String)
    (subclass : RuntimeClass) (p : Provenance) (args : List Variable) (kwargs : Named Variable) :
    FunctionCall :=
  let source := origin.hook
  let guards := GuardSet.ofList [.lasting source .functionMatch]
  let classVariable := Variable.userClass subclass p
  { function := .userFunction hook ⟨guards, some source, none⟩
    args :=
      [classVariable, function, .tuple [classVariable] .none, .tuple args .none,
        .dict kwargs .none]
    kwargs := [] }

namespace Capture

/-- Inlines the hook of a subclass; `inline` inlines user functions. -/
def inlineHook (inline : FunctionCall → Capture Variable) (function : Variable) (origin : Source)
    (hook : String) (subclass : RuntimeClass) (p : Provenance) (args : List Variable)
    (kwargs : Named Variable) : Capture Variable :=
  withoutDispatch (inline (.ofHook function origin hook subclass p args kwargs))

/-- A method call on an instance of a tensor subclass. -/
def callOverride (inline : FunctionCall → Capture Variable) (wrapped : Variable) (origin : Source)
    (hook : String) (subclass : RuntimeClass) (p : Provenance) (name : String)
    (args : List Variable) (kwargs : Named Variable) : Capture Variable := do
  if (← get).dispatching then
    let guards := Provenance.propagate <|
      .override wrapped origin hook subclass p :: args ++ kwargs.values
    let result ← inlineHook inline (.member wrapped name .none) origin hook subclass guards
      (wrapped :: args) kwargs
    return .override result origin hook subclass (.ofGuards result.guards)
  else
    match wrapped with
    | .tensor t => callMethod t name args kwargs
    | _ => breach .overrideWithoutTensor

end Capture

end TensorCapture
