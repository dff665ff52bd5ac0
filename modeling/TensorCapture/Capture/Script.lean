import TensorCapture.Capture.Execution

set_option autoImplicit false

/-! # Scripted inliners

A script says what every inlined function does. A function named `helper` always negates its
first argument; any other function does what the script says.
-/

namespace TensorCapture

/-- What a scripted function does. -/
inductive Script where
  /-- Refuses with this reason. -/
  | refuse (reason : String)
  /-- Returns this literal, with the guards of all arguments. -/
  | constant (value : Literal)
  /-- As a hook, calls this method of the receiver, or the hooked method where none is given. -/
  | through (method : Option String)
  /-- As a hook, calls the function `helper` on the first argument. -/
  | delegate
  /-- As a hook, calls the hooked method on an instance that wraps the first argument anew. -/
  | rewrap
  deriving Inhabited

/-- The arguments of a hook. -/
structure HookCall where
  subclass : RuntimeClass
  /-- What the hooked method was read from. -/
  receiver : Variable
  method : String
  args : List Variable
  kwargs : Named Variable

/-- The arguments of a call as those of a hook, where they have that form. -/
def FunctionCall.hookCall? (call : FunctionCall) : Option HookCall :=
  match call.args with
  | [.userClass subclass _, .member receiver method _, _, .container _ args _ _, .dict kwargs _] =>
      some ⟨subclass, receiver, method, args, .ofList kwargs⟩
  | _ => none

namespace Body

/-- Fails with an error. -/
def fail (e : CaptureError) : Body := finish (.error e)

/-- Performs one operation and returns the variable it gives. -/
def once (nested : FunctionCall → Body) (operation : Operation) : Body :=
  perform operation nested fun answer =>
    match answer with
    | .ok (.value result) => finish (.ok result)
    | .ok _ => fail (.internal .hookArguments)
    | .error e => fail e

end Body

namespace Script

/-- The name of the function that negates its first argument. -/
def helperName : String := "helper"

/-- The function that negates its first argument. -/
def helperBody (nested : FunctionCall → Body) (call : FunctionCall) : Body :=
  match call.args with
  | .tensor t :: _ => .once nested (.callMethod (.tensor t) "neg" [] call.kwargs)
  | _ => .fail (.internal .helperWithoutTensor)

/-- The call of the function that negates its first argument. -/
def helperCall (args : List Variable) : FunctionCall :=
  ⟨.userFunction helperName .none, args, []⟩

/-- An instance that wraps a variable anew. -/
def rewrapped (subclass : RuntimeClass) (wrapped : Variable) : Variable :=
  .override wrapped (.local "inner") "Inner.__torch_function__" subclass .none

/-- What a function does that is called as a hook. -/
def hookBody (script : Script) (nested : FunctionCall → Body) (call : HookCall) : Body :=
  match script with
  | through method =>
      match call.receiver with
      | .tensor t =>
          .once nested <|
            .callMethod (.tensor t) (method.getD call.method) (call.args.drop 1) call.kwargs
      | _ => .fail (.internal .methodOfNonTensor)
  | delegate => .once nested (.inline (helperCall (call.args.take 1)))
  | rewrap =>
      match call.args with
      | first :: rest =>
          .once nested <|
            .callMethod (rewrapped call.subclass first) call.method rest call.kwargs
      | [] => .fail (.internal .hookArguments)
  | _ => .fail (.internal .hookArguments)

/-- Whether a variable is the function of this name. -/
def isFunction (name : String) : Variable → Bool
  | .userFunction other _ => other = name
  | _ => false

/-- The body of a function. -/
def body (script : Script) (nested : FunctionCall → Body) (call : FunctionCall) : Body :=
  if isFunction helperName call.function then helperBody nested call
  else
    match script with
    | refuse reason => .fail (.unsupported (.stated reason))
    | constant value => .finish (.ok (.constant value (.propagate call.args)))
    | script =>
        match call.hookCall? with
        | some hook => script.hookBody nested hook
        | none => .fail (.internal .hookArguments)

/-- The inliner for calls that nest less deep than given. -/
def upTo (script : Script) : Nat → Inliner
  | 0 => fun _ => .fail (.unsupported .noInliner)
  | depth + 1 => script.body (script.upTo depth)

/-- The inliner of a script. A hook calls no hook, and the helper calls no function, so calls
nest at most twice. -/
def inliner (script : Script) : Inliner := script.upTo 3

end Script

end TensorCapture
