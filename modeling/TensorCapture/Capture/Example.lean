import TensorCapture.Capture.Trace

set_option autoImplicit false

/-! # Example values

The example value of a node is its representative result. It is supplied by the caller, or got
by running the node on the example values of its operands: on the values themselves, or on
placeholders in placeholder mode. Whatever happens, the generator of the library is afterwards
as it was before.
-/

namespace TensorCapture

/-! ## Operands -/

namespace Graph

mutual

/-- The value that an operand has by the example values in the graph. -/
def resolve (g : Graph) : Operand → Except CaptureError Value
  | .node id =>
      match g.exampleOf id with
      | .error e => .error e
      | .ok none => .error (.internal (.operandWithoutExample id))
      | .ok (some value) => .ok value
  | .literal value => .ok (.ofLiteral value)
  | .tuple items => (g.resolveAll items).map Value.tuple
  | .list items => (g.resolveAll items).map Value.list

/-- The values of several operands. The first that has none decides the error. -/
def resolveAll (g : Graph) : List Operand → Except CaptureError (List Value)
  | [] => .ok []
  | item :: rest =>
      match g.resolve item with
      | .error e => .error e
      | .ok value => (g.resolveAll rest).map (value :: ·)

end

/-- The values of named operands. -/
def resolveNamed (g : Graph) : Named Operand → Except CaptureError (Named Value)
  | [] => .ok []
  | (name, item) :: rest =>
      match g.resolve item with
      | .error e => .error e
      | .ok value => (g.resolveNamed rest).map ((name, value) :: ·)

/-- The values of a node's operands, positional ones first. -/
def resolveOperands (g : Graph) (node : Node) :
    Except CaptureError (List Value × Named Value) := do
  let args ← g.resolveAll node.args
  let kwargs ← g.resolveNamed node.kwargs
  .ok (args, kwargs)

end Graph

namespace Capture

/-! ## Running an operation -/

/-- Runs an operation of the library as a step: what it reports is part of the answer. -/
def runKernel (act : Library → Kernel Value × Library) : Capture (Except LibraryError Value) :=
  ofFunction fun t =>
    let (outcome, library) := act t.workshop.library
    let t := { t with workshop := { t.workshop with library } }
    match outcome with
    | .ok value => (.ok (.ok value), t)
    | .error (.error cause) => (.ok (.error cause), t)
    | .error .abort => (.error .abort, t)

/-- Calls a module; `keep` says what becomes of the module after the call. -/
def runModule (m : Module) (keep : Module → Workshop → Workshop) (args : List Value)
    (kwargs : Named Value) : Capture (Except LibraryError Value) :=
  ofFunction fun t =>
    let (outcome, m, workshop) := m.forward args kwargs t.workshop
    let t := { t with workshop := keep m workshop }
    match outcome with
    | .ok value => (.ok (.ok value), t)
    | .error (.error cause) => (.ok (.error cause), t)
    | .error .abort => (.error .abort, t)

/-- Puts a module back into its cell. -/
def storeIn (handle : Nat) (m : Module) (w : Workshop) : Workshop :=
  { w with modules := w.modules.setIfInBounds handle m }

/-- Calls the module itself, which the call may change. -/
def runItself (handle : Nat) (m : Module) (args : List Value) (kwargs : Named Value) :
    Capture (Except LibraryError Value) :=
  runModule m (storeIn handle) args kwargs

/-- Calls a copy, which is dropped afterwards. -/
def runCopy (copy : Module) (args : List Value) (kwargs : Named Value) :
    Capture (Except LibraryError Value) :=
  runModule copy (fun _ w => w) args kwargs

/-- Runs a method on its receiver, the first argument. -/
def runMethod (name : String) (args : List Value) (kwargs : Named Value) :
    Capture (Except LibraryError Value) :=
  match args with
  | receiver :: rest =>
      runKernel fun library => (library.callMethod name receiver rest kwargs, library)
  | [] => return .error (.failed (.methodWithoutReceiver name))

/-- A step in placeholder mode, where the trace uses placeholders. -/
def inMode {α : Type} (placeholders : Bool) (act : Capture α) : Capture α :=
  if placeholders then inPlaceholderMode act else act

/-- What the capture makes of an error of the library. The item of a placeholder is a zero of
its element type where scalars are captured; every other error stays one. -/
def interpretError (target : Target) (args : List Value) (placeholders : Bool) (e : LibraryError) :
    Capture Value := do
  match e, placeholders with
  | .unsupported reason, _ => refuse (.stated reason.message)
  | .placeholderUnsupported reason, true => refuse (.stated reason)
  | .dataDependentOutput operator, true =>
      if (← config).captureScalarOutputs && target.isMethod "item" then
        match args.head?.bind Value.toTensor? with
        | some t => return .ofScalar (.zero t.elementType)
        | none => breach .itemOfNonTensor
      else refuse (.dataDependent operator)
  | .dynamicOutputShape operator, true => refuse (.dynamicShape operator)
  | e, _ => fail (.runtime target e)

/-- The value of an operation, or what the capture makes of its error. -/
def settle (target : Target) (args : List Value) (placeholders : Bool)
    (result : Except LibraryError Value) : Capture Value :=
  match result with
  | .ok value => return value
  | .error e => interpretError target args placeholders e

/-- The handle and the module that a call of a path reaches; one given by the caller comes
first. -/
def moduleFor (path : String) (given : Option Nat) : Capture (Nat × Module) := do
  let t ← get
  match given.or (t.graph.module? path) with
  | none => breach (.noModule path)
  | some handle =>
      match t.workshop.modules[handle]? with
      | none => breach (.noModule path)
      | some m => return (handle, m)

/-- Calls a module. A lazy one is first called outside placeholder mode, which gives it its
parameters, and then called itself; of any other one a copy is called. -/
def callModule (path : String) (given : Option Nat) (args : List Value) (kwargs : Named Value)
    (placeholders : Bool) : Capture (Except LibraryError Value) := do
  let (handle, m) ← moduleFor path given
  if m.isLazy (← asks Trace.workshop) then
    say .debug .graph s!"initializing lazy module {m.name}"
    let first ← runItself handle m args kwargs
    if let .error e := first then
      let _ ← interpretError (.module path) args placeholders e
    let m ← asks fun t => (t.workshop.modules[handle]?).getD m
    inMode placeholders (runItself handle m args kwargs)
  else if placeholders then inMode true (runCopy m.erase args kwargs)
  else runCopy m.deepCopy args kwargs

/-- The value as the trace uses it: erased where it uses placeholders. -/
def prepared (placeholders : Bool) (value : Value) : Value :=
  if placeholders then value.erase else value

/-- Runs a node on the example values of its operands. -/
def runNode (id : NodeId) (module? : Option Nat) : Capture Value := do
  let placeholders := (← config).placeholderPropagation
  let node ← node id
  let (args, kwargs) ← ofExcept ((← get).graph.resolveOperands node)
  let args := args.map (prepared placeholders)
  let kwargs := kwargs.mapValues (prepared placeholders)
  let result ← match node.target with
    | .placeholder name => breach (.placeholderRun name)
    | .builtin b =>
        inMode placeholders <|
          runKernel fun library => library.callFunction (.builtin b) args kwargs
    | .function name =>
        inMode placeholders <|
          runKernel fun library => library.callFunction (.function name) args kwargs
    | .method name => inMode placeholders (runMethod name args kwargs)
    | .module path => callModule path module? args kwargs placeholders
  settle node.target args placeholders result

/-- The example value of a node: the supplied one, or the result of running the node. -/
def exampleValue (id : NodeId) (supplied : Option Value) (module? : Option Nat) : Capture Value :=
  keepingGenerator do
    match supplied with
    | some value => return prepared (← config).placeholderPropagation value
    | none => runNode id module?

end Capture

end TensorCapture
