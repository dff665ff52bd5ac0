import TensorCapture.Capture.Inlining
import TensorCapture.Graph.Basic
import TensorCapture.Module.Basic

set_option autoImplicit false

/-! # Traces

A trace owns its graph and the workshop in which operations run. A capture is a step of a
trace: it may change the trace, and it gives an answer, an error, or ends the run. The changes
made before an error stay.
-/

namespace TensorCapture

/-- The state of a trace. -/
structure Trace where
  config : Config
  name : String
  graph : Graph
  workshop : Workshop
  inliner : Option Inliner
  /-- Whether method calls on subclass instances go to their hooks. -/
  dispatching : Bool

/-- A trace before its first step. -/
def Trace.start (name : String) (config : Config) (library : Library) : Trace where
  config := config
  name := name
  graph := .empty
  workshop := .ofLibrary library
  inliner := none
  dispatching := true

/-- The name of a trace that no session started. -/
def Trace.anonymous : String := "<trace>"

namespace Trace

/-- The library of the trace. -/
def library (t : Trace) : Library := t.workshop.library

/-- The trace with another state of its library. -/
def withLibrary (t : Trace) (library : Library) : Trace :=
  { t with workshop := { t.workshop with library } }

/-- Puts a module in a new cell and gives its handle. -/
def addModule (t : Trace) (m : Module) : Nat × Trace :=
  let (handle, workshop) := t.workshop.addModule m
  (handle, { t with workshop })

/-- Gives a new tally for the calls of a replaying module. -/
def addTally (t : Trace) : Nat × Trace :=
  let (tally, workshop) := t.workshop.addTally
  (tally, { t with workshop })

/-- The module in a cell. -/
def moduleAt? (t : Trace) (handle : Nat) : Option Module := t.workshop.modules[handle]?

/-- Registers a module under a path. -/
def register (t : Trace) (path : String) (handle : Nat) : Trace :=
  { t with graph := t.graph.register path handle }

/-- Marks the inputs from a source as no longer needed and gives their number. -/
def eraseInputs (t : Trace) (source : Source) : Nat × Trace :=
  (t.graph.countInputs source, { t with graph := t.graph.eraseInputs source })

end Trace

/-- A step of a trace. -/
abbrev Capture := ExceptT (Fault CaptureError) (StateM Trace)

namespace Capture

variable {α : Type}

/-- The step that a function on the state describes. -/
def ofFunction (f : Trace → Outcome CaptureError α × Trace) : Capture α := ExceptT.mk f

/-- The outcome of a step and the state after it. -/
def outcome (act : Capture α) (t : Trace) : Outcome CaptureError α × Trace := act.run.run t

@[simp] theorem outcome_ofFunction (f : Trace → Outcome CaptureError α × Trace) (t : Trace) :
    (ofFunction f).outcome t = f t := rfl

/-- Reports an error. -/
def fail (e : CaptureError) : Capture α := throw (.error e)

/-- Refuses a construct. -/
def refuse (reason : Refusal) : Capture α := fail (.unsupported reason)

/-- Reports a state without an answer. -/
def breach (b : Breach) : Capture α := fail (.internal b)

/-- A result that does not depend on the state. -/
def ofExcept : Except CaptureError α → Capture α
  | .ok a => pure a
  | .error e => fail e

/-- A number that may be out of range, in which case the run ends. -/
def ofBounded : Option α → Capture α
  | some a => pure a
  | none => throw .abort

/-- A part of the state. -/
def asks (f : Trace → α) : Capture α := do return f (← get)

/-- The settings of the trace. -/
def config : Capture Config := asks Trace.config

/-- Changes the graph. -/
def modifyGraph (f : Graph → Graph) : Capture Unit := modify fun t => { t with graph := f t.graph }

/-- Writes a message. -/
def say (level : Log.Level) (channel : Log.Channel) (text : String) : Capture Unit :=
  modify fun t => { t with workshop := t.workshop.say level channel text }

/-- A step after which the generator of the library is as it was before, whatever the step
comes to. -/
def keepingGenerator (act : Capture α) : Capture α := ofFunction fun t =>
  let (result, t') := act.outcome t
  let library := { t'.workshop.library with generator := t.workshop.library.generator }
  (result, { t' with workshop := { t'.workshop with library } })

/-- A step that runs one level deeper in placeholder mode. -/
def inPlaceholderMode (act : Capture α) : Capture α := ofFunction fun t =>
  let entered := { t with workshop := { t.workshop with library := t.workshop.library.enter } }
  let (result, t') := act.outcome entered
  (result, { t' with workshop := { t'.workshop with library := t'.workshop.library.leave } })

/-- A step during which no method call goes to a hook. -/
def withoutDispatch (act : Capture α) : Capture α := ofFunction fun t =>
  let (result, t') := act.outcome { t with dispatching := false }
  (result, { t' with dispatching := t.dispatching })

/-! ## Steps on the graph -/

/-- Adds guards to those that the graph depends on. -/
def addGuards (guards : GuardSet) : Capture Unit := modifyGraph fun g => g.addGuards guards

/-- The node with this identity. -/
def node (id : NodeId) : Capture Node := do ofExcept ((← get).graph.node? id)

/-- Records an operation and gives its node. -/
def record (target : Target) (args : List Operand) (kwargs : Named Operand) : Capture NodeId := do
  let (id, graph) ← ofExcept ((← get).graph.record target args kwargs)
  modifyGraph fun _ => graph
  say .trace .graph s!"{id.text} = {target.kind.name} {target.text}"
  return id

/-- Records the subscript of a node with a constant index. -/
def recordItem (id : NodeId) (index : Nat) : Capture NodeId :=
  if index < Word.signedBound then
    record (.builtin .getItem) [.node id, .literal (.int (Word.signed index))] []
  else breach (.indexOverflow index)

/-- Adds an input and gives its node. -/
def addInput (name : String) (source : Source) : Capture NodeId := do
  let (id, graph) := (← get).graph.addInput name source
  modifyGraph fun _ => graph
  return id

/-- Writes the example value of a node. -/
def setExample (id : NodeId) (value : Value) : Capture Unit := do
  let graph ← ofExcept ((← get).graph.setExample id value)
  modifyGraph fun _ => graph

/-- An identity for a new container. -/
def newIdentity : Capture Nat := do
  let (identity, graph) := (← get).graph.newIdentity
  modifyGraph fun _ => graph
  return identity

end Capture

end TensorCapture
