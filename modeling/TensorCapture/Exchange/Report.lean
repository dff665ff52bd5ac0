import TensorCapture.Capture.Script
import TensorCapture.Capture.Session
import TensorCapture.Exchange.Variable

set_option autoImplicit false

/-! # Reports

What a run tells other programs: errors with their class and wording, the messages that a filter
passes, the calls of modules and user functions, and the state of a finished trace.
-/

namespace TensorCapture

open Exchange

/-- The fields of an object. -/
abbrev Report := List (String × Json)

namespace Report

/-- The answer of an operation that gave one. -/
def ofAnswer (answer : Json) : Report := [("ok", answer)]

/-- The end of a run. -/
def aborted : Report := [("error", .text "panic")]

/-- Whether the run ended. -/
def isAborted (r : Report) : Bool :=
  match r.lookup "error" with
  | some (.text "panic") => true
  | _ => false

/-- A list that is left out where it is empty. -/
def unlessEmpty (name : String) (items : List Json) : Report :=
  if items.isEmpty then [] else [(name, .array items)]

end Report

/-! ## Errors -/

/-- The class of an error of the library. -/
def LibraryError.tag : LibraryError → String
  | unsupported _ => "Unsupported"
  | placeholderUnsupported _ => "UnsupportedPlaceholder"
  | dataDependentOutput _ => "DataDependentOutput"
  | dynamicOutputShape _ => "DynamicOutputShape"
  | failed _ => "Runtime"

/-- The error with its class and wording. -/
def LibraryError.report (e : LibraryError) : Report :=
  [("error", .text e.tag), ("message", .text e.message)]

/-- The error of this class with a given reason. -/
def LibraryError.ofExchange? : Json → Option LibraryError
  | .object [("Unsupported", .text reason)] => some (unsupported (.stated reason))
  | .object [("UnsupportedPlaceholder", .text reason)] => some (placeholderUnsupported reason)
  | .object [("DataDependentOutput", .text operator)] => some (dataDependentOutput operator)
  | .object [("DynamicOutputShape", .text operator)] => some (dynamicOutputShape operator)
  | .object [("Runtime", .text message)] => some (failed (.stated message))
  | _ => none

/-- The class of an error of a capture. -/
def CaptureError.tag : CaptureError → String
  | unsupported _ => "Unsupported"
  | notImplemented _ => "NotImplemented"
  | runtime _ _ => "Runtime"
  | internal _ => "Internal"

/-- The error with its class and wording, and with its cause where it has one. -/
def CaptureError.report (e : CaptureError) : Report :=
  [("error", .text e.tag), ("message", .text e.message), ("graph_break", .bool e.isGraphBreak)] ++
    match e with
    | runtime _ cause =>
        [("cause", .object (cause.report ++ [("source_text", .text cause.message)]))]
    | _ => []

/-- What an operation of the library came to. -/
def Kernel.report {α : Type} (answer : α → Report) : Kernel α → Report
  | .ok a => answer a
  | .error (.error e) => e.report
  | .error .abort => Report.aborted

/-- A value with its type, and whether it is a number, absent, or a tensor. -/
def Value.report (detail : Detail) (v : Value) : Report :=
  [("ok", v.toExchange detail), ("type", .text v.typeName),
    ("number", Scalar.optionToExchange detail v.toScalar?), ("is_none", .bool v.isNone),
    ("tensor", .bool v.toTensor?.isSome)]

/-! ## The journal -/

/-- The messages that a filter passes, each in one line. -/
def Log.lines (filter : Log.Level) (messages : List Log.Message) : List Json :=
  (messages.filter (·.passes filter)).map fun m => .text m.line

/-- The call, where the entry is one. -/
def Event.call? (detail : Detail) : Event → Option Json
  | .message _ => none
  | .moduleCall call =>
      some <| .object
        [("module", .text call.name), ("copy", .text call.copy.tag),
          ("mode", .bool call.inPlaceholderMode),
          ("args", .array (call.args.map (Value.toExchange detail))),
          ("kwargs", .object (call.kwargs.mapValues (Value.toExchange detail)))]
  | .inlineCall call dispatching =>
      some <| .object
        [("inline", call.function.toExchange detail), ("enabled", .bool dispatching),
          ("args", .array (call.args.map (Variable.toExchange detail))),
          ("kwargs", .texts (call.kwargs.map Prod.fst))]

/-- What changed in a trace since it had so many nodes and journal entries. -/
def Trace.progress (t : Trace) (detail : Detail) (filter : Log.Level) (nodes entries : Nat) :
    Report :=
  let events := t.workshop.journal.toList.drop entries
  [("live", .natural t.graph.liveInputs.length), ("guard_count", .natural t.graph.guards.size)] ++
    Report.unlessEmpty "new" ((t.graph.nodes.toList.drop nodes).map Node.toExchange) ++
    Report.unlessEmpty "calls" (events.filterMap (Event.call? detail)) ++
    Report.unlessEmpty "log" (Log.lines filter (events.filterMap Event.message?))

/-- The state of a trace that a session finishes. -/
def Session.report (s : Session) (t : Trace) (detail : Detail) (filter : Log.Level) : Report :=
  let (messages, after) := s.finish t
  let examples := t.graph.nodes.toList.map fun node =>
    Json.ofOption (node.example?.map (Value.toExchange detail))
  [("name", .text t.name), ("log", .array (Log.lines filter messages)),
    ("next_step", .natural after.nextStep), ("examples", .array examples),
    ("inputs", .array (t.graph.liveInputs.map GraphInput.toExchange)),
    ("guards", Guard.lines t.graph.guards.members),
    ("ordered", Guard.lines t.graph.guards.ordered),
    ("deoptimized", .array (t.graph.deoptimizedNodes.map NodeId.toJson)),
    ("enabled", .bool t.dispatching),
    ("placeholder_mode", .bool (t.workshop.library.mode = .placeholder))]

/-! ## Scripts and replies -/

/-- The script in a document. -/
def Script.ofExchange? : Json → Option Script
  | .object [("fail", .text reason)] => some (refuse reason)
  | .object [("const", value)] => (Literal.ofExchange? value).map constant
  | .object [("through", .null)] => some (through none)
  | .object [("through", .text method)] => some (through (some method))
  | .object [("delegate", _)] => some delegate
  | .object [("rewrap", _)] => some rewrap
  | _ => none

/-- A reply of a replaying module: an error, or a value that may refer to the arguments. The
value is read at each call; one that cannot be read ends the run. -/
def Replay.replyOfExchange? : Json → Option (List Value → Kernel Value)
  | .object [("error", e)] => (LibraryError.ofExchange? e).map fun e _ => Outcome.fail e
  | .object [("value", value)] => some fun args =>
      match Value.ofExchange args value with
      | .ok value => .ok value
      | .error _ => Outcome.stop
  | _ => none

/-- How long a replaying module counts as lazy: never, unless the document says otherwise. -/
def Laziness.ofExchange : Json → Laziness
  | .text "once" => once
  | .text "always" => always
  | _ => never

end TensorCapture
