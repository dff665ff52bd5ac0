import TensorCapture.Capture.Trace
import TensorCapture.Graph.Summary

set_option autoImplicit false

/-! # Sessions

A session starts and finishes traces with the same settings and numbers these steps. Finishing
a trace also writes the summary of its graph.
-/

namespace TensorCapture

/-- A session. -/
structure Session where
  config : Config
  counter : Log.StepCounter

namespace Session

/-- A session before its first step. -/
def ofConfig (config : Config) : Session := ⟨config, .start⟩

/-- The number that the next step gets. -/
def nextStep (s : Session) : Nat := s.counter.next

/-- Starts a trace: the message, the trace, and the session after it. -/
def start (s : Session) (name : String) (library : Library) : Log.Message × Trace × Session :=
  let (step, counter) := s.counter.advance
  (Log.stepMessage step .info s!"start tracing {name}", .start name s.config library,
    { s with counter })

/-- Finishes a trace: the messages, and the session after it. -/
def finish (s : Session) (t : Trace) : List Log.Message × Session :=
  let (step, counter) := s.counter.advance
  ([Log.stepMessage step .info s!"done tracing {t.name} ({t.graph.nodes.size} nodes)",
      ⟨.debug, .code, t.graph.summaryText⟩],
    { s with counter })

end Session

end TensorCapture
