import TensorCapture.Config

set_option autoImplicit false

/-! # Messages

Messages have a level and a target; a filter passes the levels up to its own. Messages about
the progress of a session carry the number of a step, which a counter hands out.
-/

namespace TensorCapture.Log

/-- How important a message is; `off` passes nothing as a filter. -/
inductive Level where
  | off
  | error
  | warn
  | info
  | debug
  | trace
  deriving DecidableEq, Repr

/-- Every level. -/
def Level.all : List Level := [.off, .error, .warn, .info, .debug, .trace]

/-- The position from the most to the least important one. -/
def Level.rank : Level → Nat
  | .off => 0
  | .error => 1
  | .warn => 2
  | .info => 3
  | .debug => 4
  | .trace => 5

/-- The name of the level. -/
def Level.name : Level → String
  | .off => "OFF"
  | .error => "ERROR"
  | .warn => "WARN"
  | .info => "INFO"
  | .debug => "DEBUG"
  | .trace => "TRACE"

/-- Where a message belongs. -/
inductive Channel where
  /-- Progress of a session. -/
  | session
  /-- Nodes of a graph. -/
  | graph
  /-- Finished graphs. -/
  | code
  /-- Modules of the library. -/
  | module
  deriving DecidableEq, Repr

/-- The name of the target. -/
def Channel.name : Channel → String
  | .session => "symtrace"
  | .graph => "symtrace::graph"
  | .code => "symtrace::code"
  | .module => "symtrace_ref_cpu::module"

/-- A message. -/
structure Message where
  level : Level
  channel : Channel
  text : String
  deriving DecidableEq, Repr

/-- Whether a filter of this level passes the message. -/
def Message.passes (m : Message) (filter : Level) : Bool :=
  m.level ≠ .off && m.level.rank ≤ filter.rank

/-- The message in one line. -/
def Message.line (m : Message) : String :=
  m.level.name ++ " " ++ m.channel.name ++ " " ++ m.text

/-! ## Numbered steps -/

/-- The number that the next step gets. -/
structure StepCounter where
  next : Nat
  deriving DecidableEq, Repr

/-- The counter before the first step. -/
def StepCounter.start : StepCounter := ⟨1⟩

/-- Hands out a number. -/
def StepCounter.advance (c : StepCounter) : Nat × StepCounter := (c.next, ⟨c.next + 1⟩)

/-- A text with the number of its step. -/
def stepText (step : Nat) (text : String) : String := s!"Step {step}: {text}"

/-- A message with the number of its step. -/
def stepMessage (step : Nat) (level : Level) (text : String) : Message :=
  ⟨level, .session, stepText step text⟩

/-! ## Setting up -/

/-- What setting up the messages leaves behind. -/
structure Setup where
  filter : Level
  /-- Whether the file for messages was created. -/
  fileCreated : Bool
  deriving DecidableEq, Repr

/-- Sets the filter; handlers are installed on demand, and only they create the file. -/
def setUp (filter : Level) (file install : Bool) : Setup := ⟨filter, install && file⟩

/-- The name of the setting that suppresses the handlers. -/
def skipSetting : String := "SYMTRACE_SKIP_LOG_HANDLERS"

/-- Sets the filter, and installs handlers unless the setting affirms to skip them. -/
def setUpBySetting (filter : Level) (file : Bool) (lookup : String → Option String) : Setup :=
  setUp filter file (!Config.switchOf (lookup skipSetting) false)

end TensorCapture.Log
