import TensorCapture.Journal
import TensorCapture.Library.Basic
import TensorCapture.Module.Lazy
import TensorCapture.Module.Replay

set_option autoImplicit false

/-! # Modules and the workshop they run in

Modules live in cells and are reached by handles, so that a call can change them. The workshop
is the state that running an operation can touch: the library, the modules, the numbers of
calls of replaying modules, and the journal.
-/

namespace TensorCapture

/-- A module. -/
inductive Module where
  | linear (layer : Linear)
  | lazyLinear (layer : LazyLinear)
  | replay (replay : Replay)

/-- The state that running an operation can touch. -/
structure Workshop where
  library : Library
  modules : Array Module
  /-- The numbers of calls of replaying modules, each shared by the copies of one module. -/
  tallies : Array Nat
  journal : Array Event

namespace Workshop

/-- The workshop of a library, without modules. -/
def ofLibrary (library : Library) : Workshop := ⟨library, #[], #[], #[]⟩

/-- Writes an entry. -/
def note (w : Workshop) (event : Event) : Workshop := { w with journal := w.journal.push event }

/-- Writes a message. -/
def say (w : Workshop) (level : Log.Level) (channel : Log.Channel) (text : String) : Workshop :=
  w.note (.message ⟨level, channel, text⟩)

/-- The number of calls under a tally. -/
def callsOf (w : Workshop) (tally : Nat) : Nat := w.tallies[tally]?.getD 0

/-- Draws random numbers and drops them. -/
def burn (w : Workshop) (count : Nat) : Workshop :=
  { w with library := w.library.discard count }

end Workshop

namespace Module

/-- The module's own name. -/
def name : Module → String
  | linear layer => layer.name
  | lazyLinear layer => layer.name
  | replay r => r.name

/-- Whether the module waits for a first call. -/
def isLazy (m : Module) (w : Workshop) : Bool :=
  match m with
  | linear _ => false
  | lazyLinear layer => layer.isLazy
  | replay r => r.isLazy (w.callsOf r.tally)

/-- An independent copy. -/
def deepCopy : Module → Module
  | linear layer => linear layer
  | lazyLinear layer => lazyLinear layer
  | replay r => replay { r with copy := .deep }

/-- A copy whose parameters are placeholders. -/
def erase : Module → Module
  | linear layer => linear layer.erase
  | lazyLinear layer => lazyLinear layer.erase
  | replay r => replay { r with copy := .placeholder }

/-- The number of inputs of a lazy layer, once it is known. -/
def inputs? : Module → Option Nat
  | lazyLinear layer => layer.inputs?
  | _ => none

/-- A call: its outcome, the module after it, and the workshop after it. -/
def forward (m : Module) (args : List Value) (kwargs : Named Value) (w : Workshop) :
    Kernel Value × Module × Workshop :=
  match m with
  | linear layer => (layer.forward args, m, w)
  | lazyLinear layer =>
      let (outcome, layer, width) := layer.forward args
      let w := match width with
        | some inputs =>
            w.say .debug .module s!"materializing {layer.name} with {inputs} input features"
        | none => w
      (outcome, lazyLinear layer, w)
  | replay r =>
      let w := w.burn r.draws
      let w := w.note <| .moduleCall
        ⟨r.name, r.copy, w.library.mode = .placeholder, args, kwargs⟩
      let count := w.callsOf r.tally
      let w := { w with tallies := w.tallies.modify r.tally (· + 1) }
      (r.reply count args, m, w)

end Module

namespace Workshop

/-- Puts a module in a new cell and gives its handle. -/
def addModule (w : Workshop) (m : Module) : Nat × Workshop :=
  (w.modules.size, { w with modules := w.modules.push m })

/-- Gives a new tally. -/
def addTally (w : Workshop) : Nat × Workshop :=
  (w.tallies.size, { w with tallies := w.tallies.push 0 })

end Workshop

end TensorCapture
