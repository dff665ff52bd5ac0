set_option autoImplicit false

/-! # Devices and memory formats -/

namespace TensorCapture

/-- The kinds of device that a tensor can live on. -/
inductive DeviceKind where
  | cpu
  | cuda
  /-- A device that holds shapes only. -/
  | shapeOnly
  deriving DecidableEq, Repr

/-- Every kind of device. -/
def DeviceKind.all : List DeviceKind := [cpu, cuda, shapeOnly]

/-- The name in documents. -/
def DeviceKind.tag : DeviceKind → String
  | cpu => "Cpu"
  | cuda => "Cuda"
  | shapeOnly => "Meta"

/-- The name in messages. -/
def DeviceKind.name : DeviceKind → String
  | cpu => "cpu"
  | cuda => "cuda"
  | shapeOnly => "meta"

/-- A device, with its ordinal where it has one. -/
structure Device where
  kind : DeviceKind
  index : Option Nat
  deriving DecidableEq, Repr

/-- The processor, without an ordinal. -/
def Device.cpu : Device := ⟨.cpu, none⟩

/-- Whether the device is an accelerator. -/
def Device.isCuda (d : Device) : Bool := d.kind = .cuda

/-- The kind, and the ordinal behind a colon. -/
def Device.text (d : Device) : String :=
  match d.index with
  | some i => d.kind.name ++ ":" ++ toString i
  | none => d.kind.name

/-- How a tensor may be asked to lie in memory. -/
inductive MemoryFormat where
  | contiguous
  | channelsLast
  | preserve
  deriving DecidableEq, Repr

/-- Every memory format. -/
def MemoryFormat.all : List MemoryFormat := [contiguous, channelsLast, preserve]

/-- The name in documents and messages. -/
def MemoryFormat.tag : MemoryFormat → String
  | contiguous => "Contiguous"
  | channelsLast => "ChannelsLast"
  | preserve => "Preserve"

end TensorCapture
