import TensorCapture.Module.Linear

set_option autoImplicit false

/-! # Lazy linear layers

A lazy layer learns its number of inputs from the first call: a call with one tensor that has
an axis fixes the parameters, and from then on the layer is the linear layer with these.
-/

namespace TensorCapture

/-- A linear layer that gets its parameters at its first call. -/
structure LazyLinear where
  name : String
  outputs : Nat
  seed : UInt64
  /-- The layer, once it has parameters. -/
  inner : Option Linear

namespace LazyLinear

/-- The layer before its first call. -/
def unmaterialized (name : String) (outputs : Nat) (seed : UInt64) : LazyLinear :=
  ⟨name, outputs, seed, none⟩

/-- Whether the layer has no parameters yet. -/
def isLazy (l : LazyLinear) : Bool := l.inner.isNone

/-- The number of inputs, once it is known. -/
def inputs? (l : LazyLinear) : Option Nat := l.inner.bind fun linear => linear.weight.size[1]?

/-- The layer with its parameters, where it has any, turned into placeholders. -/
def erase (l : LazyLinear) : LazyLinear := { l with inner := l.inner.map Linear.erase }

/-- The number of inputs that a first call fixes. -/
def widthOf (l : LazyLinear) (args : List Value) : Kernel Nat :=
  match args with
  | [.tensor input] => Kernel.orFail (.unknownWidth l.name) input.size.getLast?
  | _ => Kernel.fail (.notOneTensor l.name)

/-- A call: its outcome, the layer after it, and the number of inputs where this call fixed
it. -/
def forward (l : LazyLinear) (args : List Value) : Kernel Value × LazyLinear × Option Nat :=
  match l.inner with
  | some linear => (linear.forward args, l, none)
  | none =>
      match l.widthOf args with
      | .error fault => (.error fault, l, none)
      | .ok inputs =>
          match Linear.seeded l.name inputs l.outputs l.seed with
          | .error fault => (.error fault, l, some inputs)
          | .ok linear => (linear.forward args, { l with inner := some linear }, some inputs)

end LazyLinear

end TensorCapture
