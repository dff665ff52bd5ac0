import TensorCapture.Library.Arguments
import TensorCapture.Library.Generator

set_option autoImplicit false

/-! # Linear layers

A linear layer maps the last axis of its input: each row is multiplied by the rows of the
weight matrix, and the bias is added. Products are summed from the left, starting from negative
zero.
-/

namespace TensorCapture

/-- A linear layer. The weight has one row for each output feature. -/
structure Linear where
  name : String
  weight : Tensor
  bias : Option Tensor

namespace Linear

/-- The layer of a weight and a bias, both made parameters. -/
def ofTensors (name : String) (weight : Tensor) (bias : Option Tensor) : Linear :=
  ⟨name, weight.toParameter, bias.map Tensor.toParameter⟩

/-- The number in `[-bound, bound)` that the upper 52 bits of a word denote. -/
def spreadOver (bound : Float) (wide : UInt64) : Float :=
  (wide >>> 12).toFloat / 4503599627370496.0 * (bound + bound) - bound

/-- Random numbers in `[-bound, bound)`. -/
def samples (count? : Option Nat) (bound : Float) (g : Generator) :
    Kernel (Array Float × Generator) := do
  let count ← Kernel.allocate count?
  let (wides, g) := g.nextWides count
  .ok ((wides.map (spreadOver bound)).toArray, g)

/-- A layer with random weight and bias, bounded by the root of the number of inputs. -/
def seeded (name : String) (inputs outputs : Nat) (seed : UInt64) : Kernel Linear := do
  let bound := 1.0 / (UInt64.ofNat (max inputs 1)).toFloat.sqrt
  let (weight, g) ← samples (Word.mul? outputs inputs) bound (.ofSeed seed)
  let (bias, _) ← samples (some outputs) bound g
  .ok <| ofTensors name (Tensor.ofElements [outputs, inputs] weight .f32)
    (some (Tensor.ofElements [outputs] bias .f32))

/-- The layer with its parameters turned into placeholders. -/
def erase (l : Linear) : Linear := ⟨l.name, l.weight.erase, l.bias.map Tensor.erase⟩

/-- One output: a row of the input times a row of the weight, and the bias, zero where there is
none. -/
def output? (x w : Array Float) (bias : Option (Array Float)) (inputs row column : Nat) :
    Option Float := do
  let products ← (List.range inputs).mapM fun i => do
    let a ← x[row * inputs + i]?
    let b ← w[column * inputs + i]?
    some (a * b)
  let offset ← match bias with
    | some b => b[column]?
    | none => some 0.0
  some (Kernel.sum products + offset)

/-- All outputs, row after row, where they can be allocated. The rows are counted by the elements
of the input. -/
def outputs? (x w : Array Float) (bias : Option (Array Float)) (inputs outputs : Nat) :
    Option (Array Float) :=
  (Word.mul? (x.size / max inputs 1) outputs).bind fun count =>
    if count ≤ Word.allocatable then
      Kernel.gather? count fun flat => output? x w bias inputs (flat / outputs) (flat % outputs)
    else none

/-- The layer applied to a tensor. The result is a placeholder where the input or the weight
is one. -/
def apply (l : Linear) (input : Tensor) : Kernel Tensor :=
  match l.weight.size with
  | [outputs, inputs] =>
      match input.size.getLast? with
      | none => Kernel.fail (.inputRank l.name)
      | some last =>
          if last ≠ inputs then Kernel.fail (.inputWidth l.name inputs last)
          else do
            let storage ← match input.elements?, l.weight.elements? with
              | some x, some w => do
                  let elements ← Outcome.ofBounded <|
                    outputs? x w (l.bias.bind Tensor.elements?) inputs outputs
                  .ok (Storage.dense elements)
              | _, _ => .ok Storage.placeholder
            .ok { input.derive (input.size.dropLast ++ [outputs]) storage with
              requiresGrad := true }
  | _ => Kernel.fail (.weightRank l.name)

/-- The layer run on its arguments. -/
def forward (l : Linear) (args : List Value) : Kernel Value :=
  match args with
  | [.tensor input] => (l.apply input).map Value.tensor
  | _ => Kernel.fail (.notOneTensor l.name)

end Linear

end TensorCapture
