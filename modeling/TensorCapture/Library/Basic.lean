import TensorCapture.Graph.Target
import TensorCapture.Library.Creation
import TensorCapture.Library.Elementwise
import TensorCapture.Library.Rearrangement
import TensorCapture.Library.Reduction
import TensorCapture.Library.Selection

set_option autoImplicit false

/-! # The reference library

The library runs one operation at a time: functions by name, methods of tensors by name, and
builtin operators. Its state is a generator of random numbers and the depth of placeholder
mode. Only `rand`, `seed` and `manual_seed` touch the generator, and none changes the depth.
-/

namespace TensorCapture

/-- The state of the library. -/
structure Library where
  generator : Generator
  /-- How many times placeholder mode was entered and not yet left. -/
  placeholderDepth : Nat
  deriving DecidableEq, Repr

namespace Library

/-- The library with the generator of a seed. -/
def ofSeed (seed : UInt64) : Library := ⟨.ofSeed seed, 0⟩

/-- The name the library gives itself. -/
def name : String := "cpu-ref"

/-- The mode the kernels run in. -/
def mode (lib : Library) : Mode := if 0 < lib.placeholderDepth then .placeholder else .eager

/-- The library one level deeper in placeholder mode. -/
def enter (lib : Library) : Library := { lib with placeholderDepth := lib.placeholderDepth + 1 }

/-- The library one level less deep in placeholder mode. -/
def leave (lib : Library) : Library := { lib with placeholderDepth := lib.placeholderDepth - 1 }

/-- Draws a random number. -/
def draw (lib : Library) : Float × Library :=
  let (x, g) := lib.generator.nextUnit
  (x, { lib with generator := g })

/-- The library after some draws whose numbers are dropped. -/
def discard (lib : Library) (count : Nat) : Library :=
  { lib with generator := lib.generator.skip (2 * count) }

/-! ## Functions -/

/-- A function that leaves the generator alone. -/
def function (mode : Mode) (name : String) (args : List Value) (kwargs : Named Value) :
    Kernel Value :=
  match name, args with
  | "add", [a, b] => Kernel.elementwise mode "add" (· + ·) a b
  | "sub", [a, b] => Kernel.elementwise mode "sub" (· - ·) a b
  | "mul", [a, b] => Kernel.elementwise mode "mul" (· * ·) a b
  | "div", [a, b] => Kernel.elementwise mode "div" (· / ·) a b
  | "relu", [a] => Kernel.unary mode Kernel.relu a
  | "neg", [a] => Kernel.unary mode (- ·) a
  | "zeros", args => Kernel.filled mode 0.0 args kwargs
  | "ones", args => Kernel.filled mode 1.0 args kwargs
  | "matmul", [a, b] => Kernel.matmul mode a b
  | "nonzero", [a] => Kernel.nonzero mode a
  | "max", [a, axis] => Kernel.maxAlong mode a axis
  | name, args => Kernel.refuse (.function name args.length)

/-- The remainder with the sign of the divisor, formed in signed words. -/
def integerMod (a b : Int64) : Kernel Int64 :=
  if b = 0 then Kernel.fail .moduloByZero
  else Outcome.ofBounded do
    let r ← Word.remSigned? a b
    let s ← Word.addSigned? r b
    Word.remSigned? s b

/-- The remainder of two integers, of two numbers, or of tensors element by element. -/
def modulo (mode : Mode) (a b : Value) : Kernel Value :=
  match a, b with
  | .int a, .int b => (integerMod a b).map Value.int
  | a, b =>
      match a.toScalar?, b.toScalar? with
      | some a, some b => .ok (.float (Kernel.floatMod a.toFloat b.toFloat))
      | _, _ => Kernel.elementwise mode "mod" Kernel.floatMod a b

/-- The square root of a number that is not negative. -/
def squareRoot (v : Value) : Kernel Value := do
  let x ← Kernel.numberOf v
  if x.toFloat < 0.0 then Kernel.fail .mathDomain else .ok (.float x.toFloat.sqrt)

/-- A power of a number. -/
def power (base exponent : Value) : Kernel Value := do
  let x ← Kernel.numberOf base
  let y ← Kernel.numberOf exponent
  .ok (.float (x.toFloat.pow y.toFloat))

/-- A builtin operator that leaves the generator alone. -/
def builtin (mode : Mode) (b : Builtin) (args : List Value) : Kernel Value :=
  match b, args with
  | .getItem, [container, index] => Kernel.subscript mode container index
  | .setItem, [.tensor _, _, _] => .ok .none
  | .len, [v] => Kernel.length v
  | .mod, [a, b] => modulo mode a b
  | .getRank, [] => .ok (.int 0)
  | .getWorldSize, [] => .ok (.int 1)
  | .elementSize, [.elementType t] => .ok (.int (Word.signed t.bytes))
  | .mathSqrt, [v] => squareRoot v
  | .mathPow, [base, exponent] => power base exponent
  | b, args => Kernel.fail (.argumentCount b.name args.length)

/-- A builtin operator. -/
def callBuiltin (lib : Library) (b : Builtin) (args : List Value) : Kernel Value × Library :=
  match b, args with
  | .seed, [] =>
      let (word, g) := lib.generator.nextWord
      (.ok (.int (Word.signed word.toNat)), { lib with generator := g })
  | .manualSeed, [seed] =>
      match Kernel.integerOf seed with
      | .ok seed => (.ok .none, { lib with generator := .ofSeed seed.toUInt64 })
      | .error fault => (.error fault, lib)
  | b, args => (builtin lib.mode b args, lib)

/-- Runs a function or a builtin operator. -/
def callFunction (lib : Library) (target : Target) (args : List Value) (kwargs : Named Value) :
    Kernel Value × Library :=
  match target with
  | .function "rand" =>
      match Kernel.uniform lib.mode args kwargs lib.generator with
      | .ok (value, g) => (.ok value, { lib with generator := g })
      | .error fault => (.error fault, lib)
  | .function name => (function lib.mode name args kwargs, lib)
  | .builtin b => lib.callBuiltin b args
  | other => (Kernel.fail (.notCallable other.text), lib)

/-! ## Methods -/

/-- The extents or strides of a tensor, or the one along an axis. -/
def axisQuery (name : String) (this : Tensor) (numbers : List Nat) (all : Value)
    (args : List Value) : Kernel Value :=
  match args with
  | [] => .ok all
  | [axis] => do
      let axis ← Kernel.integerOf axis
      let axis ← Kernel.resolveAxis axis this.ndim
      let n ← Outcome.ofBounded numbers[axis]?
      .ok (.int (Word.signed n))
  | _ => Kernel.fail (.tooManyArguments name)

/-- A method of a tensor. -/
def method (mode : Mode) (name : String) (this : Tensor) (args : List Value)
    (kwargs : Named Value) : Kernel Value :=
  match name with
  | "item" => Kernel.item mode this
  | "size" => axisQuery name this this.size (.size this.size) args
  | "stride" =>
      axisQuery name this this.stride
        (.tuple (this.stride.map fun s => .int (Word.signed s))) args
  | "dim" | "ndimension" => .ok (.int (Word.signed this.ndim))
  | "numel" => (Outcome.ofBounded this.numel?).map fun n => .int (Word.signed n)
  | "is_floating_point" => .ok (.bool this.elementType.isFloating)
  | "is_contiguous" => .ok (.bool this.isContiguous)
  | "view" | "reshape" => Kernel.view this args
  | "t" => Kernel.transpose this
  | "contiguous" => .ok (.tensor (this.derive this.size this.storage))
  | "add" | "sub" | "mul" | "div" =>
      match args with
      | [other] => function mode name [.tensor this, other] kwargs
      | _ => Kernel.fail (.operandCount name)
  | "relu" | "neg" => function mode name [.tensor this] kwargs
  | "nonzero" => Kernel.nonzero mode (.tensor this)
  | "max" =>
      match args with
      | [axis] => Kernel.maxAlong mode (.tensor this) axis
      | _ => Kernel.refuse .maxWithoutAxis
  | "new_empty" | "new_zeros" => Kernel.zerosLike mode this args
  | "sum" => Kernel.total mode this
  | "float" => .ok (.tensor { this.derive this.size this.storage with elementType := .f32 })
  | "chunk" =>
      match args with
      | [count] => do
          let count ← Kernel.integerOf count
          Kernel.pieces mode this count
      | _ => Kernel.fail .pieceCountMissing
  | "repeat" => do
      let counts ← Kernel.shapeOf args
      Kernel.tile mode this counts
  | other => Kernel.refuse (.method other)

/-- Runs a method of a value. Only tensors have any. -/
def callMethod (lib : Library) (name : String) (receiver : Value) (args : List Value)
    (kwargs : Named Value) : Kernel Value :=
  match receiver with
  | .tensor this => method lib.mode name this args kwargs
  | other => Kernel.fail (.noAttribute other.typeName name)

end Library

end TensorCapture
