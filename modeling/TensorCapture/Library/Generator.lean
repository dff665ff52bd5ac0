import TensorCapture.Library.Keystream

set_option autoImplicit false

/-! # The generator of random numbers

A generator is a seed and a position in the key stream that the seed determines. Drawing a word
moves the position and nothing else, so the state after any number of draws is known without
drawing.
-/

namespace TensorCapture

/-- The state of a generator. -/
structure Generator where
  seed : UInt64
  /-- The number of 32-bit words drawn so far. -/
  position : Nat
  deriving DecidableEq, Repr

namespace Generator

/-- The generator of a seed before the first draw. -/
def ofSeed (seed : UInt64) : Generator := ⟨seed, 0⟩

/-- The 64-bit word at a position, the lower half first. -/
def wideAt (seed : UInt64) (position : Nat) : UInt64 :=
  (Keystream.wordAt seed (position + 1)).toUInt64 <<< 32 |||
    (Keystream.wordAt seed position).toUInt64

/-- The generator after some draws of 32-bit words. -/
def skip (g : Generator) (words : Nat) : Generator := { g with position := g.position + words }

/-- Draws one 32-bit word. -/
def nextWord (g : Generator) : UInt32 × Generator :=
  (Keystream.wordAt g.seed g.position, g.skip 1)

/-- Draws several 64-bit words. -/
def nextWides (count : Nat) (g : Generator) : List UInt64 × Generator :=
  ((List.range count).map fun i => wideAt g.seed (g.position + 2 * i), g.skip (2 * count))

/-- The double in `[0, 1)` that the upper 53 bits of a word denote. -/
def unit (wide : UInt64) : Float := (wide >>> 11).toFloat / 9007199254740992.0

/-- Draws a double in `[0, 1)`. -/
def nextUnit (g : Generator) : Float × Generator :=
  (unit (wideAt g.seed g.position), g.skip 2)

/-- Draws several doubles in `[0, 1)`. -/
def nextUnits (count : Nat) (g : Generator) : List Float × Generator :=
  let (wides, g) := g.nextWides count
  (wides.map unit, g)

@[simp] theorem seed_skip (g : Generator) (n : Nat) : (g.skip n).seed = g.seed := rfl

@[simp] theorem position_skip (g : Generator) (n : Nat) :
    (g.skip n).position = g.position + n := rfl

theorem skip_skip (g : Generator) (m n : Nat) : (g.skip m).skip n = g.skip (m + n) := by
  simp [skip, Nat.add_assoc]

@[simp] theorem seed_nextUnits (n : Nat) (g : Generator) : (nextUnits n g).2.seed = g.seed := rfl

theorem position_nextUnits (n : Nat) (g : Generator) :
    (nextUnits n g).2.position = g.position + 2 * n := rfl

theorem length_nextUnits (n : Nat) (g : Generator) : (nextUnits n g).1.length = n := by
  simp [nextUnits, nextWides]

/-- Drawing one double and then several is drawing one more at once. -/
theorem nextUnits_succ (n : Nat) (g : Generator) :
    nextUnits (n + 1) g =
      (g.nextUnit.1 :: (nextUnits n g.nextUnit.2).1, (nextUnits n g.nextUnit.2).2) := by
  have shift : ∀ i, g.position + 2 * (i + 1) = g.position + 2 + 2 * i := fun i => by omega
  simp only [nextUnits, nextWides, nextUnit, skip, List.range_succ_eq_map, List.map_cons,
    List.map_map, Nat.mul_zero, Nat.add_zero, Prod.mk.injEq, List.cons.injEq, true_and]
  constructor
  · apply List.map_congr_left
    intro i _
    simp [shift]
  · simp [shift]

end Generator

end TensorCapture
