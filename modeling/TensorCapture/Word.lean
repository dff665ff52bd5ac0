set_option autoImplicit false

/-! # Machine words

Extents, strides and element counts are natural numbers that have to fit an unsigned 64-bit
word; integers of the traced program are signed 64-bit words. The operations here say what
happens at the edge: the ones that end in a question mark have no value when the exact result
does not fit, `mulSat` stays at the largest word, and `signed` reinterprets the bits.
-/

namespace TensorCapture.Word

/-- The number of unsigned 64-bit words. -/
def bound : Nat := 0x10000000000000000

/-- The number of signed 64-bit words that are not negative. -/
def signedBound : Nat := 0x8000000000000000

/-- The number of unsigned 32-bit words. -/
def halfBound : Nat := 0x100000000

/-- The largest unsigned 64-bit word. -/
def largest : Nat := bound - 1

/-- The number of eight-byte elements that one allocation can hold. -/
def allocatable : Nat := (signedBound - 1) / 8

/-- The sum, where it fits. -/
def add? (a b : Nat) : Option Nat := if a + b < bound then some (a + b) else none

/-- The product, where it fits. -/
def mul? (a b : Nat) : Option Nat := if a * b < bound then some (a * b) else none

/-- The product, or the largest word where it does not fit. -/
def mulSat (a b : Nat) : Nat := min (a * b) largest

/-- The product of a list, multiplied from the left; every partial product has to fit. -/
def product? (xs : List Nat) : Option Nat := xs.foldlM mul? 1

/-- A natural number as a signed word: from `signedBound` on, the value wraps. -/
def signed (n : Nat) : Int64 := Int64.ofNat n

/-- The signed word that holds exactly this integer. -/
def ofInt? (i : Int) : Option Int64 :=
  if Int64.minValue.toInt ≤ i ∧ i ≤ Int64.maxValue.toInt then some (Int64.ofInt i) else none

/-- The sum of two signed words, where it fits. -/
def addSigned? (a b : Int64) : Option Int64 := ofInt? (a.toInt + b.toInt)

/-- The product of two signed words, where it fits. -/
def mulSigned? (a b : Int64) : Option Int64 := ofInt? (a.toInt * b.toInt)

/-- The remainder of truncating division. It has no value for a zero divisor, nor for the
least word over `-1`, whose quotient does not fit. -/
def remSigned? (a b : Int64) : Option Int64 :=
  if b = 0 ∨ (a = Int64.minValue ∧ b = -1) then none else some (a % b)

/-- The product of a list of signed words, multiplied from the left. -/
def productSigned? (xs : List Int64) : Option Int64 := xs.foldlM mulSigned? 1

theorem mul?_eq_some_iff {a b c : Nat} : mul? a b = some c ↔ a * b = c ∧ c < bound := by
  unfold mul?
  split
  · constructor
    · rintro ⟨⟩
      exact ⟨rfl, by assumption⟩
    · rintro ⟨rfl, -⟩
      rfl
  · constructor
    · intro h
      cases h
    · rintro ⟨rfl, h⟩
      contradiction

theorem add?_eq_some_iff {a b c : Nat} : add? a b = some c ↔ a + b = c ∧ c < bound := by
  unfold add?
  split
  · constructor
    · rintro ⟨⟩
      exact ⟨rfl, by assumption⟩
    · rintro ⟨rfl, -⟩
      rfl
  · constructor
    · intro h
      cases h
    · rintro ⟨rfl, h⟩
      contradiction

@[simp] theorem product?_nil : product? [] = some 1 := rfl

end TensorCapture.Word
