import TensorCapture.Library.Basic
import TensorCapture.Variable.Constant

set_option autoImplicit false

/-! # The position that an index denotes

A constant index is resolved twice over: by the trace, where it selects an item of an answer, and
by the library, where it selects an item, an extent or a stride. Both count negative indices from
the end and both refuse what lies outside, but the trace does so with unbounded integers and the
library with signed words. They agree for all lengths that are signed words, as in memory all are.
-/

namespace TensorCapture

namespace Word

/-- The position to which an index counts, which may lie outside. -/
def position (index : Int64) (length : Nat) : Int :=
  if index < 0 then index.toInt + length else index.toInt

/-- The index denotes a position within the bounds. -/
def InRange (index : Int64) (length : Nat) : Prop :=
  0 ≤ position index length ∧ position index length < length

instance (index : Int64) (length : Nat) : Decidable (InRange index length) :=
  inferInstanceAs (Decidable (_ ∧ _))

theorem InRange.toNat_lt {index : Int64} {length : Nat} (h : InRange index length) :
    (position index length).toNat < length := by
  obtain ⟨hnonnegative, hlt⟩ := h
  omega

/-- Nothing is within the bounds of what is empty. -/
theorem not_inRange_zero (index : Int64) : ¬InRange index 0 := by
  rintro ⟨hnonnegative, hlt⟩
  omega

end Word

open Word (position InRange)

/-- The trace finds the position within the bounds and refuses any other. -/
theorem Variable.resolveIndex_eq {v : Variable} {literal : Literal} {index : Int64}
    (hliteral : v.toLiteral = .ok literal) (hindex : literal.toInt? = some index) (length : Nat) :
    resolveIndex v length =
      if InRange index length then .ok (position index length).toNat
      else .error (.unsupported (.indexOutOfRange index.toInt length)) := by
  unfold resolveIndex
  rw [hliteral]
  simp only [bind, Except.bind, hindex]
  show (if position index length < 0 ∨ (length : Int) ≤ position index length then _ else _) = _
  by_cases hrange : InRange index length
  · have hinside : ¬(position index length < 0 ∨ (length : Int) ≤ position index length) := by
      obtain ⟨hnonnegative, hlt⟩ := hrange
      omega
    rw [if_neg hinside, if_pos hrange]
    rfl
  · have houtside : position index length < 0 ∨ (length : Int) ≤ position index length := by
      unfold InRange at hrange
      omega
    rw [if_pos houtside, if_neg hrange]

/-- A position that the trace finds is that of an integer within the bounds. -/
theorem Variable.exists_of_resolveIndex {v : Variable} {length found : Nat}
    (h : resolveIndex v length = .ok found) :
    ∃ literal index, v.toLiteral = .ok literal ∧ literal.toInt? = some index ∧
      InRange index length ∧ found = (position index length).toNat := by
  cases hliteral : v.toLiteral with
  | error e =>
      unfold resolveIndex at h
      rw [hliteral] at h
      cases h
  | ok literal =>
      cases hindex : literal.toInt? with
      | none =>
          unfold resolveIndex at h
          simp only [hliteral, hindex, bind, Except.bind] at h
          cases h
      | some index =>
          rw [resolveIndex_eq hliteral hindex] at h
          split at h
          · rename_i hrange
            cases h
            exact ⟨literal, index, rfl, hindex, hrange, rfl⟩
          · cases h

namespace Kernel

variable {index : Int64} {size rank : Nat}

theorem toInt_signed (hsize : size < Word.signedBound) : (Word.signed size).toInt = size :=
  Int64.toInt_ofNat_of_lt hsize

/-- Counting from the end never leaves the signed words. -/
theorem addSigned_length (hnegative : index < 0) (hsize : size < Word.signedBound) :
    Word.addSigned? index (Word.signed size) = some (Int64.ofInt (index.toInt + size)) ∧
      (Int64.ofInt (index.toInt + size)).toInt = index.toInt + size := by
  have hlower : -2 ^ 63 ≤ index.toInt := index.le_toInt
  have hbelow : index.toInt < 0 := Int64.lt_iff_toInt_lt.mp hnegative
  have hlength : (size : Int) < 2 ^ 63 := by
    unfold Word.signedBound at hsize
    omega
  refine ⟨?_, Int64.toInt_ofInt_of_le (by omega) (by omega)⟩
  have hleast : Int64.minValue.toInt = -2 ^ 63 := by decide
  have hgreatest : Int64.maxValue.toInt = 2 ^ 63 - 1 := by decide
  unfold Word.addSigned? Word.ofInt?
  rw [toInt_signed hsize, hleast, hgreatest]
  exact if_pos ⟨by omega, by omega⟩

/-- The library checks the position as a signed word. -/
theorem exists_word_position (index : Int64) (hsize : size < Word.signedBound) :
    ∃ word : Int64, word.toInt = position index size ∧
      resolveIndex index size =
        if word < 0 || Word.signed size ≤ word then fail (.indexOutOfBounds index.toInt size)
        else .ok word.toInt.toNat := by
  unfold position resolveIndex
  by_cases hnegative : index < 0
  · obtain ⟨hadd, hword⟩ := addSigned_length hnegative hsize
    rw [if_pos hnegative, if_pos hnegative, hadd]
    exact ⟨_, hword, rfl⟩
  · rw [if_neg hnegative, if_neg hnegative]
    exact ⟨index, rfl, rfl⟩

/-- So does the library find the position within the bounds, and refuse any other. -/
theorem resolveIndex_eq (hsize : size < Word.signedBound) :
    resolveIndex index size =
      if InRange index size then .ok (position index size).toNat
      else fail (.indexOutOfBounds index.toInt size) := by
  obtain ⟨word, hword, hresolved⟩ := exists_word_position index hsize
  have hzero : word < 0 ↔ position index size < 0 := by
    rw [Int64.lt_iff_toInt_lt, hword]
    rfl
  have hlength : Word.signed size ≤ word ↔ (size : Int) ≤ position index size := by
    rw [Int64.le_iff_toInt_le, hword, toInt_signed hsize]
  rw [hresolved]
  by_cases hrange : InRange index size
  · have hinside : ¬(word < 0 ∨ Word.signed size ≤ word) := by
      obtain ⟨hnonnegative, hlt⟩ := hrange
      rw [hzero, hlength]
      omega
    rw [if_neg (by simpa using hinside), if_pos hrange, hword]
  · have houtside : word < 0 ∨ Word.signed size ≤ word := by
      unfold InRange at hrange
      rw [hzero, hlength]
      omega
    rw [if_pos (by simpa using houtside), if_neg hrange]

/-- An axis of a tensor that has axes is a position among them. -/
theorem resolveAxis_eq (hpos : 0 < rank) (hrank : rank < Word.signedBound) :
    resolveAxis index rank =
      if InRange index rank then .ok (position index rank).toNat
      else fail (.axisOutOfRange index.toInt rank) := by
  have hmax : max rank 1 = rank := by omega
  unfold resolveAxis
  rw [hmax, resolveIndex_eq hrank]
  by_cases hrange : InRange index rank
  · rw [if_pos hrange, if_pos hrange]
  · rw [if_neg hrange, if_neg hrange]
    rfl

end Kernel

end TensorCapture
