import Mathlib.Data.Set.Function
import TensorCapture.Proofs.Positions.Volume

set_option autoImplicit false

/-! # Multi-indices and positions

The positions of a shape are numerals in a mixed radix: a multi-index has one digit for each axis,
and its rank is the number that the digits stand for. Within the bounds of a shape ranks and
multi-indices are in bijection, and unravelling a position gives back the multi-index. In memory an
index is found at its offset, which weighs each digit by a stride instead.
-/

namespace TensorCapture.Shape

variable {shape stride index : List Nat} {position : Nat}

@[simp] theorem rank_cons (n i : Nat) (shape index : List Nat) :
    rank (n :: shape) (i :: index) = i * volume shape + rank shape index := rfl

/-- In a shape of two parts, a row of the second one stands for each position of the first one. -/
theorem rank_append {outer before : List Nat} (h : before.length = outer.length)
    (inner after : List Nat) :
    rank (outer ++ inner) (before ++ after) =
      rank outer before * volume inner + rank inner after := by
  induction outer generalizing before with
  | nil =>
      rw [List.length_eq_zero_iff.mp h]
      simp [rank]
  | cons n outer ih =>
      cases before with
      | nil => cases h
      | cons i before =>
          rw [List.cons_append, List.cons_append, rank_cons, rank_cons, volume_append,
            ih (Nat.succ.inj h)]
          ring

/-- The rank of an index whose component along one axis is split off. -/
theorem rank_around {before : List Nat} {axis extent : Nat} (h : shape[axis]? = some extent)
    (hbefore : before.length = axis) (l : Nat) (after : List Nat) :
    rank shape (before ++ l :: after) =
      (rank (shape.take axis) before * extent + l) * volume (shape.drop (axis + 1)) +
        rank (shape.drop (axis + 1)) after := by
  have hlt : axis < shape.length := (List.getElem?_eq_some_iff.mp h).1
  have hlength : before.length = (shape.take axis).length := by
    rw [hbefore, List.length_take, Nat.min_eq_left hlt.le]
  calc rank shape (before ++ l :: after)
      = rank (shape.take axis ++ extent :: shape.drop (axis + 1)) (before ++ l :: after) := by
        rw [← eq_around h]
    _ = _ := by
        rw [rank_append hlength, rank_cons, volume_cons]
        ring

theorem rank_pair (r c i j : Nat) : rank [r, c] [i, j] = i * c + j := by simp [rank]

/-! ## Unravelling -/

/-- What is left of a position above the axes of a shape. -/
theorem above_unravelFrom (shape : List Nat) (position : Nat) :
    (unravelFrom shape position).1 = position / volume shape := by
  induction shape with
  | nil => simp [unravelFrom]
  | cons n rest ih =>
      calc (unravelFrom (n :: rest) position).1 = (unravelFrom rest position).1 / n := rfl
        _ = position / volume rest / n := by rw [ih]
        _ = position / (n * volume rest) := by rw [Nat.div_div_eq_div_mul, Nat.mul_comm]

theorem unravel_cons (n : Nat) (rest : List Nat) (position : Nat) :
    unravel (n :: rest) position = position / volume rest % n :: unravel rest position := by
  rw [← above_unravelFrom]
  rfl

/-- Any number is unravelled to the multi-index of its remainder. -/
theorem rank_unravel_eq_mod (shape : List Nat) (position : Nat) :
    rank shape (unravel shape position) = position % volume shape := by
  induction shape with
  | nil => simp [rank, Nat.mod_one]
  | cons n rest ih =>
      -- the first digit weighs the volume of the axes behind it
      rw [unravel_cons, rank_cons, ih, volume_cons, Nat.mul_comm n, Nat.mod_mul]
      ring

theorem rank_unravel (h : position < volume shape) :
    rank shape (unravel shape position) = position := by
  rw [rank_unravel_eq_mod, Nat.mod_eq_of_lt h]

/-- Where there are positions, every number is unravelled to a multi-index within the bounds. -/
theorem unravel_lt (hpos : ∀ n ∈ shape, 0 < n) (position : Nat) :
    List.Forall₂ (· < ·) (unravel shape position) shape := by
  induction shape with
  | nil => exact .nil
  | cons n rest ih =>
      rw [unravel_cons]
      have hrest := ih fun m hm => hpos m (List.mem_cons_of_mem n hm)
      exact .cons (Nat.mod_lt _ (hpos n (List.mem_cons_self ..))) hrest

/-! ## Ranks -/

/-- Two positions in rows of the same length are equal if their rows and columns are. -/
theorem row_add_inj {i j r s n : Nat} (hr : r < n) (hs : s < n) (h : i * n + r = j * n + s) :
    i = j ∧ r = s := by
  have hrow : i = j := by
    calc i = (i * n + r) / n := (row_add_div i hr).symm
      _ = (j * n + s) / n := by rw [h]
      _ = j := row_add_div j hs
  subst hrow
  exact ⟨rfl, by omega⟩

/-- Multi-indices within the bounds have different ranks. -/
theorem rank_inj {other : List Nat} (hindex : List.Forall₂ (· < ·) index shape)
    (hother : List.Forall₂ (· < ·) other shape) (h : rank shape index = rank shape other) :
    index = other := by
  induction hindex generalizing other with
  | nil =>
      cases hother
      rfl
  | cons hi hrest ih =>
      cases hother with
      | cons hj hother =>
          rw [rank_cons, rank_cons] at h
          obtain ⟨rfl, htail⟩ := row_add_inj (rank_lt_volume hrest) (rank_lt_volume hother) h
          rw [ih hother htail]

/-- Within the bounds, ranks are in the lexicographic order of the multi-indices. -/
theorem lt_of_rank_lt {other : List Nat} (hindex : List.Forall₂ (· < ·) index shape)
    (hother : List.Forall₂ (· < ·) other shape) (h : rank shape index < rank shape other) :
    index < other := by
  induction hindex generalizing other with
  | nil =>
      cases hother
      exact absurd h (Nat.lt_irrefl _)
  | @cons i n index shape hi hrest ih =>
      cases hother with
      | @cons j _ other _ hj hother =>
          rw [rank_cons, rank_cons] at h
          have hsmall := rank_lt_volume hrest
          have hsmall' := rank_lt_volume hother
          rw [List.cons_lt_cons_iff]
          rcases Nat.lt_trichotomy i j with hlt | rfl | hgt
          · exact .inl hlt
          · exact .inr ⟨rfl, ih hother (by omega)⟩
          · -- a later row begins behind every position of an earlier one
            have hrow : (j + 1) * volume shape ≤ i * volume shape := Nat.mul_le_mul_right _ hgt
            rw [Nat.add_mul, Nat.one_mul] at hrow
            omega

theorem pos_of_forall₂_lt (h : List.Forall₂ (· < ·) index shape) : ∀ n ∈ shape, 0 < n := by
  induction h with
  | nil => simp
  | cons hi _ ih => exact List.forall_mem_cons.mpr ⟨Nat.zero_lt_of_lt hi, ih⟩

theorem unravel_rank (h : List.Forall₂ (· < ·) index shape) :
    unravel shape (rank shape index) = index :=
  rank_inj (unravel_lt (pos_of_forall₂_lt h) _) h (rank_unravel (rank_lt_volume h))

/-- The ranks of the multi-indices within the bounds are the positions, each once. -/
theorem bijOn_rank (shape : List Nat) :
    Set.BijOn (rank shape) {index | List.Forall₂ (· < ·) index shape} (Set.Iio (volume shape)) := by
  refine ⟨fun index h => rank_lt_volume h, fun i hi j hj h => rank_inj hi hj h, ?_⟩
  intro position hposition
  have hpos : ∀ n ∈ shape, 0 < n := volume_pos_iff.mp (Nat.zero_lt_of_lt hposition)
  exact ⟨unravel shape position, unravel_lt hpos position, rank_unravel hposition⟩

end TensorCapture.Shape
