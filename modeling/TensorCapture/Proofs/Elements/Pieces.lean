import Mathlib.Algebra.Order.Floor.Div
import TensorCapture.Library.Basic
import TensorCapture.Proofs.Elements.Rows

set_option autoImplicit false

/-! # Pieces along the first axis

The loop that cuts a tensor into pieces advances by a step that is rounded up, and stops at the
last row. Its cuts are the multiples of the step below the number of rows, and that number itself,
so the pieces meet end to end, none is empty, and only the last one may be shorter than the step.
There are no more pieces than were asked for, since so many steps reach the last row.
-/

namespace TensorCapture

namespace Kernel

variable {step first count n k : Nat}

/-! ## Steps -/

/-- The number of steps that are needed to reach a number is the least that do reach it. -/
theorem lt_ceilDiv_iff (hstep : 0 < step) : k < n ⌈/⌉ step ↔ k * step < n := by
  rw [← Nat.not_le, ceilDiv_le_iff_le_mul hstep, Nat.not_le, Nat.mul_comm]

/-- The first step leaves one step less to go. -/
theorem ceilDiv_eq_succ (hstep : 0 < step) (hn : 0 < n) :
    n ⌈/⌉ step = (n - step) ⌈/⌉ step + 1 := by
  -- so many steps reach a number if one step less reaches what the first one leaves
  have hnext : ∀ k, n ⌈/⌉ step ≤ k + 1 ↔ (n - step) ⌈/⌉ step ≤ k := by
    intro k
    rw [ceilDiv_le_iff_le_mul hstep, ceilDiv_le_iff_le_mul hstep, Nat.mul_succ]
    omega
  have hpositive : 0 < n ⌈/⌉ step := by
    rw [lt_ceilDiv_iff hstep]
    omega
  have hle : n ⌈/⌉ step ≤ (n - step) ⌈/⌉ step + 1 := (hnext _).mpr (Nat.le_refl _)
  have hge : (n - step) ⌈/⌉ step ≤ n ⌈/⌉ step - 1 := by
    apply (hnext _).mp
    omega
  omega

/-- So many rows to a piece, rounded up, make no more pieces than were asked for. -/
theorem ceilDiv_ceilDiv_le (hcount : 0 < count) :
    first ⌈/⌉ max (first ⌈/⌉ count) 1 ≤ count := by
  have hreach : first ≤ count * (first ⌈/⌉ count) :=
    (ceilDiv_le_iff_le_mul hcount).mp (Nat.le_refl _)
  have hlarger : count * (first ⌈/⌉ count) ≤ count * max (first ⌈/⌉ count) 1 :=
    Nat.mul_le_mul_left _ (Nat.le_max_left ..)
  rw [ceilDiv_le_iff_le_mul (by omega), Nat.mul_comm]
  omega

/-! ## The cuts -/

/-- Where the piece at a position starts, which is where the one before it stops. -/
def cutAt (step first k : Nat) : Nat := min (k * step) first

theorem monotone_cutAt (step first : Nat) : Monotone (cutAt step first) := by
  intro i j hij
  have hsteps : i * step ≤ j * step := Nat.mul_le_mul_right _ hij
  unfold cutAt
  omega

theorem cutAt_of_lt (hstep : 0 < step) (hk : k < first ⌈/⌉ step) :
    cutAt step first k = k * step := by
  have hinside : k * step < first := (lt_ceilDiv_iff hstep).mp hk
  exact Nat.min_eq_left (Nat.le_of_lt hinside)

theorem cutAt_last (hstep : 0 < step) : cutAt step first (first ⌈/⌉ step) = first := by
  have hreach : first ≤ step * (first ⌈/⌉ step) :=
    (ceilDiv_le_iff_le_mul hstep).mp (Nat.le_refl _)
  unfold cutAt
  rw [Nat.mul_comm]
  omega

/-- No piece is empty or longer than the step, and one that is not the last has its length. -/
theorem cutAt_succ_sub (hstep : 0 < step) (hk : k < first ⌈/⌉ step) :
    0 < cutAt step first (k + 1) - cutAt step first k ∧
      cutAt step first (k + 1) - cutAt step first k ≤ step ∧
      (k + 1 < first ⌈/⌉ step → cutAt step first (k + 1) - cutAt step first k = step) := by
  have hinside : k * step < first := (lt_ceilDiv_iff hstep).mp hk
  have hnext : (k + 1) * step = k * step + step := Nat.succ_mul k step
  refine ⟨?_, ?_, ?_⟩
  · unfold cutAt
    omega
  · unfold cutAt
    omega
  · intro hmore
    have hinside' : (k + 1) * step < first := (lt_ceilDiv_iff hstep).mp hmore
    unfold cutAt
    omega

/-- The lengths of the pieces add up to where the last one stops. -/
theorem sum_cutAt (step first n : Nat) :
    ((List.range n).map fun k => cutAt step first (k + 1) - cutAt step first k).sum =
      cutAt step first n := by
  induction n with
  | zero => simp [cutAt]
  | succ n ih =>
      have hmonotone : cutAt step first n ≤ cutAt step first (n + 1) :=
        monotone_cutAt step first (Nat.le_succ n)
      rw [List.range_succ, List.map_append, List.sum_append, ih, List.map_singleton,
        List.sum_singleton]
      omega

/-- From a multiple of the step on, the loop makes the cuts that follow. -/
theorem ranges_eq (hstep : 0 < step) (hfits : first + step ≤ Word.bound) (start : Nat) :
    ranges step first start = .ok ((List.range ((first - start) ⌈/⌉ step)).map fun k =>
      (start + k * step, min (start + (k + 1) * step) first)) := by
  induction start using ranges.induct step first with
  | case1 start hinside ih =>
      obtain ⟨hstart, -⟩ := hinside
      have hadd : Word.add? start step = some (start + step) := if_pos (by omega)
      have hsteps : (first - start) ⌈/⌉ step =
          (first - min (start + step) first) ⌈/⌉ step + 1 := by
        rw [ceilDiv_eq_succ hstep (by omega)]
        congr 2
        omega
      have hfirst : (start, min (start + step) first) =
          (start + 0 * step, min (start + (0 + 1) * step) first) := by simp
      have hothers : (List.range ((first - min (start + step) first) ⌈/⌉ step)).map (fun k =>
            (min (start + step) first + k * step,
              min (min (start + step) first + (k + 1) * step) first)) =
          (List.range ((first - min (start + step) first) ⌈/⌉ step)).map (fun k =>
            (start + (k + 1) * step, min (start + (k + 1 + 1) * step) first)) := by
        refine List.map_congr_left fun k hk => ?_
        -- a piece behind this one is left only where this one is not cut short
        have hmore := (lt_ceilDiv_iff hstep).mp (List.mem_range.mp hk)
        have hwhole : min (start + step) first = start + step := by omega
        have hnext : start + step + k * step = start + (k + 1) * step := by ring
        have hnext' : start + step + (k + 1) * step = start + (k + 1 + 1) * step := by ring
        rw [hwhole, hnext, hnext']
      rw [ranges, dif_pos ⟨hstart, hstep⟩, hadd, hsteps, List.range_succ_eq_map, List.map_cons,
        List.map_map, ← hfirst]
      show (ranges step first (min (start + step) first) >>= _) = _
      rw [ih, hothers]
      rfl
  | case2 start houtside =>
      have hnone : first - start = 0 := by omega
      rw [ranges, dif_neg houtside, hnone, zero_ceilDiv]
      rfl

/-- The loop makes all cuts. -/
theorem ranges_zero_eq (hstep : 0 < step) (hfits : first + step ≤ Word.bound) :
    ranges step first 0 = .ok ((List.range (first ⌈/⌉ step)).map fun k =>
      (cutAt step first k, cutAt step first (k + 1))) := by
  rw [ranges_eq hstep hfits 0, Nat.sub_zero]
  congr 1
  refine List.map_congr_left fun k hk => ?_
  rw [cutAt_of_lt hstep (List.mem_range.mp hk), Nat.zero_add, Nat.zero_add]
  rfl

/-! ## The pieces -/

variable {mode : Mode} {this : Tensor} {rest : List Nat} {asked : Int64}

/-- The number of rows in all pieces but the last. -/
def rowsPerPiece (first : Nat) (asked : Int64) : Nat := max (first ⌈/⌉ asked.toInt.toNat) 1

theorem rowsPerPiece_pos (first : Nat) (asked : Int64) : 0 < rowsPerPiece first asked := by
  unfold rowsPerPiece
  omega

/-- A tensor with rows is cut by the quotient itself. -/
theorem rowsPerPiece_of_pos (hfirst : 0 < first) (hasked : 0 < asked) :
    rowsPerPiece first asked = first ⌈/⌉ asked.toInt.toNat := by
  have hcount : 0 < asked.toInt := Int64.lt_iff_toInt_lt.mp hasked
  have hquotient : 0 < first ⌈/⌉ asked.toInt.toNat := by
    rw [lt_ceilDiv_iff (by omega)]
    omega
  unfold rowsPerPiece
  omega

/-- The loop stays within words: no piece is longer than the tensor, unless that is empty. -/
theorem add_rowsPerPiece_le (hfirst : first < Word.signedBound) (hasked : 0 < asked) :
    first + rowsPerPiece first asked ≤ Word.bound := by
  have hcount : 0 < asked.toInt := Int64.lt_iff_toInt_lt.mp hasked
  have hshorter : first ⌈/⌉ asked.toInt.toNat ≤ first := by
    rw [ceilDiv_le_iff_le_mul (by omega)]
    exact Nat.le_mul_of_pos_left first (by omega)
  unfold rowsPerPiece Word.bound
  unfold Word.signedBound at hfirst
  omega

/-- The piece at a position. -/
def pieceAt (mode : Mode) (this : Tensor) (step first k : Nat) : Tensor :=
  this.cut mode (cutAt step first k) (cutAt step first (k + 1))

theorem size_pieceAt (hsize : this.size = first :: rest) (step k : Nat) :
    (pieceAt mode this step first k).size =
      (cutAt step first (k + 1) - cutAt step first k) :: rest := by
  unfold pieceAt Tensor.cut
  rw [hsize]
  rfl

theorem wellFormed_pieceAt (h : this.WellFormed) (hsize : this.size = first :: rest)
    (step k : Nat) : (pieceAt mode this step first k).WellFormed :=
  Tensor.wellFormed_cut h hsize (Nat.min_le_right _ _)

/-- A row of a piece is that many rows behind the steps that lead there. -/
theorem row_pieceAt (hstep : 0 < step) (hk : k < first ⌈/⌉ step) {r : Nat}
    (hr : r < cutAt step first (k + 1) - cutAt step first k) :
    (pieceAt mode this step first k).row mode r = this.row mode (k * step + r) := by
  rw [← cutAt_of_lt hstep hk]
  apply Tensor.row_cut
  omega

/-- Cutting rows out of a tensor reads them all. -/
theorem readCut_eq (h : this.WellFormed) (hsize : this.size = first :: rest) {start stop : Nat}
    (hle : start ≤ stop) (hstop : stop ≤ first) :
    (rows mode this (Shape.volume rest) start stop >>= fun storage =>
      .ok (.tensor (this.derive ((stop - start) :: rest) storage)) : Kernel Value) =
      .ok (.tensor (this.cut mode start stop)) := by
  have htail : this.size.tail = rest := by
    rw [hsize]
    rfl
  rw [rows_eq h hsize hle hstop]
  unfold Tensor.cut
  rw [htail]
  rfl

/-- Where the size of a row can be formed, the answer is the tuple of all pieces. -/
theorem pieces_eq (h : this.WellFormed) (hsize : this.size = first :: rest)
    (hfirst : first < Word.signedBound) {row : Nat} (hrow : Word.product? rest = some row)
    (hasked : 0 < asked) :
    pieces mode this asked = .ok (.tuple ((List.range (first ⌈/⌉ rowsPerPiece first asked)).map
      fun k => .tensor (pieceAt mode this (rowsPerPiece first asked) first k))) := by
  have hread : pieces mode this asked = (do
      let row ← Outcome.ofBounded (Word.product? rest)
      let parts ← ranges (rowsPerPiece first asked) first 0
      let parts ← parts.mapM fun part => do
        let storage ← rows mode this row part.1 part.2
        .ok (Value.tensor (this.derive ((part.2 - part.1) :: rest) storage))
      .ok (.tuple parts)) := by
    unfold pieces
    simp only [hsize]
    rw [if_neg (Int64.not_le.mpr hasked)]
    rfl
  have hparts : ((List.range (first ⌈/⌉ rowsPerPiece first asked)).map fun k =>
        (cutAt (rowsPerPiece first asked) first k,
          cutAt (rowsPerPiece first asked) first (k + 1))).mapM (fun part => do
        let storage ← rows mode this (Shape.volume rest) part.1 part.2
        .ok (Value.tensor (this.derive ((part.2 - part.1) :: rest) storage))) =
      .ok (((List.range (first ⌈/⌉ rowsPerPiece first asked)).map fun k =>
        (cutAt (rowsPerPiece first asked) first k,
          cutAt (rowsPerPiece first asked) first (k + 1))).map fun part =>
        Value.tensor (this.cut mode part.1 part.2)) := by
    refine mapM_eq_ok fun part hpart => ?_
    obtain ⟨k, -, rfl⟩ := List.mem_map.mp hpart
    exact readCut_eq h hsize (monotone_cutAt _ _ (Nat.le_succ k)) (Nat.min_le_right _ _)
  rw [hread, hrow, Word.eq_volume_of_product? hrow]
  show (ranges (rowsPerPiece first asked) first 0 >>= _ : Kernel Value) = _
  rw [ranges_zero_eq (rowsPerPiece_pos first asked) (add_rowsPerPiece_le hfirst hasked)]
  show (List.mapM _ _ >>= _ : Kernel Value) = _
  rw [hparts, List.map_map]
  rfl

/-- Where the size of a row cannot be formed, the run ends. -/
theorem pieces_eq_abort (hsize : this.size = first :: rest) (hrow : Word.product? rest = none)
    (hasked : 0 < asked) : pieces mode this asked = .error .abort := by
  unfold pieces
  simp only [hsize]
  rw [if_neg (Int64.not_le.mpr hasked), hrow]
  rfl

end Kernel

end TensorCapture
