import TensorCapture.Library.Basic
import TensorCapture.Proofs.Bounds.Moving
import TensorCapture.Proofs.Elements.Entries
import TensorCapture.Proofs.Positions.Contiguous

set_option autoImplicit false

/-! # Transposes

A transpose moves the elements of a matrix and swaps its strides, by two separate computations. The
elements end up where the swapped indices say, so a second transpose moves them back. The strides
are metadata, and a contiguous copy is one of the moved elements: it forgets the swapped strides
and keeps all else.
-/

namespace TensorCapture

/-! ## Matrices -/

theorem Shape.forall₂_lt_pair {r c : Nat} {index : List Nat} :
    List.Forall₂ (· < ·) index [r, c] ↔ ∃ i j, index = [i, j] ∧ i < r ∧ j < c := by
  constructor
  · intro h
    obtain ⟨i, rest, hi, hrest, rfl⟩ := List.forall₂_cons_right_iff.mp h
    obtain ⟨j, last, hj, hlast, rfl⟩ := List.forall₂_cons_right_iff.mp hrest
    rw [List.forall₂_nil_right_iff] at hlast
    exact ⟨i, j, by rw [hlast], hi, hj⟩
  · rintro ⟨i, j, rfl, hi, hj⟩
    exact .cons hi (.cons hj .nil)

theorem Shape.strides_pair {r : Nat} (hr : r < Word.bound) (c : Nat) : strides [c, r] = [r, 1] := by
  have hlast : saturatedSize [r] = r := by
    have hone : saturatedSize [r] = Word.mulSat 1 r := rfl
    rw [hone, mulSat_of_lt (by omega), Nat.one_mul]
  show [saturatedSize [r], 1] = [r, 1]
  rw [hlast]

theorem Shape.rowMajor_pair (r c : Nat) : RowMajor [c, r] [r, 1] := by
  intro index hindex
  obtain ⟨j, i, rfl, -, -⟩ := forall₂_lt_pair.mp hindex
  rw [rank_pair]
  simp [offset]

/-- The tensor is one that memory holds: each extent is a word, and the elements were allocated. -/
structure Tensor.InMemory (t : Tensor) : Prop where
  extents : ∀ n ∈ t.size, n < Word.bound
  elements : ∀ elements, t.storage = .dense elements → elements.size ≤ Word.allocatable

/-- A word counts the elements of a matrix in memory. -/
theorem Tensor.InMemory.count_lt {t : Tensor} {r c : Nat} (hmemory : t.InMemory)
    (h : t.WellFormed) (hsize : t.size = [r, c]) (hdense : t.isPlaceholder = false) :
    r * c < Word.bound := by
  obtain ⟨elements, helements⟩ := exists_dense hdense
  have hcount : elements.size = r * c := by
    rw [size_elements h helements, hsize]
    simp
  have hallocated := hmemory.elements elements helements
  have hword : Word.allocatable < Word.bound := by decide
  omega

/-! ## What a transpose is -/

namespace Tensor

variable {this turned : Tensor} {r c : Nat}

/-- The second matrix has the rows of the first one as its columns, and its strides in the other
order. All else is the same, but the class is the plain one. -/
structure TransposedAs (this turned : Tensor) (r c : Nat) : Prop where
  size : turned.size = [c, r]
  stride : turned.stride = this.stride.reverse
  elementType : turned.elementType = this.elementType
  device : turned.device = this.device
  requiresGrad : turned.requiresGrad = this.requiresGrad
  runtimeClass : turned.runtimeClass = .tensor
  isPlaceholder : turned.isPlaceholder = this.isPlaceholder
  wellFormed : turned.WellFormed
  entry : this.isPlaceholder = false → ∀ i < r, ∀ j < c, ∃ v,
    this.at? [i, j] = some v ∧ turned.at? [j, i] = some v

/-- Two transposes give back everything but the class. -/
theorem TransposedAs.back {again : Tensor} (h : this.WellFormed) (hsize : this.size = [r, c])
    (hturned : this.TransposedAs turned r c) (hagain : turned.TransposedAs again c r) :
    again = { this with runtimeClass := .tensor } := by
  have hsame : again.size = this.size := hagain.size.trans hsize.symm
  have hstride : again.stride = this.stride := by
    rw [hagain.stride, hturned.stride, List.reverse_reverse]
  have hstorage : again.storage = this.storage := by
    have hplaceholder := hagain.isPlaceholder.trans hturned.isPlaceholder
    cases hdense : this.isPlaceholder with
    | true =>
        rw [hdense] at hplaceholder
        exact (storage_of_isPlaceholder hplaceholder).trans (storage_of_isPlaceholder hdense).symm
    | false =>
        rw [hdense] at hplaceholder
        obtain ⟨elements, helements⟩ := exists_dense hdense
        obtain ⟨elements', helements'⟩ := exists_dense hplaceholder
        refine storage_eq_of_at?_eq hagain.wellFormed h helements' helements hsame ?_
        intro index hindex
        rw [hagain.size] at hindex
        obtain ⟨i, j, rfl, hi, hj⟩ := Shape.forall₂_lt_pair.mp hindex
        -- each element moves to the swapped indices and back
        obtain ⟨v, hv, hmoved⟩ := hturned.entry hdense i hi j hj
        obtain ⟨w, hw, hback⟩ := hagain.entry (hturned.isPlaceholder.trans hdense) j hj i hi
        rw [hmoved] at hw
        rw [hv, hback, hw]
  have hgrad := hagain.requiresGrad.trans hturned.requiresGrad
  have htype := hagain.elementType.trans hturned.elementType
  have hdevice := hagain.device.trans hturned.device
  have hclass := hagain.runtimeClass
  cases again
  simp_all

end Tensor

/-! ## The kernel -/

namespace Kernel

open Tensor

variable {this : Tensor} {r c : Nat}

/-- A matrix whose elements a word can count has a transpose. -/
theorem exists_transposedAs (h : this.WellFormed) (hsize : this.size = [r, c])
    (hcount : this.isPlaceholder = false → r * c < Word.bound) :
    ∃ turned, transpose this = .ok (.tensor turned) ∧ this.TransposedAs turned r c := by
  have hlength : this.stride.length = 2 := (wellFormed_iff.mp h).1.trans (by rw [hsize]; rfl)
  obtain ⟨outer, inner, hstride⟩ := List.length_eq_two.mp hlength
  unfold transpose
  rw [hsize]
  cases hstorage : this.storage with
  | placeholder =>
      have hplaceholder : this.isPlaceholder = true := by
        unfold isPlaceholder
        rw [hstorage]
      refine ⟨{ this.derive [c, r] .placeholder with stride := [inner, outer] }, ?_, ?_⟩
      · rw [hstride]
        rfl
      · refine ⟨rfl, by rw [hstride]; rfl, rfl, rfl, rfl, rfl, hplaceholder.symm,
          wellFormed_iff.mpr ⟨rfl, trivial⟩, fun hdense => ?_⟩
        rw [hplaceholder] at hdense
        cases hdense
  | dense a =>
      have hdense : this.isPlaceholder = false := isPlaceholder_of_dense hstorage
      have ha : a.size = r * c := by
        rw [size_elements h hstorage, hsize]
        simp
      have hmul : Word.mul? r c = some (r * c) :=
        Word.mul?_eq_some_iff.mpr ⟨rfl, hcount hdense⟩
      obtain ⟨elements, hgather, hlength', hget⟩ := exists_transposed ha
      have hfills : (Storage.dense elements).Fills [c, r] := by simpa [Storage.Fills] using hlength'
      refine ⟨{ this.derive [c, r] (.dense elements) with stride := [inner, outer] }, ?_, ?_⟩
      · rw [hstride]
        simp only [hmul, Outcome.ofBounded_some, bind, Except.bind, hgather]
        rfl
      · refine ⟨rfl, by rw [hstride]; rfl, rfl, rfl, rfl, rfl, hdense.symm,
          wellFormed_iff.mpr ⟨rfl, hfills⟩, fun _ i hi j hj => ?_⟩
        have hindex : List.Forall₂ (· < ·) [i, j] this.size :=
          hsize ▸ Shape.forall₂_lt_pair.mpr ⟨i, j, rfl, hi, hj⟩
        obtain ⟨v, hv⟩ := exists_at? h hstorage hindex
        refine ⟨v, hv, ?_⟩
        have hflat : j * r + i < r * c := Nat.mul_comm c r ▸ Shape.row_add_lt hj hi
        rw [at?_of_dense hstorage, hsize, Shape.rank_pair] at hv
        rw [at?_of_dense rfl]
        show elements[Shape.rank [c, r] [j, i]]? = some v
        rw [Shape.rank_pair, hget _ hflat, Shape.row_add_mod j hi, Shape.row_add_div j hi, hv]

end Kernel

/-! ## The library's transpose -/

/-- **A transpose swaps the axes of a matrix, and a second one swaps them back.** In either mode,
with elements or without, the result has the extents and the strides in the other order, and each
element where the swapped indices say; element type, device and gradient flag stay. Its transpose is
the matrix itself, of the plain class. A contiguous copy of it differs in the strides alone: each
row of the result follows the one before. -/
theorem transpose_swaps_axes {x : Tensor} {r c : Nat} (h : x.WellFormed) (hmemory : x.InMemory)
    (hsize : x.size = [r, c]) :
    ∀ (lib : Library) (args : List Value) (kwargs : Named Value), ∃ y,
      lib.callMethod "t" (.tensor x) args kwargs = .ok (.tensor y) ∧ x.TransposedAs y r c ∧
      ∀ (lib' : Library) (args' : List Value) (kwargs' : Named Value),
        lib'.callMethod "t" (.tensor y) args' kwargs' =
          .ok (.tensor { x with runtimeClass := .tensor }) ∧
        lib'.callMethod "contiguous" (.tensor y) args' kwargs' =
          .ok (.tensor { y with stride := [r, 1] }) ∧
        Shape.RowMajor y.size [r, 1] := by
  intro lib args kwargs
  have hcount := hmemory.count_lt h hsize
  obtain ⟨y, hy, hturned⟩ := Kernel.exists_transposedAs h hsize hcount
  refine ⟨y, hy, hturned, fun lib' args' kwargs' => ⟨?_, ?_, ?_⟩⟩
  · have hcount' : y.isPlaceholder = false → c * r < Word.bound := by
      rw [hturned.isPlaceholder, Nat.mul_comm]
      exact hcount
    obtain ⟨z, hz, hagain⟩ := Kernel.exists_transposedAs hturned.wellFormed hturned.size hcount'
    rw [← hturned.back h hsize hagain]
    exact hz
  · have hr : r < Word.bound := hmemory.extents r (by simp [hsize])
    have hcopy : y.derive y.size y.storage = { y with stride := [r, 1] } := by
      unfold Tensor.derive
      rw [hturned.size, Shape.strides_pair hr, ← hturned.runtimeClass]
    show Except.ok (Value.tensor (y.derive y.size y.storage)) = _
    rw [hcopy]
  · rw [hturned.size]
    exact Shape.rowMajor_pair r c

/-- Two rows of three, and their columns. -/
theorem transpose_swaps_axes_rows :
    (Tensor.ofElements [2, 3] #[1, 2, 3, 4, 5, 6] .f32).WellFormed ∧
      (Tensor.ofElements [2, 3] #[1, 2, 3, 4, 5, 6] .f32).InMemory ∧
      ∃ y, (Library.ofSeed 0).callMethod "t"
          (.tensor (.ofElements [2, 3] #[1, 2, 3, 4, 5, 6] .f32)) [] [] = .ok (.tensor y) ∧
        y.size = [3, 2] ∧ y.stride = [1, 3] ∧
        (Library.ofSeed 0).callMethod "t" (.tensor y) [] [] =
          .ok (.tensor (.ofElements [2, 3] #[1, 2, 3, 4, 5, 6] .f32)) := by
  have h : (Tensor.ofElements [2, 3] #[1, 2, 3, 4, 5, 6] .f32).WellFormed := ⟨rfl, rfl⟩
  have hmemory : (Tensor.ofElements [2, 3] #[1, 2, 3, 4, 5, 6] .f32).InMemory := by
    refine ⟨by decide, fun elements helements => ?_⟩
    cases helements
    decide
  obtain ⟨y, hy, hturned, hafter⟩ :=
    transpose_swaps_axes h hmemory rfl (Library.ofSeed 0) [] []
  exact ⟨h, hmemory, y, hy, hturned.size, hturned.stride, (hafter _ _ _).1⟩

end TensorCapture
