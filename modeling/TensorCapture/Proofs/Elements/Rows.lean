import TensorCapture.Proofs.Bounds.Moving

set_option autoImplicit false

/-! # Rows of a tensor

Along its first axis a tensor is a sequence of rows. A subscript gives one row, and a cut gives
several of them as a tensor of the same rank. Both are slices of the elements, so rows of a cut are
rows of the tensor, and slices that meet end to end hold the elements once each. Without elements
all of this is true of the shapes.
-/

namespace TensorCapture

/-! ## Slices -/

namespace Storage

/-- The elements from one position up to another. -/
def slice (storage : Storage) (start stop : Nat) : Storage :=
  match storage with
  | .dense elements => .dense (elements.extract start stop)
  | .placeholder => .placeholder

/-- The elements in order. A placeholder has none. -/
def values (storage : Storage) : List Float :=
  match storage with
  | .dense elements => elements.toList
  | .placeholder => []

variable {storage : Storage} {i j k : Nat}

theorem slice_slice (storage : Storage) (i j k l : Nat) :
    (storage.slice i j).slice k l = storage.slice (i + k) (min (i + l) j) := by
  cases storage with
  | dense elements => exact congrArg dense Array.extract_extract
  | placeholder => rfl

theorem values_slice_self (storage : Storage) (i : Nat) : (storage.slice i i).values = [] := by
  cases storage with
  | dense elements => simp [slice, values]
  | placeholder => rfl

/-- Slices that meet make one slice. -/
theorem values_slice_append (storage : Storage) (hij : i ≤ j) (hjk : j ≤ k) :
    (storage.slice i j).values ++ (storage.slice j k).values = (storage.slice i k).values := by
  cases storage with
  | dense elements =>
      have hmeet : elements.extract i j ++ elements.extract j k = elements.extract i k := by
        rw [Array.extract_append_extract, Nat.min_eq_left hij, Nat.max_eq_right hjk]
      show (elements.extract i j).toList ++ (elements.extract j k).toList =
        (elements.extract i k).toList
      rw [← hmeet, Array.toList_append]
  | placeholder => rfl

/-- Slices between successive cuts make the slice from the first cut to the last one. -/
theorem flatMap_slice (storage : Storage) {cut : Nat → Nat} (hcut : Monotone cut) (n : Nat) :
    (List.range n).flatMap (fun k => (storage.slice (cut k) (cut (k + 1))).values) =
      (storage.slice (cut 0) (cut n)).values := by
  induction n with
  | zero => exact (values_slice_self storage (cut 0)).symm
  | succ n ih =>
      have hfirst : cut 0 ≤ cut n := hcut (Nat.zero_le n)
      have hlast : cut n ≤ cut (n + 1) := hcut (Nat.le_succ n)
      rw [List.range_succ, List.flatMap_append, ih, List.flatMap_singleton]
      exact values_slice_append storage hfirst hlast

/-- A slice of whole rows fills the shape of so many rows. -/
theorem Fills.slice {first start stop : Nat} {rest : List Nat}
    (h : storage.Fills (first :: rest)) (hstop : stop ≤ first) :
    (storage.slice (start * Shape.volume rest) (stop * Shape.volume rest)).Fills
      ((stop - start) :: rest) := by
  cases storage with
  | dense elements =>
      have hsize : elements.size = first * Shape.volume rest := h
      have hrows : stop * Shape.volume rest ≤ elements.size := by
        rw [hsize]
        exact Nat.mul_le_mul_right _ hstop
      show (elements.extract _ _).size = (stop - start) * Shape.volume rest
      rw [Array.size_extract, Nat.min_eq_left hrows, Nat.sub_mul]
  | placeholder => trivial

/-- The slice of all positions is everything. -/
theorem Fills.slice_all {size : List Nat} (h : storage.Fills size) :
    storage.slice 0 (Shape.volume size) = storage := by
  cases storage with
  | dense elements =>
      have hsize : elements.size = Shape.volume size := h
      show dense (elements.extract 0 (Shape.volume size)) = dense elements
      rw [← hsize, Array.extract_size]
  | placeholder => rfl

end Storage

/-! ## Rows and cuts -/

namespace Tensor

/-- The elements as a kernel reads them. -/
def read (mode : Mode) (this : Tensor) : Storage :=
  match mode with
  | .eager => this.storage
  | .placeholder => .placeholder

/-- The elements of the rows from one up to another. -/
def readRows (mode : Mode) (this : Tensor) (start stop : Nat) : Storage :=
  (this.read mode).slice (start * Shape.volume this.size.tail) (stop * Shape.volume this.size.tail)

/-- The row at a position. -/
def row (mode : Mode) (this : Tensor) (position : Nat) : Tensor :=
  this.derive this.size.tail (this.readRows mode position (position + 1))

/-- The rows from one up to another, as a tensor of the same rank. -/
def cut (mode : Mode) (this : Tensor) (start stop : Nat) : Tensor :=
  this.derive ((stop - start) :: this.size.tail) (this.readRows mode start stop)

variable {mode : Mode} {this : Tensor} {first start stop position : Nat} {rest : List Nat}

theorem fills_read (h : this.WellFormed) (mode : Mode) : (this.read mode).Fills this.size := by
  cases mode with
  | eager => exact (wellFormed_iff.mp h).2
  | placeholder => trivial

theorem wellFormed_cut (h : this.WellFormed) (hsize : this.size = first :: rest)
    (hstop : stop ≤ first) : (this.cut mode start stop).WellFormed := by
  have hfills := fills_read h mode
  refine wellFormed_derive this ?_
  unfold readRows
  rw [hsize] at hfills ⊢
  exact hfills.slice hstop

/-- A cut of rows is read in the mode in which it was made. -/
theorem read_cut (mode : Mode) (this : Tensor) (start stop : Nat) :
    (this.cut mode start stop).read mode = this.readRows mode start stop := by
  cases mode with
  | eager => rfl
  | placeholder => rfl

/-- A row of a cut is a row of the tensor. -/
theorem row_cut {offset : Nat} (h : start + offset < stop) :
    (this.cut mode start stop).row mode offset = this.row mode (start + offset) := by
  have hslice : (this.cut mode start stop).readRows mode offset (offset + 1) =
      this.readRows mode (start + offset) (start + offset + 1) := by
    -- the row ends within the cut, which does not shorten it
    have hend : (start + offset + 1) * Shape.volume this.size.tail ≤
        stop * Shape.volume this.size.tail := Nat.mul_le_mul_right _ h
    have hlast : start * Shape.volume this.size.tail + (offset + 1) * Shape.volume this.size.tail =
        (start + offset + 1) * Shape.volume this.size.tail := by ring
    unfold readRows
    rw [read_cut]
    show ((this.read mode).slice _ _).slice (offset * Shape.volume this.size.tail)
      ((offset + 1) * Shape.volume this.size.tail) = _
    rw [Storage.slice_slice, hlast, Nat.min_eq_left hend, ← Nat.add_mul]
  unfold row
  rw [hslice]
  rfl

/-- Cuts between successive rows hold the elements of all rows, once each. -/
theorem flatMap_readRows {cuts : Nat → Nat} (hcuts : Monotone cuts) (n : Nat) :
    (List.range n).flatMap (fun k => (this.readRows mode (cuts k) (cuts (k + 1))).values) =
      (this.readRows mode (cuts 0) (cuts n)).values := by
  have hmonotone : Monotone fun k => cuts k * Shape.volume this.size.tail := by
    intro i j hij
    exact Nat.mul_le_mul_right _ (hcuts hij)
  exact (this.read mode).flatMap_slice hmonotone n

theorem readRows_all (h : this.WellFormed) (hsize : this.size = first :: rest) :
    this.readRows mode 0 first = this.read mode := by
  have hfills := fills_read h mode
  have hvolume : first * Shape.volume this.size.tail = Shape.volume this.size := by
    rw [hsize]
    rfl
  unfold readRows
  rw [Nat.zero_mul, hvolume]
  exact hfills.slice_all

/-- The rows hold the elements once each. -/
theorem flatMap_rows (h : this.WellFormed) (hsize : this.size = first :: rest) :
    (List.range first).flatMap (fun k => (this.row mode k).storage.values) =
      (this.read mode).values := by
  have hrows : (List.range first).flatMap (fun k => (this.readRows mode k (k + 1)).values) =
      (this.readRows mode 0 first).values := flatMap_readRows monotone_id first
  calc (List.range first).flatMap (fun k => (this.row mode k).storage.values)
      = (this.readRows mode 0 first).values := hrows
    _ = (this.read mode).values := by rw [readRows_all h hsize]

end Tensor

/-! ## Reading rows -/

namespace Word

variable {index : Int64} {length : Nat}

theorem inRange_iff :
    InRange index length ↔ -(length : Int) ≤ index.toInt ∧ index.toInt < length := by
  have hnegative : index < 0 ↔ index.toInt < 0 := Int64.lt_iff_toInt_lt
  unfold InRange position
  by_cases h : index < 0
  · rw [if_pos h]
    rw [hnegative] at h
    omega
  · rw [if_neg h]
    rw [hnegative] at h
    omega

/-- An index within the bounds denotes its remainder by the length. -/
theorem position_eq_emod (h : InRange index length) :
    position index length = index.toInt % length := by
  have hnegative : index < 0 ↔ index.toInt < 0 := Int64.lt_iff_toInt_lt
  have hbounds := inRange_iff.mp h
  unfold position
  by_cases hindex : index < 0
  · rw [if_pos hindex]
    rw [hnegative] at hindex
    rw [← Int.add_emod_right, Int.emod_eq_of_lt (by omega) (by omega)]
  · rw [if_neg hindex]
    rw [hnegative] at hindex
    rw [Int.emod_eq_of_lt (by omega) (by omega)]

/-- A position within the bounds denotes itself. -/
theorem position_signed {k : Nat} (hk : k < length) (hlength : length < signedBound) :
    InRange (signed k) length ∧ (position (signed k) length).toNat = k := by
  have hvalue : (signed k).toInt = k := Kernel.toInt_signed (by omega)
  have hrange : InRange (signed k) length := by
    rw [inRange_iff, hvalue]
    omega
  have hposition : position (signed k) length = k := by
    rw [position_eq_emod hrange, hvalue, Int.emod_eq_of_lt (by omega) (by omega)]
  exact ⟨hrange, by rw [hposition, Int.toNat_natCast]⟩

end Word

open Word (position InRange)

namespace Kernel

variable {mode : Mode} {this : Tensor} {first start stop : Nat} {rest : List Nat}

/-- The rows of a tensor that are inside of it are read. -/
theorem rows_eq (h : this.WellFormed) (hsize : this.size = first :: rest) (hle : start ≤ stop)
    (hstop : stop ≤ first) :
    rows mode this (Shape.volume rest) start stop = .ok (this.readRows mode start stop) := by
  unfold rows Tensor.readRows
  rw [hsize]
  cases mode with
  | placeholder => rfl
  | eager =>
      cases hstorage : this.storage with
      | placeholder =>
          -- a kernel that computes elements finds none here
          have herased : Mode.eager.erases [this] = true := by
            simp [Mode.erases, Tensor.isPlaceholder, hstorage]
          have hread : this.read .eager = .placeholder := hstorage
          rw [herased, hread]
          rfl
      | dense elements =>
          have hdense : Mode.eager.erases [this] = false := by
            simp [Mode.erases, Tensor.isPlaceholder, hstorage]
          have hfills : elements.size = Shape.volume this.size := by
            have hfills := (Tensor.wellFormed_iff.mp h).2
            rwa [hstorage] at hfills
          have hinside : start * Shape.volume rest ≤ stop * Shape.volume rest ∧
              stop * Shape.volume rest ≤ elements.size := by
            rw [hfills, hsize, Shape.volume_cons]
            exact ⟨Nat.mul_le_mul_right _ hle, Nat.mul_le_mul_right _ hstop⟩
          have hread : this.read .eager = .dense elements := hstorage
          rw [hdense, hread]
          unfold storageUnless slice?
          rw [elementsOf_eq_ok hstorage]
          show (Except.map Storage.dense (Outcome.ofBounded (if _ then _ else _))) = _
          rw [if_pos hinside]
          rfl

/-- A row inside of the tensor is read. Its size is formed for tensors with elements only. -/
theorem readRow_eq {position : Nat} (h : this.WellFormed) (hsize : this.size = first :: rest)
    (hrow : mode.erases [this] = false → ∃ row, Word.product? rest = some row)
    (hposition : position < first) :
    (if mode.erases [this] then .ok (.tensor (this.derive rest .placeholder))
      else Outcome.ofBounded (Word.product? rest) >>= fun row =>
        rows mode this row position (position + 1) >>= fun storage =>
          .ok (.tensor (this.derive rest storage)) : Kernel Value) =
      .ok (.tensor (this.row mode position)) := by
  have hrows : rows mode this (Shape.volume rest) position (position + 1) =
      .ok (this.readRows mode position (position + 1)) :=
    rows_eq h hsize (Nat.le_succ position) hposition
  have htail : this.size.tail = rest := by
    rw [hsize]
    rfl
  unfold Tensor.row
  rw [htail]
  by_cases herased : mode.erases [this] = true
  · have hplaceholder : rows mode this (Shape.volume rest) position (position + 1) =
        .ok .placeholder := if_pos herased
    rw [hplaceholder] at hrows
    rw [if_pos herased, Except.ok.inj hrows]
  · obtain ⟨row, hproduct⟩ := hrow (Bool.eq_false_iff.mpr herased)
    rw [if_neg herased, hproduct, Word.eq_volume_of_product? hproduct]
    show rows mode this (Shape.volume rest) position (position + 1) >>= _ = _
    rw [hrows]
    rfl

/-- A subscript of a tensor with axes reads the row at the position to which the index is
resolved. -/
theorem subscript_tensor (mode : Mode) (hsize : this.size = first :: rest) (index : Int64) :
    subscript mode (.tensor this) (.int index) =
      resolveIndex index first >>= fun position =>
        if mode.erases [this] then .ok (.tensor (this.derive rest .placeholder))
        else Outcome.ofBounded (Word.product? rest) >>= fun row =>
          rows mode this row position (position + 1) >>= fun storage =>
            .ok (.tensor (this.derive rest storage)) := by
  unfold subscript
  simp only [hsize]
  rfl

/-- A subscript within the bounds gives the row at the position that it denotes, and any other is
reported. -/
theorem subscript_tensor_eq (h : this.WellFormed) (hsize : this.size = first :: rest)
    (hfirst : first < Word.signedBound)
    (hrow : mode.erases [this] = false → ∃ row, Word.product? rest = some row) (index : Int64) :
    subscript mode (.tensor this) (.int index) =
      if InRange index first then .ok (.tensor (this.row mode (position index first).toNat))
      else fail (.indexOutOfBounds index.toInt first) := by
  rw [subscript_tensor mode hsize, resolveIndex_eq hfirst]
  by_cases hrange : InRange index first
  · rw [if_pos hrange, if_pos hrange]
    exact readRow_eq h hsize hrow hrange.toNat_lt
  · rw [if_neg hrange, if_neg hrange]
    rfl

/-- A subscript with a position gives the row there. -/
theorem subscript_signed_eq (h : this.WellFormed) (hsize : this.size = first :: rest)
    (hfirst : first < Word.signedBound)
    (hrow : mode.erases [this] = false → ∃ row, Word.product? rest = some row) {k : Nat}
    (hk : k < first) :
    subscript mode (.tensor this) (.int (Word.signed k)) = .ok (.tensor (this.row mode k)) := by
  obtain ⟨hrange, hposition⟩ := Word.position_signed hk hfirst
  rw [subscript_tensor_eq h hsize hfirst hrow, if_pos hrange, hposition]

end Kernel

end TensorCapture
