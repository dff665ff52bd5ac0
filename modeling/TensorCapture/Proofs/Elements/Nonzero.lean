import TensorCapture.Library.Basic
import TensorCapture.Proofs.Bounds.Moving
import TensorCapture.Proofs.Elements.Doubles
import TensorCapture.Proofs.Elements.Entries

set_option autoImplicit false

/-! # Positions of the elements other than zero

The kernel walks the elements in row-major order and unravels the position of each that is other
than zero. Unravelling is inverse to ranking within the bounds, so each such position is listed once
and nothing else is; and since ranks are in the lexicographic order of the multi-indices, the rows
of the result are in that order too.
-/

namespace TensorCapture

/-! ## Counting and laying out -/

/-- The positions at which a list holds what is counted are as many as the items. -/
theorem countP_range_getElem? {α : Type} (p : α → Bool) (xs : List α) :
    (List.range xs.length).countP (fun i => xs[i]?.any p) = xs.countP p := by
  induction xs with
  | nil => rfl
  | cons x xs ih =>
      rw [List.length_cons, List.range_succ_eq_map, List.countP_cons, List.countP_map,
        List.countP_cons, ← ih]
      rfl

/-- In rows of one length, laid out one after another, an item is found by its row and column. -/
theorem getElem?_flatten_rows {α : Type} {rows : List (List α)} {n k j : Nat}
    (h : ∀ row ∈ rows, row.length = n) (hj : j < n) :
    rows.flatten[k * n + j]? = rows[k]?.bind (·[j]?) := by
  induction rows generalizing k with
  | nil => rfl
  | cons row rows ih =>
      obtain ⟨hrow, hrest⟩ := List.forall_mem_cons.mp h
      rw [List.flatten_cons]
      cases k with
      | zero =>
          rw [List.getElem?_append_left (by omega)]
          simp
      | succ k =>
          have hskip : (k + 1) * n + j - row.length = k * n + j := by
            rw [hrow, Nat.add_mul]
            omega
          rw [List.getElem?_append_right (by rw [hrow, Nat.add_mul]; omega), hskip, ih hrest]
          rfl

/-! ## The positions -/

namespace Kernel

variable {size : List Nat} {a : Array Float} {index : List Nat}

/-- The positions of the elements other than zero, in order. -/
def nonzeroPositions (a : Array Float) : List Nat :=
  (List.range a.size).filter fun i => a[i]?.any (· != 0.0)

/-- Their multi-indices. -/
def nonzeroIndices (size : List Nat) (a : Array Float) : List (List Nat) :=
  (nonzeroPositions a).map (Shape.unravel size)

theorem length_nonzeroIndices (size : List Nat) (a : Array Float) :
    (nonzeroIndices size a).length = a.toList.countP (· != 0.0) := by
  have hcount := countP_range_getElem? (· != 0.0) a.toList
  unfold nonzeroIndices nonzeroPositions
  rw [List.length_map, ← List.countP_eq_length_filter, ← hcount]
  simp

theorem mem_nonzeroPositions {i : Nat} :
    i ∈ nonzeroPositions a ↔ ∃ v, a[i]? = some v ∧ (v != 0.0) = true := by
  unfold nonzeroPositions
  rw [List.mem_filter, List.mem_range, Option.any_eq_true]
  constructor
  · rintro ⟨-, hv⟩
    exact hv
  · rintro ⟨v, hv, hne⟩
    exact ⟨(Array.getElem?_eq_some_iff.mp hv).1, v, hv, hne⟩

variable (hsize : a.size = Shape.volume size)
include hsize

theorem lt_volume_of_mem_nonzeroPositions {i : Nat} (h : i ∈ nonzeroPositions a) :
    i < Shape.volume size := by
  obtain ⟨v, hv, -⟩ := mem_nonzeroPositions.mp h
  rw [← hsize]
  exact (Array.getElem?_eq_some_iff.mp hv).1

theorem bounds_of_mem_nonzeroIndices (h : index ∈ nonzeroIndices size a) :
    List.Forall₂ (· < ·) index size := by
  obtain ⟨i, hi, rfl⟩ := List.mem_map.mp h
  have hlt := lt_volume_of_mem_nonzeroPositions hsize hi
  exact Shape.unravel_lt (Shape.volume_pos_iff.mp (Nat.zero_lt_of_lt hlt)) i

theorem mem_nonzeroIndices (hindex : List.Forall₂ (· < ·) index size) :
    index ∈ nonzeroIndices size a ↔
      ∃ v, a[Shape.rank size index]? = some v ∧ (v != 0.0) = true := by
  rw [← mem_nonzeroPositions]
  constructor
  · intro h
    obtain ⟨i, hi, rfl⟩ := List.mem_map.mp h
    rwa [Shape.rank_unravel (lt_volume_of_mem_nonzeroPositions hsize hi)]
  · intro h
    exact List.mem_map.mpr ⟨Shape.rank size index, h, Shape.unravel_rank hindex⟩

theorem pairwise_nonzeroIndices : (nonzeroIndices size a).Pairwise (· < ·) := by
  have hincreasing : (nonzeroPositions a).Pairwise (· < ·) := List.pairwise_lt_range.filter _
  refine List.pairwise_map.mpr (hincreasing.imp_of_mem fun hi hj hlt => ?_)
  have hi' := lt_volume_of_mem_nonzeroPositions hsize hi
  have hj' := lt_volume_of_mem_nonzeroPositions hsize hj
  have hpositive := Shape.volume_pos_iff.mp (Nat.zero_lt_of_lt hi')
  refine Shape.lt_of_rank_lt (Shape.unravel_lt hpositive _) (Shape.unravel_lt hpositive _) ?_
  rwa [Shape.rank_unravel hi', Shape.rank_unravel hj']

end Kernel

/-! ## The list of the positions -/

namespace Tensor

variable {this listed : Tensor} {index : List Nat} {indices : List (List Nat)}

/-- A row of a tensor with two axes is this multi-index, each component as a double. -/
def RowIs (listed : Tensor) (k : Nat) (index : List Nat) : Prop :=
  ∀ axis i, index[axis]? = some i → listed.at? [k, axis] = some (UInt64.ofNat i).toFloat

/-- The second tensor lists the positions of the elements of the first one that are other than zero:
its rows are the multi-indices of these positions in lexicographic order. -/
structure ListsNonzero (this listed : Tensor) (indices : List (List Nat)) : Prop where
  size : listed.size = [indices.length, this.ndim]
  elementType : listed.elementType = .i64
  dense : listed.isPlaceholder = false
  wellFormed : listed.WellFormed
  row : ∀ k index, indices[k]? = some index → listed.RowIs k index
  bounds : ∀ index ∈ indices, List.Forall₂ (· < ·) index this.size
  increasing : indices.Pairwise (· < ·)
  mem_iff : ∀ index, List.Forall₂ (· < ·) index this.size →
    (index ∈ indices ↔ ∃ v, this.at? index = some v ∧ (v != 0.0) = true)

/-- Where the components are exact as doubles, a row is one multi-index only. -/
theorem RowIs.unique {other size : List Nat} {k : Nat} (h : listed.RowIs k index)
    (h' : listed.RowIs k other) (hindex : List.Forall₂ (· < ·) index size)
    (hother : List.Forall₂ (· < ·) other size) (hexact : ∀ n ∈ size, n ≤ 2 ^ 53) :
    index = other := by
  have hbelow : ∀ index, List.Forall₂ (· < ·) index size → ∀ i ∈ index, i < 2 ^ 53 := by
    intro index hindex i hi
    obtain ⟨axis, hlt, rfl⟩ := List.mem_iff_getElem.mp hi
    have hlt' : axis < size.length := hindex.length_eq ▸ hlt
    exact (hindex.get hlt hlt').trans_le (hexact _ (List.getElem_mem hlt'))
  have hlength : index.length = other.length := hindex.length_eq.trans hother.length_eq.symm
  refine List.ext_getElem hlength fun axis hlt hlt' => ?_
  have hrow := h axis _ (List.getElem?_eq_getElem hlt)
  have hrow' := h' axis _ (List.getElem?_eq_getElem hlt')
  refine Double.toFloat_ofNat_inj (hbelow index hindex _ (List.getElem_mem hlt))
    (hbelow other hother _ (List.getElem_mem hlt')) ?_
  exact Option.some.inj (hrow.symm.trans hrow')

/-- Then a multi-index is a row of the list exactly where the element differs from zero. -/
theorem ListsNonzero.exists_row_iff (h : this.ListsNonzero listed indices)
    (hexact : ∀ n ∈ this.size, n ≤ 2 ^ 53) (hindex : List.Forall₂ (· < ·) index this.size) :
    (∃ k < indices.length, listed.RowIs k index) ↔
      ∃ v, this.at? index = some v ∧ (v != 0.0) = true := by
  rw [← h.mem_iff index hindex]
  constructor
  · rintro ⟨k, hk, hrow⟩
    have hother := h.row k _ (List.getElem?_eq_getElem hk)
    have hmem : indices[k] ∈ indices := List.getElem_mem hk
    rw [hrow.unique hother hindex (h.bounds _ hmem) hexact]
    exact hmem
  · intro hmem
    obtain ⟨k, hk⟩ := List.getElem?_of_mem hmem
    exact ⟨k, (List.getElem?_eq_some_iff.mp hk).1, h.row k index hk⟩

end Tensor

namespace Kernel

open Tensor

variable {this : Tensor} {a : Array Float}

/-- What the kernel gives for a dense tensor. -/
def nonzeroListing (this : Tensor) (a : Array Float) : Tensor :=
  .ofElements [(nonzeroIndices this.size a).length, this.ndim]
    ((nonzeroIndices this.size a).flatten.map fun i => (UInt64.ofNat i).toFloat).toArray .i64

theorem nonzero_eq_ok (ha : this.storage = .dense a) :
    nonzero .eager (.tensor this) = .ok (.tensor (nonzeroListing this a)) := by
  have herases := erases_eager_of_dense (isPlaceholder_of_dense ha)
  have htensor : tensorOf (.tensor this) = .ok this := rfl
  unfold nonzero nonzeroListing nonzeroIndices
  simp only [htensor, herases, elementsOf_eq_ok ha, bind, Except.bind, List.length_map]
  rfl

theorem listsNonzero (h : this.WellFormed) (ha : this.storage = .dense a) :
    this.ListsNonzero (nonzeroListing this a) (nonzeroIndices this.size a) := by
  have hsize : a.size = Shape.volume this.size := size_elements h ha
  have hbounds : ∀ index ∈ nonzeroIndices this.size a, List.Forall₂ (· < ·) index this.size :=
    fun index => bounds_of_mem_nonzeroIndices hsize
  refine ⟨rfl, rfl, rfl, ?_, ?_, hbounds, pairwise_nonzeroIndices hsize, fun index hindex => ?_⟩
  · refine wellFormed_ofElements .i64 ?_
    rw [List.size_toArray, List.length_map]
    unfold nonzeroIndices
    rw [length_flatten_unravel]
    simp [ndim]
  · intro k index hk axis i hi
    have hlength : ∀ row ∈ nonzeroIndices this.size a, row.length = this.ndim :=
      fun row hrow => (hbounds row hrow).length_eq
    have haxis : axis < this.ndim := by
      rw [← hlength index (List.mem_of_getElem? hk)]
      exact (List.getElem?_eq_some_iff.mp hi).1
    rw [at?_of_dense rfl]
    show (((nonzeroIndices this.size a).flatten.map fun i => (UInt64.ofNat i).toFloat).toArray)[
      Shape.rank [(nonzeroIndices this.size a).length, this.ndim] [k, axis]]? = _
    rw [Shape.rank_pair, List.getElem?_toArray, List.getElem?_map,
      getElem?_flatten_rows hlength haxis, hk, Option.bind_some, hi]
    rfl
  · rw [mem_nonzeroIndices hsize hindex, at?_of_dense ha]

/-- Without axes there is one multi-index, the empty one. -/
theorem nonzeroIndices_nil (v : Float) :
    nonzeroIndices [] #[v] = if v != 0.0 then [[]] else [] := by
  cases hv : v != 0.0 with
  | true => simp [nonzeroIndices, nonzeroPositions, hv, Shape.unravel, Shape.unravelFrom]
  | false => simp [nonzeroIndices, nonzeroPositions, hv]

end Kernel

/-- **The positions of the elements other than zero are enumerated.** A tensor with elements, given
to the function or asked by the method, gives one row for each element that differs from zero. The
rows are the multi-indices of these elements in lexicographic order, so none comes twice; and every
multi-index within the bounds at which the element differs from zero is among them. As long as the
components are exact as doubles, the rows of the result alone tell so. Without axes there is one
empty row, or none. -/
theorem nonzero_enumerates {x : Tensor} (h : x.WellFormed) {elements : Array Float}
    (hdense : x.storage = .dense elements) {lib : Library} (hmode : lib.mode = .eager) :
    ∃ y indices,
      (∀ kwargs : Named Value,
        lib.callFunction (.function "nonzero") [.tensor x] kwargs = (.ok (.tensor y), lib)) ∧
      (∀ (args : List Value) (kwargs : Named Value),
        lib.callMethod "nonzero" (.tensor x) args kwargs = .ok (.tensor y)) ∧
      x.ListsNonzero y indices ∧ indices.length = elements.toList.countP (· != 0.0) ∧
      ((∀ n ∈ x.size, n ≤ 2 ^ 53) → ∀ index, List.Forall₂ (· < ·) index x.size →
        ((∃ k < indices.length, y.RowIs k index) ↔
          ∃ v, x.at? index = some v ∧ (v != 0.0) = true)) ∧
      (x.size = [] → ∃ v, x.at? [] = some v ∧
        indices = if v != 0.0 then [[]] else []) := by
  have hresult := Kernel.nonzero_eq_ok hdense
  rw [← hmode] at hresult
  have hlists := Kernel.listsNonzero h hdense
  refine ⟨Kernel.nonzeroListing x elements, Kernel.nonzeroIndices x.size elements,
    fun kwargs => ?_, fun args kwargs => hresult, hlists,
    Kernel.length_nonzeroIndices x.size elements,
    fun hexact index hindex => hlists.exists_row_iff hexact hindex, fun hscalar => ?_⟩
  · show (Kernel.nonzero lib.mode (.tensor x), lib) = _
    rw [hresult]
  · have hone : elements.size = 1 := by
      rw [Tensor.size_elements h hdense, hscalar]
      rfl
    obtain ⟨v, rfl⟩ := Array.size_eq_one_iff.mp hone
    refine ⟨v, ?_, ?_⟩
    · rw [Tensor.at?_of_dense hdense, hscalar]
      rfl
    · rw [hscalar, Kernel.nonzeroIndices_nil]

/-- Two of the four entries of a matrix are other than zero, and a scalar is. -/
theorem nonzero_enumerates_matrix :
    (Tensor.ofElements [2, 2] #[0, 7, 2, -0.0] .f32).WellFormed ∧
      (∃ (y : Tensor) (indices : List (List Nat)),
        (Library.ofSeed 0).callFunction (.function "nonzero")
          [.tensor (.ofElements [2, 2] #[0, 7, 2, -0.0] .f32)] [] =
            (.ok (.tensor y), Library.ofSeed 0) ∧
        indices.length = 2 ∧ y.size = [2, 2] ∧ (∃ k < indices.length, y.RowIs k [0, 1]) ∧
        ∃ k < indices.length, y.RowIs k [1, 0]) ∧
      ∃ y, (Library.ofSeed 0).callMethod "nonzero" (.tensor (.ofElements [] #[1] .f32)) [] [] =
          .ok (.tensor y) ∧ y.size = [1, 0] := by
  have h : (Tensor.ofElements [2, 2] #[0, 7, 2, -0.0] .f32).WellFormed := ⟨rfl, rfl⟩
  have hscalar : (Tensor.ofElements [] #[1] .f32).WellFormed := ⟨rfl, rfl⟩
  obtain ⟨y, indices, hfunction, -, hlists, hcount, hrows, -⟩ :=
    nonzero_enumerates h rfl (rfl : (Library.ofSeed 0).mode = .eager)
  obtain ⟨z, rows, -, hmethod, hlists', hcount', -⟩ :=
    nonzero_enumerates hscalar rfl (rfl : (Library.ofSeed 0).mode = .eager)
  have hexact : ∀ n ∈ [2, 2], n ≤ 2 ^ 53 := by decide
  have hlength : indices.length = 2 := hcount.trans (by decide)
  have hlength' : rows.length = 1 := hcount'.trans (by decide)
  refine ⟨h, ⟨y, indices, hfunction [], hlength, ?_, ?_, ?_⟩, z, hmethod [] [], ?_⟩
  · rw [hlists.size, hlength]
    rfl
  · exact (hrows hexact [0, 1] (by decide)).mpr ⟨7, rfl, by decide⟩
  · exact (hrows hexact [1, 0] (by decide)).mpr ⟨2, rfl, by decide⟩
  · rw [hlists'.size, hlength']
    rfl

end TensorCapture
