import TensorCapture.Proofs.Bounds.Conforms
import TensorCapture.Proofs.Positions.Ranks

set_option autoImplicit false

/-! # Elements at multi-indices

A dense tensor keeps its elements in row-major order, so the element at a multi-index is found at
its rank. Within the bounds there is one at each multi-index, and together they make up the tensor:
what two tensors of one shape hold can be compared there.
-/

namespace TensorCapture.Tensor

/-- The element at a multi-index. A placeholder has none. -/
def at? (t : Tensor) (index : List Nat) : Option Float :=
  t.elements?.bind fun elements => elements[Shape.rank t.size index]?

variable {t u : Tensor} {elements : Array Float} {index : List Nat}

theorem elements?_of_dense (h : t.storage = .dense elements) : t.elements? = some elements := by
  unfold elements?
  rw [h]

theorem at?_of_dense (h : t.storage = .dense elements) (index : List Nat) :
    t.at? index = elements[Shape.rank t.size index]? := by
  unfold at?
  rw [elements?_of_dense h]
  rfl

theorem isPlaceholder_of_dense (h : t.storage = .dense elements) : t.isPlaceholder = false := by
  unfold isPlaceholder
  rw [h]

theorem storage_of_isPlaceholder (h : t.isPlaceholder = true) : t.storage = .placeholder := by
  unfold isPlaceholder at h
  cases hstorage : t.storage with
  | placeholder => rfl
  | dense elements =>
      rw [hstorage] at h
      cases h

/-- A tensor that is no placeholder is dense. -/
theorem exists_dense (h : t.isPlaceholder = false) : ∃ elements, t.storage = .dense elements := by
  unfold isPlaceholder at h
  cases hstorage : t.storage with
  | dense elements => exact ⟨elements, rfl⟩
  | placeholder =>
      rw [hstorage] at h
      cases h

/-- A dense tensor has one element for each position. -/
theorem size_elements (h : t.WellFormed) (hdense : t.storage = .dense elements) :
    elements.size = Shape.volume t.size := by
  have hfills := (wellFormed_iff.mp h).2
  rwa [hdense] at hfills

/-- Within the bounds there is an element at each multi-index. -/
theorem exists_at? (h : t.WellFormed) (hdense : t.storage = .dense elements)
    (hindex : List.Forall₂ (· < ·) index t.size) : ∃ v, t.at? index = some v := by
  have hrank : Shape.rank t.size index < elements.size :=
    size_elements h hdense ▸ Shape.rank_lt_volume hindex
  exact ⟨elements[Shape.rank t.size index], by
    rw [at?_of_dense hdense, Array.getElem?_eq_getElem hrank]⟩

/-- Tensors of one shape that agree at each multi-index hold the same elements. -/
theorem storage_eq_of_at?_eq {elements' : Array Float} (ht : t.WellFormed) (hu : u.WellFormed)
    (hdense : t.storage = .dense elements) (hdense' : u.storage = .dense elements')
    (hsize : t.size = u.size)
    (h : ∀ index, List.Forall₂ (· < ·) index t.size → t.at? index = u.at? index) :
    t.storage = u.storage := by
  have hcount : elements.size = Shape.volume t.size := size_elements ht hdense
  have hcount' : elements'.size = Shape.volume t.size := hsize ▸ size_elements hu hdense'
  have hsame : elements = elements' := by
    refine Array.ext_getElem? fun i => ?_
    by_cases hi : i < Shape.volume t.size
    · -- the position is the rank of its multi-index
      have hbounds := Shape.unravel_lt (Shape.volume_pos_iff.mp (Nat.zero_lt_of_lt hi)) i
      have hentry := h _ hbounds
      rwa [at?_of_dense hdense, at?_of_dense hdense', ← hsize, Shape.rank_unravel hi] at hentry
    · rw [Array.getElem?_eq_none (by omega), Array.getElem?_eq_none (by omega)]
  rw [hdense, hdense', hsame]

end TensorCapture.Tensor
