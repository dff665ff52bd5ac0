import TensorCapture.Proofs.Bounds.Computing
import TensorCapture.Proofs.Elements.Entries
import TensorCapture.Proofs.Elements.Doubles
import TensorCapture.Proofs.Folding.Positions

set_option autoImplicit false

/-! # Maxima along an axis

A slice is walked from a start that is none of its elements: position zero and negative infinity. An
element counts where it is larger than what was found before it. So the walk ends at the first of
the largest elements where one is above the start, and else at the start: a slice that is empty, or
whose elements are negative infinity or no numbers, is reported to have negative infinity at
position zero.
-/

namespace TensorCapture

open Double (le_of_lt lt_of_lt_of_le lt_trans not_le_of_lt)

namespace Kernel

/-! ## The walk along a slice -/

variable {slice rest : List (Nat × Float)} {top next : Nat × Float} {place : Nat}

/-- What is found so far, after one more element. -/
def larger (top next : Nat × Float) : Nat × Float := if next.2 > top.2 then next else top

/-- The entry at this place of a slice is the first of the largest ones. -/
structure FirstLargest (slice : List (Nat × Float)) (place : Nat) (top : Nat × Float) : Prop where
  found : slice[place]? = some top
  largest : ∀ next ∈ slice, ¬top.2 < next.2
  first : ∀ k < place, ∀ next, slice[k]? = some next → ¬top.2 ≤ next.2

theorem FirstLargest.head (h : ∀ next ∈ rest, ¬top.2 < next.2) :
    FirstLargest (top :: rest) 0 top := by
  refine ⟨rfl, List.forall_mem_cons.mpr ⟨Double.lt_irrefl top.2, h⟩, fun k hk => ?_⟩
  exact absurd hk (Nat.not_lt_zero k)

theorem FirstLargest.cons (h : FirstLargest rest place top) (hnext : ¬top.2 ≤ next.2) :
    FirstLargest (next :: rest) (place + 1) top := by
  refine ⟨h.found, List.forall_mem_cons.mpr ⟨fun hlt => hnext (le_of_lt hlt), h.largest⟩, ?_⟩
  intro k hk other hother
  cases k with
  | zero =>
      cases hother
      exact hnext
  | succ k => exact h.first k (Nat.lt_of_succ_lt_succ hk) other hother

/-- The walk ends where it started, with no element above, or at the first of the largest ones. -/
theorem walk_ends (slice : List (Nat × Float)) (start : Nat × Float) :
    (slice.foldl larger start = start ∧ ∀ next ∈ slice, ¬start.2 < next.2) ∨
      (start.2 < (slice.foldl larger start).2 ∧
        ∃ place, FirstLargest slice place (slice.foldl larger start)) := by
  induction slice generalizing start with
  | nil => exact .inl ⟨rfl, by simp⟩
  | cons next rest ih =>
      rw [List.foldl_cons]
      by_cases hlarger : start.2 < next.2
      · have hstep : larger start next = next := if_pos hlarger
        rw [hstep]
        rcases ih next with ⟨hkept, hrest⟩ | ⟨habove, place, hplace⟩
        · rw [hkept]
          exact .inr ⟨hlarger, 0, .head hrest⟩
        · exact .inr ⟨lt_trans hlarger habove, place + 1, hplace.cons (not_le_of_lt habove)⟩
      · have hstep : larger start next = start := if_neg hlarger
        rw [hstep]
        rcases ih start with ⟨hkept, hrest⟩ | ⟨habove, place, hplace⟩
        · exact .inl ⟨hkept, List.forall_mem_cons.mpr ⟨hlarger, hrest⟩⟩
        · have hnext : ¬(rest.foldl larger start).2 ≤ next.2 :=
            fun hle => hlarger (lt_of_lt_of_le habove hle)
          exact .inr ⟨habove, place + 1, hplace.cons hnext⟩

theorem exists_firstLargest_best (h : ∃ next ∈ slice, -(1.0 / 0.0) < next.2) :
    ∃ place, FirstLargest slice place (best slice) := by
  obtain ⟨next, hmem, habove⟩ := h
  rcases walk_ends slice (0, -(1.0 / 0.0)) with ⟨-, hnone⟩ | ⟨-, hplace⟩
  · exact absurd habove (hnone next hmem)
  · exact hplace

theorem best_of_none_above (h : ∀ next ∈ slice, ¬-(1.0 / 0.0) < next.2) :
    best slice = (0, -(1.0 / 0.0)) := by
  rcases walk_ends slice (0, -(1.0 / 0.0)) with ⟨hkept, -⟩ | ⟨habove, place, hplace⟩
  · exact hkept
  · exact absurd habove (h _ (List.mem_of_getElem? hplace.found))

end Kernel

/-! ## What the two results are -/

namespace Tensor

variable {this values indices : Tensor} {before after : List Nat} {place extent : Nat}

/-- An element of the slice around these components is above negative infinity. -/
def AnyAbove (this : Tensor) (before after : List Nat) (extent : Nat) : Prop :=
  ∃ k < extent, ∃ w, this.at? (before ++ k :: after) = some w ∧ -(1.0 / 0.0) < w

/-- In the slice around these components, this element is the first of the largest ones: none is
larger, and none before it is as large. -/
structure LargestAt (this : Tensor) (before after : List Nat) (extent l : Nat) (v : Float) :
    Prop where
  lt : l < extent
  entry : this.at? (before ++ l :: after) = some v
  largest : ∀ k < extent, ∀ w, this.at? (before ++ k :: after) = some w → ¬v < w
  first : ∀ k < l, ∀ w, this.at? (before ++ k :: after) = some w → ¬v ≤ w

/-- The two tensors hold the maxima along an axis and their positions on it, where there is an
element above negative infinity, and negative infinity and zero where there is none. So what they
hold is an element with its position there, or where negative infinity is the first element, and
nowhere else. Both have the shape without the axis. -/
structure MaximaAlong (this values indices : Tensor) (place extent : Nat) : Prop where
  size : values.size = this.size.eraseIdx place ∧ indices.size = this.size.eraseIdx place
  elementType : values.elementType = this.elementType ∧ indices.elementType = .i64
  requiresGrad : values.requiresGrad = this.requiresGrad ∧ indices.requiresGrad = false
  wellFormed : values.WellFormed ∧ indices.WellFormed
  dense : values.isPlaceholder = false ∧ indices.isPlaceholder = false
  entry : ∀ before after, List.Forall₂ (· < ·) before (this.size.take place) →
    List.Forall₂ (· < ·) after (this.size.drop (place + 1)) → ∃ l v,
      indices.at? (before ++ after) = some (UInt64.ofNat l).toFloat ∧
      values.at? (before ++ after) = some v ∧
      (this.AnyAbove before after extent → this.LargestAt before after extent l v) ∧
      (¬this.AnyAbove before after extent → l = 0 ∧ v = -(1.0 / 0.0)) ∧
      (l < extent ∧ this.at? (before ++ l :: after) = some v ↔
        this.AnyAbove before after extent ∨
          0 < extent ∧ this.at? (before ++ 0 :: after) = some (-(1.0 / 0.0)))

end Tensor

/-! ## The library's maxima -/

namespace Kernel

open Tensor

variable {this : Tensor} {a : Array Float} {before after : List Nat} {place extent : Nat}
  {slice : List (Nat × Float)}

/-- The list holds the elements around these components with their positions on the axis. -/
def SliceAround (this : Tensor) (before after : List Nat) (extent : Nat)
    (slice : List (Nat × Float)) : Prop :=
  ∀ l top, slice[l]? = some top ↔
    top.1 = l ∧ l < extent ∧ this.at? (before ++ l :: after) = some top.2

/-- The slice that the kernel reads for a position of the result. -/
theorem exists_sliceAround (h : this.WellFormed) (ha : this.storage = .dense a)
    (hextent : this.size[place]? = some extent)
    (hbefore : List.Forall₂ (· < ·) before (this.size.take place))
    (hafter : List.Forall₂ (· < ·) after (this.size.drop (place + 1))) :
    ∃ slice, axisSlice? a extent (Shape.volume (this.size.drop (place + 1)))
        (Shape.rank (this.size.take place) before)
        (Shape.rank (this.size.drop (place + 1)) after) = some slice ∧
      SliceAround this before after extent slice := by
  have hdata := (size_elements h ha).trans (Shape.volume_eq_around hextent)
  obtain ⟨slice, hslice, hlength, hget⟩ := exists_axisSlice? hdata
    (Shape.rank_lt_volume hbefore) (Shape.rank_lt_volume hafter)
  have hplace : before.length = place := by
    have hlt : place < this.size.length := (List.getElem?_eq_some_iff.mp hextent).1
    rw [hbefore.length_eq, List.length_take, Nat.min_eq_left hlt.le]
  refine ⟨slice, hslice, fun l top => ?_⟩
  rw [at?_of_dense ha, Shape.rank_around hextent hplace]
  constructor
  · intro htop
    have hlt : l < extent := hlength ▸ (List.getElem?_eq_some_iff.mp htop).1
    rw [hget l hlt] at htop
    obtain ⟨v, hv, rfl⟩ := Option.map_eq_some_iff.mp htop
    exact ⟨rfl, hlt, hv⟩
  · rintro ⟨hfirst, hlt, hentry⟩
    rw [hget l hlt, hentry, ← hfirst]
    rfl

namespace SliceAround

variable (h : SliceAround this before after extent slice)
include h

theorem anyAbove_iff :
    this.AnyAbove before after extent ↔ ∃ next ∈ slice, -(1.0 / 0.0) < next.2 := by
  constructor
  · rintro ⟨k, hk, w, hw, habove⟩
    exact ⟨(k, w), List.mem_of_getElem? ((h k (k, w)).mpr ⟨rfl, hk, hw⟩), habove⟩
  · rintro ⟨next, hmem, habove⟩
    obtain ⟨k, hk⟩ := List.getElem?_of_mem hmem
    obtain ⟨-, hlt, hentry⟩ := (h k next).mp hk
    exact ⟨k, hlt, next.2, hentry, habove⟩

/-- Where an element is above the start, the walk finds the first of the largest ones. -/
theorem largestAt_best (habove : this.AnyAbove before after extent) :
    this.LargestAt before after extent (best slice).1 (best slice).2 := by
  obtain ⟨l, hfound, hlargest, hfirst⟩ := exists_firstLargest_best (h.anyAbove_iff.mp habove)
  obtain ⟨hl, hlt, hentry⟩ := (h l _).mp hfound
  rw [hl]
  refine ⟨hlt, hentry, fun k hk w hw => ?_, fun k hk w hw => ?_⟩
  · exact hlargest (k, w) (List.mem_of_getElem? ((h k (k, w)).mpr ⟨rfl, hk, hw⟩))
  · exact hfirst k hk (k, w) ((h k (k, w)).mpr ⟨rfl, hk.trans hlt, hw⟩)

theorem best_of_not_anyAbove (hnone : ¬this.AnyAbove before after extent) :
    best slice = (0, -(1.0 / 0.0)) := by
  refine best_of_none_above fun next hmem habove => ?_
  exact hnone (h.anyAbove_iff.mpr ⟨next, hmem, habove⟩)

/-- What is found is an element with its position where an element is above the start, or where the
start happens to be the first element. -/
theorem best_isElement_iff :
    ((best slice).1 < extent ∧
        this.at? (before ++ (best slice).1 :: after) = some (best slice).2) ↔
      this.AnyAbove before after extent ∨
        0 < extent ∧ this.at? (before ++ 0 :: after) = some (-(1.0 / 0.0)) := by
  by_cases habove : this.AnyAbove before after extent
  · have hlargest := h.largestAt_best habove
    exact ⟨fun _ => .inl habove, fun _ => ⟨hlargest.lt, hlargest.entry⟩⟩
  · rw [h.best_of_not_anyAbove habove]
    exact (or_iff_right habove).symm

end SliceAround

/-- The kernel walks the slice around each index of the result, and finds the outcome of the walk at
the rank of the index. -/
theorem exists_tops_around (h : this.WellFormed) (ha : this.storage = .dense a)
    (hextent : this.size[place]? = some extent) :
    ∃ tops, (List.range (Shape.volume (this.size.take place) *
        Shape.volume (this.size.drop (place + 1)))).mapM (fun flat =>
          (axisSlice? a extent (Shape.volume (this.size.drop (place + 1)))
            (flat / Shape.volume (this.size.drop (place + 1)))
            (flat % Shape.volume (this.size.drop (place + 1)))).map best) = some tops ∧
      tops.length = Shape.volume (this.size.eraseIdx place) ∧
      ∀ before after, List.Forall₂ (· < ·) before (this.size.take place) →
        List.Forall₂ (· < ·) after (this.size.drop (place + 1)) → ∃ slice,
          SliceAround this before after extent slice ∧
          tops[Shape.rank (this.size.eraseIdx place) (before ++ after)]? = some (best slice) := by
  have hdata := (size_elements h ha).trans (Shape.volume_eq_around hextent)
  obtain ⟨tops, htops, hlength, hget⟩ := exists_tops hdata
  refine ⟨tops, htops, by rw [hlength, Shape.volume_eraseIdx], ?_⟩
  intro before after hbefore hafter
  obtain ⟨slice, hslice, haround⟩ := exists_sliceAround h ha hextent hbefore hafter
  have hrow := Shape.rank_lt_volume hbefore
  have hinside := Shape.rank_lt_volume hafter
  refine ⟨slice, haround, ?_⟩
  -- the position of the result splits into those before the axis and behind it
  rw [List.eraseIdx_eq_take_drop_succ, Shape.rank_append hbefore.length_eq,
    hget _ (Shape.row_add_lt hrow hinside), Shape.row_add_div _ hinside,
    Shape.row_add_mod _ hinside, hslice]
  rfl

/-- The numbers of positions before the axis and behind it are words, formed from the left, and
memory holds as many elements as there are outside the axis. -/
structure MaximaFit (size : List Nat) (place : Nat) : Prop where
  before : ∃ n, Word.product? (size.take place) = some n
  after : ∃ n, Word.product? (size.drop (place + 1)) = some n
  elements : Shape.volume (size.eraseIdx place) ≤ Word.allocatable

variable {axis : Value} {index : Int64}

theorem resolveAxis_of_position {size : List Nat} (hrank : size.length < Word.signedBound)
    (hplace : Word.position index size.length = place) (hextent : size[place]? = some extent) :
    resolveAxis index size.length = .ok place := by
  have hlt : place < size.length := (List.getElem?_eq_some_iff.mp hextent).1
  have hrange : Word.InRange index size.length := by
    unfold Word.InRange
    rw [hplace]
    omega
  rw [resolveAxis_eq (Nat.zero_lt_of_lt hlt) hrank, if_pos hrange, hplace, Int.toNat_natCast]

/-- Maxima that fit are found. -/
theorem exists_maximaAlong (h : this.WellFormed) (ha : this.storage = .dense a)
    (haxis : integerOf axis = .ok index) (hresolve : resolveAxis index this.ndim = .ok place)
    (hextent : this.size[place]? = some extent) (hfits : MaximaFit this.size place) :
    ∃ values indices,
      maxAlong .eager (.tensor this) axis =
        .ok (.record maxResult [.tensor values, .tensor indices]) ∧
      this.MaximaAlong values indices place extent := by
  obtain ⟨⟨outer, houter⟩, ⟨inner, hinner⟩, hallocated⟩ := hfits
  obtain rfl := Word.eq_volume_of_product? houter
  obtain rfl := Word.eq_volume_of_product? hinner
  rw [Shape.volume_eraseIdx] at hallocated
  have hallocate : allocate (Word.mul? (Shape.volume (this.size.take place))
      (Shape.volume (this.size.drop (place + 1)))) =
      .ok (Shape.volume (this.size.take place) * Shape.volume (this.size.drop (place + 1))) := by
    have hbound : Word.allocatable < Word.bound := by decide
    exact allocate_eq_ok (Word.mul?_eq_some_iff.mpr ⟨rfl, hallocated.trans_lt hbound⟩) hallocated
  obtain ⟨tops, htops, hlength, hget⟩ := exists_tops_around h ha hextent
  have hfills : ∀ part : Nat × Float → Float,
      (Storage.dense (tops.map part).toArray).Fills (this.size.eraseIdx place) := by
    intro part
    show (tops.map part).toArray.size = Shape.volume (this.size.eraseIdx place)
    rw [List.size_toArray, List.length_map, hlength]
  refine ⟨this.derive (this.size.eraseIdx place) (.dense (tops.map Prod.snd).toArray),
    { this.derive (this.size.eraseIdx place)
        (.dense (tops.map fun top => (UInt64.ofNat top.1).toFloat).toArray) with
      elementType := .i64, requiresGrad := false }, ?_, ?_⟩
  · have htensor : tensorOf (.tensor this) = .ok this := rfl
    have herases := erases_eager_of_dense (isPlaceholder_of_dense ha)
    unfold maxAlong
    simp only [htensor, haxis, hresolve, houter, hinner, hextent, Outcome.ofBounded_some, herases,
      elementsOf_eq_ok ha, hallocate, htops, bind, Except.bind]
    rfl
  · refine ⟨⟨rfl, rfl⟩, ⟨rfl, rfl⟩, ⟨rfl, rfl⟩, ⟨wellFormed_derive this (hfills _),
      wellFormed_derive this (hfills _)⟩, ⟨rfl, rfl⟩, fun before after hbefore hafter => ?_⟩
    obtain ⟨slice, haround, htop⟩ := hget before after hbefore hafter
    have hpart : ∀ part : Nat × Float → Float,
        (tops.map part).toArray[Shape.rank (this.size.eraseIdx place) (before ++ after)]? =
          some (part (best slice)) := by
      intro part
      rw [List.getElem?_toArray, List.getElem?_map, htop]
      rfl
    refine ⟨(best slice).1, (best slice).2, hpart _, hpart _, haround.largestAt_best,
      fun hnone => ?_, haround.best_isElement_iff⟩
    rw [haround.best_of_not_anyAbove hnone]
    exact ⟨rfl, rfl⟩

/-- Any other maxima end the run. -/
theorem maxAlong_eq_abort (h : this.WellFormed) (hdense : this.isPlaceholder = false)
    (haxis : integerOf axis = .ok index) (hresolve : resolveAxis index this.ndim = .ok place)
    (hextent : this.size[place]? = some extent) (hfits : ¬MaximaFit this.size place) :
    maxAlong .eager (.tensor this) axis = .error .abort := by
  refine (conforms_maxAlong (Value.wellFormed_tensor.mpr h)).ends_iff.mpr
    ⟨this, rfl, index, haxis, .inl (.inr ⟨place, hresolve, ?_⟩)⟩
  have hsize : this.size ≠ [] := by
    rintro hnil
    rw [hnil] at hextent
    cases hextent
  refine ⟨hsize, ?_⟩
  by_contra hnone
  simp only [not_or, not_and, Nat.not_lt] at hnone
  obtain ⟨hbefore, hafter, helements⟩ := hnone
  exact hfits ⟨Option.ne_none_iff_exists'.mp hbefore, Option.ne_none_iff_exists'.mp hafter,
    helements (erases_eager_of_dense hdense)⟩

end Kernel

open Kernel

/-- **A maximum along an axis is an element and its position, where an element is above negative
infinity.** The axis may be counted from the end. The function and the method give the same two
tensors, both of the shape without the axis: at each index the first of the largest elements of the
slice, which none exceeds, and its position on the axis. A slice without an element above negative
infinity is reported to have negative infinity at position zero, though it may hold no such element,
or none at all. Only where a number of positions cannot be formed does the run end instead. -/
theorem max_along_axis {x : Tensor} (h : x.WellFormed) (hdense : x.isPlaceholder = false)
    {lib : Library} (hmode : lib.mode = .eager) {axis : Value} {index : Int64}
    (haxis : integerOf axis = .ok index) (hrank : x.ndim < Word.signedBound) {place extent : Nat}
    (hplace : Word.position index x.ndim = place) (hextent : x.size[place]? = some extent)
    (kwargs : Named Value) :
    (MaximaFit x.size place → ∃ values indices,
      lib.callFunction (.function "max") [.tensor x, axis] kwargs =
        (.ok (.record maxResult [.tensor values, .tensor indices]), lib) ∧
      lib.callMethod "max" (.tensor x) [axis] kwargs =
        .ok (.record maxResult [.tensor values, .tensor indices]) ∧
      x.MaximaAlong values indices place extent) ∧
    (¬MaximaFit x.size place →
      lib.callFunction (.function "max") [.tensor x, axis] kwargs = (.error .abort, lib) ∧
      lib.callMethod "max" (.tensor x) [axis] kwargs = .error .abort) := by
  have hresolve : resolveAxis index x.ndim = .ok place :=
    resolveAxis_of_position hrank hplace hextent
  have hfunction : lib.callFunction (.function "max") [.tensor x, axis] kwargs =
      (maxAlong .eager (.tensor x) axis, lib) := by
    rw [← hmode]
    rfl
  have hmethod : lib.callMethod "max" (.tensor x) [axis] kwargs =
      maxAlong .eager (.tensor x) axis := by
    rw [← hmode]
    rfl
  rw [hfunction, hmethod]
  constructor
  · intro hfits
    obtain ⟨a, ha⟩ := Tensor.exists_dense hdense
    obtain ⟨values, indices, hfound, hmaxima⟩ :=
      exists_maximaAlong h ha haxis hresolve hextent hfits
    exact ⟨values, indices, by rw [hfound], hfound, hmaxima⟩
  · intro hfits
    have habort := maxAlong_eq_abort h hdense haxis hresolve hextent hfits
    exact ⟨by rw [habort], habort⟩

/-- In the second of two rows, counted from the end, the largest element is behind one that is no
number. -/
theorem max_along_axis_rows :
    (Tensor.ofElements [2, 3] #[3, 9, 1, 0.0 / 0.0, 7, 7] .f32).WellFormed ∧
      Word.position (-1) 2 = 1 ∧ MaximaFit [2, 3] 1 ∧
      ∃ values indices, (Library.ofSeed 0).callMethod "max"
          (.tensor (.ofElements [2, 3] #[3, 9, 1, 0.0 / 0.0, 7, 7] .f32)) [.int (-1)] [] =
            .ok (.record maxResult [.tensor values, .tensor indices]) ∧
        values.size = [2] ∧ ∃ l v, l < 3 ∧
          indices.at? [1] = some (UInt64.ofNat l).toFloat ∧ values.at? [1] = some v ∧
          (Tensor.ofElements [2, 3] #[3, 9, 1, 0.0 / 0.0, 7, 7] .f32).at? [1, l] = some v := by
  have h : (Tensor.ofElements [2, 3] #[3, 9, 1, 0.0 / 0.0, 7, 7] .f32).WellFormed := ⟨rfl, rfl⟩
  have hplace : Word.position (-1) 2 = 1 := by decide
  have hfits : MaximaFit [2, 3] 1 := ⟨⟨2, rfl⟩, ⟨1, rfl⟩, by decide⟩
  obtain ⟨hfound, -⟩ := max_along_axis h rfl (rfl : (Library.ofSeed 0).mode = .eager)
    (rfl : integerOf (.int (-1)) = .ok (-1)) (by decide) hplace rfl []
  obtain ⟨values, indices, -, hmethod, hmaxima⟩ := hfound hfits
  obtain ⟨l, v, hindex, hvalue, hlargest, -⟩ :=
    hmaxima.entry [1] [] (.cons (by decide) .nil) .nil
  have habove : (Tensor.ofElements [2, 3] #[3, 9, 1, 0.0 / 0.0, 7, 7] .f32).AnyAbove [1] [] 3 :=
    ⟨1, by decide, 7, rfl, by decide⟩
  obtain ⟨hlt, hentry, -, -⟩ := hlargest habove
  exact ⟨h, hplace, hfits, values, indices, hmethod, hmaxima.size.1, l, v, hlt, hindex, hvalue,
    hentry⟩

/-- The only element of a slice is no number, and negative infinity is reported at its position. -/
theorem exists_maximum_not_element :
    (Tensor.ofElements [1] #[0.0 / 0.0] .f32).WellFormed ∧
      ∃ values indices, (Library.ofSeed 0).callMethod "max"
          (.tensor (.ofElements [1] #[0.0 / 0.0] .f32)) [.int 0] [] =
            .ok (.record maxResult [.tensor values, .tensor indices]) ∧
        indices.at? [] = some (UInt64.ofNat 0).toFloat ∧
        (Tensor.ofElements [1] #[0.0 / 0.0] .f32).at? [0] = some (0.0 / 0.0) ∧
        values.at? [] ≠ some (0.0 / 0.0) := by
  refine ⟨⟨rfl, rfl⟩, .ofElements [] #[-(1.0 / 0.0)] .f32,
    .ofElements [] #[(UInt64.ofNat 0).toFloat] .i64, rfl, rfl, rfl, by decide⟩

end TensorCapture
