import Mathlib.Data.List.Forall2
import Mathlib.Data.List.Induction
import Mathlib.Tactic.Ring
import TensorCapture.Library.Arguments

set_option autoImplicit false

/-! # Positions within a shape

The number of positions of a shape is the product of its extents, so it splits along any axis. A
row-major position within the bounds of every axis is below that number. What is read at positions
within the bounds is found: the elements of a result are gathered without a gap, and a slice of an
array has as many elements as it says.
-/

namespace TensorCapture

/-! ## Volumes -/

namespace Shape

@[simp] theorem volume_nil : volume [] = 1 := rfl

@[simp] theorem volume_cons (n : Nat) (rest : List Nat) :
    volume (n :: rest) = n * volume rest := rfl

theorem volume_append (outer inner : List Nat) :
    volume (outer ++ inner) = volume outer * volume inner := by
  induction outer with
  | nil => simp
  | cons n rest ih => rw [List.cons_append, volume_cons, volume_cons, ih, Nat.mul_assoc]

/-- A shape is made of the axes before one, the axis itself, and those after it. -/
theorem eq_around {shape : List Nat} {axis extent : Nat} (h : shape[axis]? = some extent) :
    shape = shape.take axis ++ extent :: shape.drop (axis + 1) := by
  obtain ⟨hlt, hextent⟩ := List.getElem?_eq_some_iff.mp h
  rw [← hextent, ← List.drop_eq_getElem_cons hlt, List.take_append_drop]

/-- The volume splits into the axes before one, the axis itself, and those after it. -/
theorem volume_eq_around {shape : List Nat} {axis extent : Nat} (h : shape[axis]? = some extent) :
    volume shape = volume (shape.take axis) * extent * volume (shape.drop (axis + 1)) := by
  calc volume shape = volume (shape.take axis ++ extent :: shape.drop (axis + 1)) := by
        rw [← eq_around h]
    _ = volume (shape.take axis) * extent * volume (shape.drop (axis + 1)) := by
        rw [volume_append, volume_cons, Nat.mul_assoc]

/-- Without one axis, the volume is that of the axes before it and of those after it. -/
theorem volume_eraseIdx (shape : List Nat) (axis : Nat) :
    volume (shape.eraseIdx axis) = volume (shape.take axis) * volume (shape.drop (axis + 1)) := by
  rw [List.eraseIdx_eq_take_drop_succ, volume_append]

theorem volume_pos_iff {shape : List Nat} : 0 < volume shape ↔ ∀ n ∈ shape, 0 < n := by
  induction shape with
  | nil => simp
  | cons n rest ih =>
      rw [volume_cons, List.forall_mem_cons, ← ih]
      simp [Nat.pos_iff_ne_zero]

end Shape

namespace Word

/-- The product of a list is formed from the left. Where all partial products fit, it is the
volume of the list. -/
theorem eq_volume_of_foldlM {xs : List Nat} {start n : Nat}
    (h : xs.foldlM mul? start = some n) : n = start * Shape.volume xs := by
  induction xs generalizing start with
  | nil =>
      cases h
      simp
  | cons x rest ih =>
      rw [List.foldlM_cons] at h
      obtain ⟨product, hproduct, hrest⟩ := Option.bind_eq_some_iff.mp h
      obtain ⟨rfl, -⟩ := mul?_eq_some_iff.mp hproduct
      calc n = start * x * Shape.volume rest := ih hrest
        _ = start * Shape.volume (x :: rest) := by rw [Shape.volume_cons, Nat.mul_assoc]

theorem eq_volume_of_product? {xs : List Nat} {n : Nat} (h : product? xs = some n) :
    n = Shape.volume xs := by
  rw [eq_volume_of_foldlM h, Nat.one_mul]

theorem lt_bound_of_product? {xs : List Nat} {n : Nat} (h : product? xs = some n) : n < bound := by
  have hfits : ∀ start, start < bound → xs.foldlM mul? start = some n → n < bound := by
    clear h
    induction xs with
    | nil =>
        intro start hstart hfold
        cases hfold
        exact hstart
    | cons x rest ih =>
        intro start _ hfold
        rw [List.foldlM_cons] at hfold
        obtain ⟨next, hnext, hrest⟩ := Option.bind_eq_some_iff.mp hfold
        exact ih next (mul?_eq_some_iff.mp hnext).2 hrest
  exact hfits 1 (by decide) h

/-- A product has a value where the volumes of all beginnings fit. -/
theorem product?_eq_some {xs : List Nat} (h : ∀ ys, ys <+: xs → Shape.volume ys < bound) :
    product? xs = some (Shape.volume xs) := by
  induction xs using List.reverseRecOn with
  | nil => rfl
  | append_singleton xs x ih =>
      have hinit : xs.foldlM mul? 1 = some (Shape.volume xs) :=
        ih fun ys hys => h ys (hys.trans (List.prefix_append xs [x]))
      have hlast : Shape.volume (xs ++ [x]) = Shape.volume xs * x := by simp [Shape.volume_append]
      have hfits : Shape.volume (xs ++ [x]) < bound := h _ (List.prefix_refl _)
      rw [hlast] at hfits ⊢
      have hstep : mul? (Shape.volume xs) x = some (Shape.volume xs * x) := if_pos hfits
      unfold product?
      rw [List.foldlM_append, hinit]
      simp [hstep]

end Word

/-! ## Positions within the bounds -/

namespace Shape

/-- A position in row `i` of `m` rows of `n` elements. -/
theorem row_add_lt {i m j n : Nat} (hi : i < m) (hj : j < n) : i * n + j < m * n := by
  calc i * n + j < i * n + n := by omega
    _ = (i + 1) * n := by ring
    _ ≤ m * n := Nat.mul_le_mul_right n hi

/-- The row and the column of a position in `m` rows of `n` elements. -/
theorem div_lt_and_mod_lt {m n flat : Nat} (h : flat < m * n) : flat / n < m ∧ flat % n < n := by
  have hpos : 0 < n := Nat.pos_of_ne_zero fun hzero => by simp [hzero] at h
  exact ⟨Nat.div_lt_of_lt_mul (by rwa [Nat.mul_comm]), Nat.mod_lt flat hpos⟩

theorem row_add_div {j n : Nat} (i : Nat) (hj : j < n) : (i * n + j) / n = i := by
  rw [Nat.mul_comm, Nat.mul_add_div (Nat.zero_lt_of_lt hj), Nat.div_eq_of_lt hj, Nat.add_zero]

theorem row_add_mod {j n : Nat} (i : Nat) (hj : j < n) : (i * n + j) % n = j := by
  rw [Nat.mul_comm, Nat.mul_add_mod, Nat.mod_eq_of_lt hj]

/-- A position within the bounds of every axis is below the volume. -/
theorem rank_lt_volume {shape index : List Nat} (h : List.Forall₂ (· < ·) index shape) :
    rank shape index < volume shape := by
  induction h with
  | nil => exact Nat.one_pos
  | cons hi _ ih => exact row_add_lt hi ih

/-- Remainders by the extents are within the bounds, where no extent is zero. -/
theorem forall₂_zipWith_mod {index shape : List Nat} (hlength : index.length = shape.length)
    (hpos : ∀ n ∈ shape, 0 < n) :
    List.Forall₂ (· < ·) (List.zipWith (· % ·) index shape) shape := by
  induction shape generalizing index with
  | nil =>
      rw [List.zipWith_nil_right]
      exact .nil
  | cons n rest ih =>
      cases index with
      | nil => cases hlength
      | cons i index =>
          have hrest := ih (Nat.succ.inj hlength) fun m hm => hpos m (List.mem_cons_of_mem n hm)
          exact .cons (Nat.mod_lt i (hpos n (List.mem_cons_self ..))) hrest

end Shape

/-! ## Reading at positions within the bounds -/

namespace Kernel

variable {α : Type}

/-- What is found at every number below a bound is found for all of them together. -/
theorem exists_mapM_range {f : Nat → Option α} {count : Nat} (h : ∀ i < count, ∃ a, f i = some a) :
    ∃ found, (List.range count).mapM f = some found ∧ found.length = count ∧
      ∀ i < count, found[i]? = f i := by
  induction count with
  | zero => exact ⟨[], rfl, rfl, fun i hi => absurd hi (Nat.not_lt_zero i)⟩
  | succ count ih =>
      obtain ⟨found, hfound, hlength, hget⟩ := ih fun i hi => h i (by omega)
      obtain ⟨last, hlast⟩ := h count (Nat.lt_succ_self count)
      refine ⟨found ++ [last], ?_, by simp [hlength], fun i hi => ?_⟩
      · rw [List.range_succ, List.mapM_append, hfound]
        simp [hlast]
      · rcases Nat.lt_succ_iff_lt_or_eq.mp hi with hlt | rfl
        · rw [List.getElem?_append_left (by omega), hget i hlt]
        · rw [List.getElem?_append_right (by omega), hlength, Nat.sub_self, hlast]
          rfl

/-- The elements of a result are gathered where each is found. -/
theorem exists_gather? {element? : Nat → Option Float} {count : Nat}
    (h : ∀ i < count, ∃ x, element? i = some x) :
    ∃ elements, gather? count element? = some elements ∧ elements.size = count ∧
      ∀ i < count, elements[i]? = element? i := by
  obtain ⟨found, hfound, hlength, hget⟩ := exists_mapM_range h
  refine ⟨found.toArray, ?_, hlength, fun i hi => ?_⟩
  · unfold gather?
    rw [hfound]
    rfl
  · rw [List.getElem?_toArray, hget i hi]

theorem exists_getElem? {elements : Array Float} {i : Nat} (h : i < elements.size) :
    ∃ x, elements[i]? = some x := ⟨elements[i], Array.getElem?_eq_getElem h⟩

/-- A slice within the bounds has as many elements as it says. -/
theorem exists_slice? {elements : Array Float} {start stop : Nat} (hle : start ≤ stop)
    (hstop : stop ≤ elements.size) :
    ∃ slice, slice? elements start stop = some slice ∧ slice.size = stop - start := by
  refine ⟨elements.extract start stop, if_pos ⟨hle, hstop⟩, ?_⟩
  rw [Array.size_extract]
  omega

end Kernel

end TensorCapture
