import TensorCapture.Proofs.Positions.Ranks

set_option autoImplicit false

/-! # Dense layouts

Strides lay a shape out in row-major order when each multi-index within the bounds is found at its
rank. The check for this never looks at an index. It walks the axes from the last to the first,
passes over those of extent one, and compares the stride of any other with the volume of the axes
behind it, kept as a word. Where the volume of the shape fits a word the check is exact; and the
strides of a shape pass it always, also where a zero extent or a saturated product makes both sides
of the comparison something else than a volume.
-/

namespace TensorCapture.Shape

variable {shape stride index : List Nat} {n s expected : Nat}

/-- How far from the first element the one at a multi-index lies. -/
def offset (stride index : List Nat) : Nat := (List.zipWith (· * ·) index stride).sum

/-- In this layout each multi-index within the bounds is found at its rank. -/
def RowMajor (shape stride : List Nat) : Prop :=
  ∀ index, List.Forall₂ (· < ·) index shape → offset stride index = rank shape index

@[simp] theorem offset_cons (s i : Nat) (stride index : List Nat) :
    offset (s :: stride) (i :: index) = i * s + offset stride index := rfl

/-! ## One axis -/

/-- The first multi-index of a shape with positions. -/
theorem forall₂_replicate_zero (hpos : ∀ n ∈ shape, 0 < n) :
    List.Forall₂ (· < ·) (List.replicate shape.length 0) shape := by
  induction shape with
  | nil => exact .nil
  | cons n rest ih =>
      have hrest := ih fun m hm => hpos m (List.mem_cons_of_mem n hm)
      exact .cons (hpos n (List.mem_cons_self ..)) hrest

/-- A layout is row-major if the axes behind the first are, and the first one steps over all of
them, unless it has no second step to take. -/
theorem rowMajor_cons_iff (hn : 0 < n) (hpos : ∀ m ∈ shape, 0 < m) :
    RowMajor (n :: shape) (s :: stride) ↔
      (n = 1 ∨ s = volume shape) ∧ RowMajor shape stride := by
  constructor
  · intro h
    have hrest : RowMajor shape stride := by
      intro index hindex
      have hfirst := h (0 :: index) (.cons hn hindex)
      simpa using hfirst
    refine ⟨?_, hrest⟩
    by_cases hone : n = 1
    · exact .inl hone
    · -- the second step along the axis is at the stride, and its rank is the volume
      have hzeros := forall₂_replicate_zero hpos
      have hbounds : List.Forall₂ (· < ·) (1 :: List.replicate shape.length 0) (n :: shape) :=
        .cons (by omega) hzeros
      have hstep := h _ hbounds
      have hsame := hrest _ hzeros
      rw [offset_cons, rank_cons] at hstep
      exact .inr (by omega)
  · rintro ⟨hfirst, hrest⟩ index hindex
    cases hindex with
    | cons hi hindex =>
        rename_i i index
        rw [offset_cons, rank_cons, hrest index hindex]
        rcases hfirst with hone | rfl
        · have hzero : i = 0 := by omega
          simp [hzero]
        · rfl

/-! ## The check -/

theorem denseStep_cons (n s : Nat) (shape stride : List Nat) :
    denseStep (n :: shape) (s :: stride) =
      (denseStep shape stride).bind fun expected =>
        if n = 1 then some expected
        else if s = expected then some (Word.mulSat expected n)
        else none := rfl

theorem mulSat_of_lt {a b : Nat} (h : a * b < Word.bound) : Word.mulSat a b = a * b := by
  have hle : a * b ≤ Word.largest := by
    unfold Word.largest
    omega
  exact Nat.min_eq_left hle

/-- Where the volume fits a word, the check passes for row-major layouts alone, and it has then
found the volume. -/
theorem denseStep_eq_some_iff (hlength : stride.length = shape.length)
    (hpos : ∀ n ∈ shape, 0 < n) (hvolume : volume shape < Word.bound) :
    denseStep shape stride = some expected ↔ expected = volume shape ∧ RowMajor shape stride := by
  induction shape generalizing stride expected with
  | nil =>
      have hnil : stride = [] := List.length_eq_zero_iff.mp hlength
      have hall : RowMajor [] [] := by
        intro index hindex
        cases hindex
        rfl
      subst hnil
      simp [denseStep, hall, eq_comm]
  | cons n rest ih =>
      cases stride with
      | nil => cases hlength
      | cons s stride =>
          obtain ⟨hn, hrest⟩ := List.forall_mem_cons.mp hpos
          rw [volume_cons] at hvolume
          have hsmaller : volume rest < Word.bound :=
            Nat.lt_of_le_of_lt (Nat.le_mul_of_pos_left _ hn) hvolume
          have hnext : Word.mulSat (volume rest) n = n * volume rest := by
            rw [mulSat_of_lt (by rwa [Nat.mul_comm]), Nat.mul_comm]
          rw [denseStep_cons, Option.bind_eq_some_iff, rowMajor_cons_iff hn hrest, volume_cons]
          constructor
          · rintro ⟨found, hfound, hstep⟩
            obtain ⟨rfl, hmajor⟩ := (ih (Nat.succ.inj hlength) hrest hsmaller).mp hfound
            by_cases hone : n = 1
            · rw [if_pos hone] at hstep
              cases hstep
              exact ⟨by rw [hone, Nat.one_mul], .inl hone, hmajor⟩
            · rw [if_neg hone] at hstep
              by_cases hs : s = volume rest
              · rw [if_pos hs, hnext] at hstep
                cases hstep
                exact ⟨rfl, .inr hs, hmajor⟩
              · rw [if_neg hs] at hstep
                cases hstep
          · rintro ⟨rfl, hfirst, hmajor⟩
            have hfound := (ih (Nat.succ.inj hlength) hrest hsmaller).mpr ⟨rfl, hmajor⟩
            refine ⟨volume rest, hfound, ?_⟩
            by_cases hone : n = 1
            · rw [if_pos hone, hone, Nat.one_mul]
            · rw [if_neg hone, if_pos (hfirst.resolve_left hone), hnext]

theorem isContiguous_iff_rowMajor (hlength : stride.length = shape.length)
    (hpos : ∀ n ∈ shape, 0 < n) (hvolume : volume shape < Word.bound) :
    isContiguous shape stride = true ↔ RowMajor shape stride := by
  unfold isContiguous
  rw [Option.isSome_iff_exists]
  constructor
  · rintro ⟨expected, hstep⟩
    exact ((denseStep_eq_some_iff hlength hpos hvolume).mp hstep).2
  · intro hmajor
    exact ⟨volume shape, (denseStep_eq_some_iff hlength hpos hvolume).mpr ⟨rfl, hmajor⟩⟩

/-- In a row-major layout the offsets are the positions, each once. -/
theorem RowMajor.bijOn_offset (h : RowMajor shape stride) :
    Set.BijOn (offset stride) {index | List.Forall₂ (· < ·) index shape}
      (Set.Iio (volume shape)) :=
  (bijOn_rank shape).congr fun index hindex => (h index hindex).symm

theorem denseStep_eq_none_of_length_ne (h : stride.length ≠ shape.length) :
    denseStep shape stride = none := by
  induction shape generalizing stride with
  | nil =>
      cases stride with
      | nil => exact absurd rfl h
      | cons s stride => rfl
  | cons n rest ih =>
      cases stride with
      | nil => rfl
      | cons s stride =>
          have hrest : denseStep rest stride = none := ih fun he => h (congrArg Nat.succ he)
          rw [denseStep_cons, hrest]
          rfl

/-! ## The strides of a shape -/

theorem saturatedSize_le (shape : List Nat) : saturatedSize shape ≤ Word.largest := by
  cases shape with
  | nil => decide
  | cons n rest => exact Nat.min_le_right _ _

/-- The check finds in the strides what they were made of: products that stay at the largest
word. -/
theorem denseStep_strides (shape : List Nat) :
    denseStep shape (strides shape) = some (saturatedSize shape) := by
  induction shape with
  | nil => rfl
  | cons n rest ih =>
      have hstrides : strides (n :: rest) = saturatedSize rest :: strides rest := rfl
      have hsize : saturatedSize (n :: rest) = Word.mulSat (saturatedSize rest) n := rfl
      rw [hstrides, denseStep_cons, ih, Option.bind_some, hsize]
      by_cases hone : n = 1
      · have hsame : Word.mulSat (saturatedSize rest) 1 = saturatedSize rest := by
          unfold Word.mulSat
          rw [Nat.mul_one, Nat.min_eq_left (saturatedSize_le rest)]
        rw [if_pos hone, hone, hsame]
      · rw [if_neg hone, if_pos rfl]

theorem isContiguous_strides (shape : List Nat) : isContiguous shape (strides shape) = true := by
  unfold isContiguous
  rw [denseStep_strides]
  rfl

/-- The strides of a shape whose volume fits a word lay it out in row-major order. -/
theorem rowMajor_strides (hvolume : volume shape < Word.bound) :
    RowMajor shape (strides shape) := by
  intro index hindex
  have hpos := pos_of_forall₂_lt hindex
  have hmajor : RowMajor shape (strides shape) :=
    (isContiguous_iff_rowMajor (length_strides shape) hpos hvolume).mp (isContiguous_strides shape)
  exact hmajor index hindex

end TensorCapture.Shape

namespace TensorCapture

open Shape

/-- **The contiguity check decides dense row-major layout.** For extents of at least one, whose
product fits a word, and as many strides, it passes if and only if every multi-index within the
bounds is found at its row-major rank; then the offsets are the numbers below the number of
elements, without gap or repetition. With another number of strides it never passes, and with the
strides of the shape itself it always does, whatever the extents. -/
theorem contiguous_iff_row_major :
    (∀ shape stride : List Nat, (∀ n ∈ shape, 1 ≤ n) → volume shape < Word.bound →
      stride.length = shape.length →
      (isContiguous shape stride = true ↔
        ∀ index, List.Forall₂ (· < ·) index shape → offset stride index = rank shape index) ∧
      (isContiguous shape stride = true →
        Set.BijOn (offset stride) {index | List.Forall₂ (· < ·) index shape}
          (Set.Iio (volume shape)))) ∧
    (∀ shape stride : List Nat, stride.length ≠ shape.length →
      isContiguous shape stride = false) ∧
    ∀ shape : List Nat, isContiguous shape (strides shape) = true := by
  refine ⟨fun shape stride hpos hvolume hlength => ?_, fun shape stride hlength => ?_,
    isContiguous_strides⟩
  · have hiff := isContiguous_iff_rowMajor hlength hpos hvolume
    exact ⟨hiff, fun hpasses => (hiff.mp hpasses).bijOn_offset⟩
  · unfold isContiguous
    rw [denseStep_eq_none_of_length_ne hlength]
    rfl

/-- Three rows of four, behind an axis of extent one with a stride of its own. -/
theorem contiguous_iff_row_major_rows :
    (∀ n ∈ [1, 3, 4], 1 ≤ n) ∧ volume [1, 3, 4] < Word.bound ∧
      [99, 4, 1].length = [1, 3, 4].length ∧ isContiguous [1, 3, 4] [99, 4, 1] = true ∧
      Set.BijOn (offset [99, 4, 1]) {index | List.Forall₂ (· < ·) index [1, 3, 4]}
        (Set.Iio 12) ∧
      [1].length ≠ [3, 4].length ∧ isContiguous [3, 4] [1] = false := by
  obtain ⟨hiff, hmismatch, -⟩ := contiguous_iff_row_major
  have hpos : ∀ n ∈ [1, 3, 4], 1 ≤ n := by decide
  have hvolume : volume [1, 3, 4] < Word.bound := by decide
  have hpasses : isContiguous [1, 3, 4] [99, 4, 1] = true := by decide
  obtain ⟨-, hbij⟩ := hiff [1, 3, 4] [99, 4, 1] hpos hvolume rfl
  have hlength : [1].length ≠ [3, 4].length := by decide
  exact ⟨hpos, hvolume, rfl, hpasses, hbij hpasses, hlength, hmismatch [3, 4] [1] hlength⟩

end TensorCapture
