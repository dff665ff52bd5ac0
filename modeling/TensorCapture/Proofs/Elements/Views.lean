import TensorCapture.Proofs.Bounds.Moving
import TensorCapture.Proofs.Elements.Completions
import TensorCapture.Proofs.Positions.Contiguous

set_option autoImplicit false

/-! # Views

The library finds the extent that is left open by one division, and tests it by forming the product
again. So a view is given exactly where its request has one completion, except that extents below
`-1` are taken for zero before the test. On a tensor with elements the test then fails, but on one
without elements it passes.
-/

namespace TensorCapture

namespace Kernel

variable {args : List Value} {requested : List Int64} {count : Nat} {size : List Nat}

/-! ## The library's choice -/

/-- No extent is left open, or one is and the others make a positive product. -/
def Inferable (requested : List Int64) : Prop :=
  requested.count (-1) = 0 ∨ requested.count (-1) = 1 ∧ 0 < knownVolume requested

instance (requested : List Int64) : Decidable (Inferable requested) :=
  inferInstanceAs (Decidable (_ ∨ _))

/-- The extents that are tried: the open one is what the others leave of the count. -/
def triedShape (requested : List Int64) (count : Nat) : List Nat :=
  requested.map (chosenExtent (count / (knownVolume requested).toNat))

/-- The extents that are tried are taken where they have as many positions as the tensor. -/
def testShape (requested : List Int64) (count : Nat) (shape : List Nat) : Kernel (List Nat) := do
  let size ← Outcome.ofBounded (Word.product? shape)
  if size ≠ count then fail (.viewOfOtherSize (requested.map Int64.toInt) count)
  else .ok shape

/-- The beginning of a product other than zero is no larger than the whole. -/
theorem natAbs_prod_le_of_isPrefix {xs ys : List Int} (h : ys <+: xs) (hne : xs.prod ≠ 0) :
    ys.prod.natAbs ≤ xs.prod.natAbs := by
  obtain ⟨zs, rfl⟩ := h
  rw [List.prod_append] at hne ⊢
  have hzs : zs.prod ≠ 0 := right_ne_zero_of_mul hne
  rw [Int.natAbs_mul]
  exact Nat.le_mul_of_pos_right _ (Int.natAbs_pos.mpr hzs)

/-- The extents that are tried never overflow: with the open one they divide into the count. -/
theorem product?_triedShape (hfits : ProductsFit requested) (hcount : count < Word.bound)
    (h : Inferable requested) :
    Word.product? (triedShape requested count) =
      some (Shape.volume (triedShape requested count)) := by
  refine Word.product?_eq_some fun ys hys => ?_
  obtain ⟨shape, hshape, rfl⟩ := List.prefix_map_iff.mp hys
  have hbegins : shape.filter (· ≠ -1) <+: requested.filter (· ≠ -1) := hshape.filter _
  have hle := volume_toNat_le (shape.filter (· ≠ -1))
  obtain ⟨hlower, hupper⟩ := hfits _ hbegins
  rw [volume_map_chosenExtent]
  have hcounts : shape.count (-1) ≤ requested.count (-1) := hshape.sublist.count_le _
  have hword : (2 : Nat) ^ 63 < Word.bound := by decide
  by_cases hclosed : shape.count (-1) = 0
  · -- before the open extent, only extents that were asked for are multiplied
    rw [hclosed, Nat.pow_zero, Nat.one_mul]
    omega
  · -- behind it, what is multiplied divides the product that the count was divided by
    obtain ⟨hopen, hpositive⟩ := h.resolve_left (by omega)
    have hone : shape.count (-1) = 1 := by omega
    have hpart := natAbs_prod_le_of_isPrefix (hbegins.map Int64.toInt) hpositive.ne'
    have hknown : (knownVolume requested).natAbs = (knownVolume requested).toNat := by omega
    rw [hone, Nat.pow_one]
    calc count / (knownVolume requested).toNat *
          Shape.volume ((shape.filter (· ≠ -1)).map fun d => d.toInt.toNat)
        ≤ count / (knownVolume requested).toNat * (knownVolume requested).toNat :=
          Nat.mul_le_mul_left _ (hle.trans (hknown ▸ hpart))
      _ ≤ count := Nat.div_mul_le_self ..
      _ < Word.bound := hcount

/-- The one shape that is tried is taken where it has as many positions as the tensor. -/
theorem viewShape_eq (hfits : ProductsFit requested) (hcount : count < Word.bound) :
    viewShape requested count =
      if Inferable requested then
        if Shape.volume (triedShape requested count) = count then .ok (triedShape requested count)
        else fail (.viewOfOtherSize (requested.map Int64.toInt) count)
      else fail .inferredExtents := by
  obtain ⟨known, hknown, hvalue⟩ := Word.productSigned?_eq_some hfits
  have hvalue' : known.toInt = knownVolume requested := hvalue
  have hpositive : 0 < known ↔ 0 < knownVolume requested := by
    rw [Int64.lt_iff_toInt_lt, hvalue']
    rfl
  have hrun : viewShape requested count =
      if requested.count (-1) = 0 then
        testShape requested count (requested.map (chosenExtent 0))
      else if requested.count (-1) = 1 ∧ 0 < known then
        testShape requested count (requested.map (chosenExtent (count / known.toInt.toNat)))
      else fail .inferredExtents := by
    unfold viewShape
    rw [hknown]
    rfl
  have htest : Inferable requested → testShape requested count (triedShape requested count) =
      if Shape.volume (triedShape requested count) = count then .ok (triedShape requested count)
      else fail (.viewOfOtherSize (requested.map Int64.toInt) count) := by
    intro hinferable
    unfold testShape
    rw [product?_triedShape hfits hcount hinferable]
    exact ite_not ..
  rw [hrun]
  by_cases hclosed : requested.count (-1) = 0
  · have hinferable : Inferable requested := .inl hclosed
    rw [if_pos hclosed, if_pos hinferable, map_chosenExtent_congr hclosed 0]
    exact htest hinferable
  · rw [if_neg hclosed]
    by_cases hopen : requested.count (-1) = 1 ∧ 0 < known
    · have hinferable : Inferable requested := .inr ⟨hopen.1, hpositive.mp hopen.2⟩
      rw [if_pos hopen, if_pos hinferable, hvalue']
      exact htest hinferable
    · have hnot : ¬Inferable requested := by
        rintro (hnone | ⟨hone, hknown⟩)
        · exact hclosed hnone
        · exact hopen ⟨hone, hpositive.mpr hknown⟩
      rw [if_neg hopen, if_neg hnot]

variable {this : Tensor}

/-- Where no extent is below `-1`, a shape is found exactly where there is one completion. -/
theorem inferable_iff_completes (hleast : ∀ d ∈ requested, -1 ≤ d.toInt) :
    Inferable requested ∧ Shape.volume (triedShape requested count) = count ↔
      requested.count (-1) ≤ 1 ∧ ∃! extents, Completes requested count extents := by
  unfold Inferable triedShape
  have hcases : requested.count (-1) = 0 ∨ requested.count (-1) = 1 ∨
      1 < requested.count (-1) := by omega
  rcases hcases with hclosed | hopen | hmany
  · have hunique : (∃! extents, Completes requested count extents) ↔ Shape.volume
        (requested.map (chosenExtent (count / (knownVolume requested).toNat))) = count :=
      existsUnique_completes_of_closed hclosed hleast
    rw [hunique]
    simp [hclosed]
  · rw [existsUnique_completes_of_open hopen hleast]
    simp [hopen]
  · constructor
    · rintro ⟨hclosed | ⟨hopen, -⟩, -⟩
      · omega
      · omega
    · rintro ⟨hfew, -⟩
      omega

/-- On a tensor with elements an extent below `-1` decides nothing that its being refused would
not. -/
theorem answered_iff_completes (h : count ≠ 0 ∨ ∀ d ∈ requested, -1 ≤ d.toInt) :
    Inferable requested ∧ Shape.volume (triedShape requested count) = count ↔
      requested.count (-1) ≤ 1 ∧ ∃! extents, Completes requested count extents := by
  by_cases hleast : ∀ d ∈ requested, -1 ≤ d.toInt
  · exact inferable_iff_completes hleast
  · -- neither side holds where an extent is below -1
    have hpositions : count ≠ 0 := h.resolve_right hleast
    constructor
    · rintro ⟨-, hvolume⟩
      exact absurd (least_of_volume_ne_zero (hvolume.trans_ne hpositions)) hleast
    · rintro ⟨-, extents, hcompletes, -⟩
      exact absurd (least_of_completes hcompletes) hleast

/-- The shape that is taken is the completion. -/
theorem completes_triedShape (h : count ≠ 0 ∨ ∀ d ∈ requested, -1 ≤ d.toInt)
    (hinferable : Inferable requested)
    (hvolume : Shape.volume (triedShape requested count) = count) :
    Completes requested count (triedShape requested count) := by
  have hleast : ∀ d ∈ requested, -1 ≤ d.toInt := by
    rcases h with hpositions | hleast
    · exact least_of_volume_ne_zero (hvolume.trans_ne hpositions)
    · exact hleast
  have hfew : requested.count (-1) ≤ 1 := by
    rcases hinferable with hclosed | ⟨hopen, -⟩
    · omega
    · omega
  exact ⟨(forall₂_iff_chosenExtent hfew hleast).mpr ⟨_, rfl⟩, hvolume⟩

/-! ## Views of a tensor -/

theorem view_eq (hread : Requests args requested) (hcount : this.numel? = some count) :
    view this args =
      (viewShape requested count).map fun size => .tensor (this.derive size this.storage) := by
  unfold view
  rw [signedShapeOf_of_requests hread, hcount]
  show viewShape requested count >>= _ = _
  cases viewShape requested count <;> rfl

/-- The answer is the tensor in the shape that was tried. -/
theorem view_eq_ok_iff {answer : Value} (hread : Requests args requested)
    (hcount : this.numel? = some count) (hfits : ProductsFit requested) :
    view this args = .ok answer ↔
      (Inferable requested ∧ Shape.volume (triedShape requested count) = count) ∧
        answer = .tensor (this.derive (triedShape requested count) this.storage) := by
  rw [view_eq hread hcount, viewShape_eq hfits (Word.lt_bound_of_product? hcount)]
  by_cases hinferable : Inferable requested
  · by_cases hvolume : Shape.volume (triedShape requested count) = count
    · simp [hinferable, hvolume, Except.map, eq_comm]
    · simp [hinferable, hvolume, Except.map, fail, Outcome.fail]
  · simp [hinferable, Except.map, fail, Outcome.fail]

/-- Anything else is reported: no product ends the run. -/
theorem view_eq_error {fault : Fault LibraryError} (hread : Requests args requested)
    (hcount : this.numel? = some count) (hfits : ProductsFit requested)
    (h : view this args = .error fault) :
    fault = .error (.failed .inferredExtents) ∨
      fault = .error (.failed (.viewOfOtherSize (requested.map Int64.toInt) count)) := by
  rw [view_eq hread hcount, viewShape_eq hfits (Word.lt_bound_of_product? hcount)] at h
  by_cases hinferable : Inferable requested
  · rw [if_pos hinferable] at h
    by_cases hvolume : Shape.volume (triedShape requested count) = count
    · rw [if_pos hvolume] at h
      cases h
    · rw [if_neg hvolume] at h
      cases h
      exact .inr rfl
  · rw [if_neg hinferable] at h
    cases h
    exact .inl rfl

/-- A view asks no other question of the tensor than for its elements and their number. -/
theorem view_derive (hcount : Shape.size? size = this.numel?) (args : List Value) :
    view (this.derive size this.storage) args = view this args := by
  have hnumel : (this.derive size this.storage).numel? = this.numel? := hcount
  unfold view
  rw [hnumel]
  rfl

end Kernel

/-- The second tensor has the elements of the first in the same order, and lays them out densely
in row-major order. -/
structure Tensor.ViewedAs (this view : Tensor) : Prop where
  elementType : view.elementType = this.elementType
  device : view.device = this.device
  requiresGrad : view.requiresGrad = this.requiresGrad
  runtimeClass : view.runtimeClass = .tensor
  storage : view.storage = this.storage
  stride : view.stride = Shape.strides view.size
  rowMajor : Shape.RowMajor view.size view.stride
  wellFormed : view.WellFormed

theorem Tensor.viewedAs_derive {this : Tensor} {size : List Nat} {count : Nat}
    (h : this.WellFormed) (hcount : this.numel? = some count)
    (hvolume : Shape.volume size = count) : this.ViewedAs (this.derive size this.storage) := by
  have hword : Shape.volume size < Word.bound := hvolume ▸ Word.lt_bound_of_product? hcount
  have hsame : Shape.volume size = Shape.volume this.size :=
    hvolume.trans (Word.eq_volume_of_product? hcount)
  have hfills : this.storage.Fills size := (wellFormed_iff.mp h).2.of_volume_eq hsame
  exact ⟨rfl, rfl, rfl, rfl, rfl, rfl, Shape.rowMajor_strides hword, wellFormed_derive this hfills⟩

open Kernel

theorem Library.callMethod_view (lib : Library) {name : String}
    (h : name = "view" ∨ name = "reshape") (this : Tensor) (args : List Value)
    (kwargs : Named Value) :
    lib.callMethod name (.tensor this) args kwargs = Kernel.view this args := by
  rcases h with rfl | rfl <;> rfl

/-- **A view is given exactly where the request has one completion.** At most one extent may be
left open, none may be below `-1`, and exactly one choice of the open extent must make as many
positions as the tensor has. On a tensor with elements nothing else decides; on one without, an
extent below `-1` passes for zero, and an answer is given all the same where no extent is left
open or the others make a positive product. The answer has the extents of the completion, the
elements of the tensor in the same row-major order, and row-major strides; a view of it is that
view of the tensor. What is not answered is reported as an error. -/
theorem view_accepts_single_completions :
    ∀ (lib : Library) (name : String) (this : Tensor) (args : List Value) (kwargs : Named Value)
      (requested : List Int64) (count : Nat),
      name = "view" ∨ name = "reshape" → this.WellFormed → this.numel? = some count →
      Requests args requested → ProductsFit requested →
      (count ≠ 0 ∨ (∀ d ∈ requested, -1 ≤ d) →
        ((∃ answer, lib.callMethod name (.tensor this) args kwargs = .ok answer) ↔
          requested.count (-1) ≤ 1 ∧ ∃! extents, Completes requested count extents)) ∧
      (count = 0 → (∃ d ∈ requested, d < -1) →
        ((∃ answer, lib.callMethod name (.tensor this) args kwargs = .ok answer) ↔
          requested.count (-1) = 0 ∨ requested.count (-1) = 1 ∧ 0 < knownVolume requested)) ∧
      (∀ answer, lib.callMethod name (.tensor this) args kwargs = .ok answer →
        ∃ view, answer = .tensor view ∧ this.ViewedAs view ∧
          (count ≠ 0 ∨ (∀ d ∈ requested, -1 ≤ d) → Completes requested count view.size) ∧
          ∀ (lib' : Library) (name' : String) (args' : List Value) (kwargs' : Named Value),
            name' = "view" ∨ name' = "reshape" →
              lib'.callMethod name' (.tensor view) args' kwargs' =
                lib'.callMethod name' (.tensor this) args' kwargs') ∧
      (∀ fault, lib.callMethod name (.tensor this) args kwargs = .error fault →
        fault = .error (.failed .inferredExtents) ∨
          fault = .error (.failed (.viewOfOtherSize (requested.map Int64.toInt) count))) := by
  intro lib name this args kwargs requested count hname hthis hcount hread hfits
  rw [lib.callMethod_view hname]
  have hanswered : (∃ answer, Kernel.view this args = .ok answer) ↔
      Inferable requested ∧ Shape.volume (triedShape requested count) = count := by
    simp [view_eq_ok_iff hread hcount hfits]
  have hleast_iff : (∀ d ∈ requested, -1 ≤ d) ↔ ∀ d ∈ requested, -1 ≤ d.toInt := by
    simp only [Int64.le_iff_toInt_le]
    rfl
  rw [hleast_iff]
  refine ⟨fun hdecides => ?_, fun hempty hbelow => ?_, fun answer hanswer => ?_,
    fun fault hfault => view_eq_error hread hcount hfits hfault⟩
  · rw [hanswered]
    exact answered_iff_completes hdecides
  · rw [hanswered]
    have hvolume : Shape.volume (triedShape requested count) = count := by
      rw [hempty]
      by_contra hne
      obtain ⟨d, hd, hd'⟩ := hbelow
      have hlower : -1 ≤ d := hleast_iff.mpr (least_of_volume_ne_zero hne) d hd
      exact absurd hd' (Int64.not_lt.mpr hlower)
    simp [hvolume, Inferable]
  · obtain ⟨⟨hinferable, hvolume⟩, rfl⟩ := (view_eq_ok_iff hread hcount hfits).mp hanswer
    refine ⟨_, rfl, Tensor.viewedAs_derive hthis hcount hvolume,
      fun hdecides => completes_triedShape hdecides hinferable hvolume, ?_⟩
    have hnumel : Shape.size? (triedShape requested count) = this.numel? := by
      calc Shape.size? (triedShape requested count)
          = some (Shape.volume (triedShape requested count)) :=
            product?_triedShape hfits (Word.lt_bound_of_product? hcount) hinferable
        _ = some count := by rw [hvolume]
        _ = this.numel? := hcount.symm
    intro lib' name' args' kwargs' hname'
    rw [lib'.callMethod_view hname', lib'.callMethod_view hname', view_derive hnumel]

/-- Six elements in two columns: the number of rows is left open, and only three will do. -/
theorem view_accepts_single_completions_columns :
    (Tensor.ofElements [6] #[0, 1, 2, 3, 4, 5] .f32).WellFormed ∧
      (Tensor.ofElements [6] #[0, 1, 2, 3, 4, 5] .f32).numel? = some 6 ∧
      Requests [.int (-1), .int 2] [-1, 2] ∧ ProductsFit [-1, 2] ∧
      (Library.ofSeed 0).callMethod "view" (.tensor (.ofElements [6] #[0, 1, 2, 3, 4, 5] .f32))
        [.int (-1), .int 2] [] = .ok (.tensor (.ofElements [3, 2] #[0, 1, 2, 3, 4, 5] .f32)) ∧
      ∃! extents, Completes [-1, 2] 6 extents := by
  have hthis : (Tensor.ofElements [6] #[0, 1, 2, 3, 4, 5] .f32).WellFormed := ⟨rfl, rfl⟩
  have hread : Requests [.int (-1), .int 2] [-1, 2] :=
    .separate (.cons (.int (-1)) (.cons (.int 2) .nil))
  have hfits : ProductsFit [-1, 2] := by decide
  have hanswer : (Library.ofSeed 0).callMethod "view"
      (.tensor (.ofElements [6] #[0, 1, 2, 3, 4, 5] .f32)) [.int (-1), .int 2] [] =
        .ok (.tensor (.ofElements [3, 2] #[0, 1, 2, 3, 4, 5] .f32)) := rfl
  obtain ⟨hiff, -⟩ := view_accepts_single_completions (Library.ofSeed 0) "view"
    (.ofElements [6] #[0, 1, 2, 3, 4, 5] .f32) [.int (-1), .int 2] [] [-1, 2] 6 (.inl rfl) hthis
    rfl hread hfits
  exact ⟨hthis, rfl, hread, hfits, hanswer, ((hiff (.inl (by decide))).mp ⟨_, hanswer⟩).2⟩

/-- The empty tensor is viewed with an extent of minus two, which is taken for zero. -/
theorem exists_view_of_negative_extent :
    (Tensor.ofElements [0] #[] .f32).WellFormed ∧
      (Tensor.ofElements [0] #[] .f32).numel? = some 0 ∧
      Requests [.int (-2), .int 3] [-2, 3] ∧ ProductsFit [-2, 3] ∧
      (Library.ofSeed 0).callMethod "view" (.tensor (.ofElements [0] #[] .f32))
        [.int (-2), .int 3] [] = .ok (.tensor (.ofElements [0, 3] #[] .f32)) ∧
      ¬∃ extents, Completes [-2, 3] 0 extents := by
  refine ⟨⟨rfl, rfl⟩, rfl, .separate (.cons (.int (-2)) (.cons (.int 3) .nil)), by decide, rfl, ?_⟩
  rintro ⟨extents, hcompletes⟩
  have hlower : -1 ≤ (-2 : Int64).toInt :=
    least_of_completes hcompletes (-2) (List.mem_cons_self ..)
  exact absurd hlower (by decide)

end TensorCapture
