import TensorCapture.Library.Basic
import TensorCapture.Proofs.Bounds.Moving
import TensorCapture.Proofs.Elements.Completions
import TensorCapture.Proofs.Elements.Entries

set_option autoImplicit false

/-! # Tiles

Copies of a tensor are laid side by side along each axis. The kernel decodes a position of the
result from the last axis on, takes the remainder by the extent along each axis, and adds up the
position in the tensor meanwhile: so the result is periodic along each axis, with the extent as its
period. The entries decide the result, and remainders by a product and then by a factor are those by
the factor: tiles of tiles are tiles.
-/

namespace TensorCapture

/-! ## Indices along all axes -/

/-- Extents that are multiplied twice. -/
theorem zipWith_mul_mul (size counts more : List Nat) :
    List.zipWith (· * ·) (List.zipWith (· * ·) size counts) more =
      List.zipWith (· * ·) size (List.zipWith (· * ·) counts more) := by
  induction size generalizing counts more with
  | nil => rfl
  | cons n size ih =>
      cases counts with
      | nil => rfl
      | cons r counts =>
          cases more with
          | nil => rfl
          | cons q more => simp [ih, Nat.mul_assoc]

/-- A remainder by multiples of the extents has the same remainders by the extents. -/
theorem zipWith_mod_mul_mod {size counts : List Nat} (index : List Nat)
    (hlength : counts.length = size.length) :
    List.zipWith (· % ·) (List.zipWith (· % ·) index (List.zipWith (· * ·) size counts)) size =
      List.zipWith (· % ·) index size := by
  induction size generalizing counts index with
  | nil => simp
  | cons n size ih =>
      cases counts with
      | nil => cases hlength
      | cons r counts =>
          cases index with
          | nil => rfl
          | cons i index => simp [ih _ (Nat.succ.inj hlength)]

/-- Within the bounds an index is its own remainder. -/
theorem zipWith_mod_of_lt {size index : List Nat} (h : List.Forall₂ (· < ·) index size) :
    List.zipWith (· % ·) index size = index := by
  induction h with
  | nil => rfl
  | cons hi _ ih => rw [List.zipWith_cons_cons, ih, Nat.mod_eq_of_lt hi]

theorem zipWith_mul_ones (size : List Nat) :
    List.zipWith (· * ·) size (List.replicate size.length 1) = size := by
  induction size with
  | nil => rfl
  | cons n size ih => simp [List.replicate_succ, ih]

/-! ## What a tiling is -/

namespace Tensor

variable {this tiled other : Tensor} {counts more : List Nat}

/-- The second tensor is made of copies of the first one, so many along each axis: its entry at an
index is the one at the remainders by the extents. Element type, device and gradient flag are those
of the first one; the class is the plain one and the strides are row-major. -/
structure TiledAs (this tiled : Tensor) (counts : List Nat) : Prop where
  size : tiled.size = List.zipWith (· * ·) this.size counts
  stride : tiled.stride = Shape.strides tiled.size
  elementType : tiled.elementType = this.elementType
  device : tiled.device = this.device
  requiresGrad : tiled.requiresGrad = this.requiresGrad
  runtimeClass : tiled.runtimeClass = .tensor
  wellFormed : tiled.WellFormed
  entry : ∀ index, List.Forall₂ (· < ·) index tiled.size → ∃ v,
    tiled.at? index = some v ∧ this.at? (List.zipWith (· % ·) index this.size) = some v
  dense : tiled.isPlaceholder = false

namespace TiledAs

/-- The counts decide the tiling. -/
theorem unique (h : this.TiledAs tiled counts) (h' : this.TiledAs other counts) :
    tiled = other := by
  have hsize : tiled.size = other.size := h.size.trans h'.size.symm
  have hstorage : tiled.storage = other.storage := by
    obtain ⟨elements, helements⟩ := exists_dense h.dense
    obtain ⟨elements', helements'⟩ := exists_dense h'.dense
    refine storage_eq_of_at?_eq h.wellFormed h'.wellFormed helements helements' hsize ?_
    intro index hindex
    obtain ⟨v, hv, hthis⟩ := h.entry index hindex
    obtain ⟨w, hw, hthis'⟩ := h'.entry index (hsize ▸ hindex)
    rw [hv, hw, ← hthis, ← hthis']
  have hstride : tiled.stride = other.stride := by rw [h.stride, h'.stride, hsize]
  have htype := h.elementType.trans h'.elementType.symm
  have hdevice := h.device.trans h'.device.symm
  have hgrad := h.requiresGrad.trans h'.requiresGrad.symm
  have hclass := h.runtimeClass.trans h'.runtimeClass.symm
  cases tiled
  cases other
  simp_all

/-- Tiles of tiles are tiles. -/
theorem trans (h : this.TiledAs tiled counts) (h' : tiled.TiledAs other more)
    (hcounts : counts.length = this.ndim) (hmore : more.length = this.ndim) :
    this.TiledAs other (List.zipWith (· * ·) counts more) where
  size := by rw [h'.size, h.size, zipWith_mul_mul]
  stride := h'.stride
  elementType := h'.elementType.trans h.elementType
  device := h'.device.trans h.device
  requiresGrad := h'.requiresGrad.trans h.requiresGrad
  runtimeClass := h'.runtimeClass
  wellFormed := h'.wellFormed
  dense := h'.dense
  entry := by
    intro index hindex
    have hrank : tiled.size.length = this.ndim := by
      rw [h.size, List.length_zipWith, hcounts]
      exact Nat.min_self _
    have hlength : index.length = tiled.size.length := by
      rw [hindex.length_eq, h'.size, List.length_zipWith, hmore, hrank, Nat.min_self]
    have hpositive : ∀ n ∈ tiled.size, 0 < n := by
      refine Kernel.pos_of_mem_of_zipWith_mul (hmore.trans hrank.symm) ?_
      rw [← h'.size]
      exact Shape.pos_of_forall₂_lt hindex
    obtain ⟨v, hv, htiled⟩ := h'.entry index hindex
    obtain ⟨w, hw, hthis⟩ := h.entry _ (Shape.forall₂_zipWith_mod hlength hpositive)
    refine ⟨v, hv, ?_⟩
    rw [hw] at htiled
    rw [← htiled, ← hthis, h.size, zipWith_mod_mul_mod index hcounts]

/-- One copy along each axis is the tensor itself. -/
theorem ones (h : this.TiledAs tiled (List.replicate this.ndim 1)) (hthis : this.WellFormed)
    (hdense : this.isPlaceholder = false) :
    tiled.size = this.size ∧ tiled.storage = this.storage := by
  have hsize : tiled.size = this.size := h.size.trans (zipWith_mul_ones this.size)
  refine ⟨hsize, ?_⟩
  obtain ⟨elements, helements⟩ := exists_dense h.dense
  obtain ⟨elements', helements'⟩ := exists_dense hdense
  refine storage_eq_of_at?_eq h.wellFormed hthis helements helements' hsize ?_
  intro index hindex
  obtain ⟨v, hv, hentry⟩ := h.entry index hindex
  rw [zipWith_mod_of_lt (hsize ▸ hindex)] at hentry
  rw [hv, hentry]

end TiledAs

end Tensor

/-! ## The library's tiling -/

namespace Kernel

open Tensor

variable {this : Tensor} {args : List Value} {counts : List Nat}

/-- The arguments ask for these counts, one by one, in one sequence, or as extents. -/
def RequestsCounts (args : List Value) (counts : List Nat) : Prop :=
  Requests args (counts.map Word.signed) ∧ ∀ n ∈ counts, n < Word.signedBound

theorem extentOf_signed {n : Nat} (h : n < Word.signedBound) :
    extentOf (Word.signed n) = .ok n := by
  have hvalue : (Word.signed n).toInt = n := toInt_signed h
  have hnonnegative : ¬Word.signed n < 0 := by
    rw [Int64.lt_iff_toInt_lt, hvalue]
    exact not_lt.mpr (Int.natCast_nonneg n)
  unfold extentOf
  rw [if_neg hnonnegative, hvalue, Int.toNat_natCast]

theorem mapM_extentOf_signed (h : ∀ n ∈ counts, n < Word.signedBound) :
    (counts.map Word.signed).mapM extentOf = .ok counts := by
  induction counts with
  | nil => rfl
  | cons n counts ih =>
      obtain ⟨hn, hrest⟩ := List.forall_mem_cons.mp h
      rw [List.map_cons, List.mapM_cons, extentOf_signed hn, ih hrest]
      rfl

theorem shapeOf_of_requestsCounts (h : RequestsCounts args counts) : shapeOf args = .ok counts := by
  obtain ⟨hrequests, hcounts⟩ := h
  unfold shapeOf
  rw [signedShapeOf_of_requests hrequests]
  exact mapM_extentOf_signed hcounts

/-- The extents of the tiled shape are words, and memory holds as many elements as they make,
multiplied from the left. -/
structure TilingFits (size counts : List Nat) : Prop where
  extents : ∀ n ∈ List.zipWith (· * ·) size counts, n < Word.bound
  elements : ∃ n, Word.product? (List.zipWith (· * ·) size counts) = some n ∧ n ≤ Word.allocatable

theorem mapM_mul?_zip {size counts : List Nat}
    (h : ∀ n ∈ List.zipWith (· * ·) size counts, n < Word.bound) :
    ((List.zip size counts).mapM fun (s, r) => Outcome.ofBounded (Word.mul? s r) :
      Kernel (List Nat)) = .ok (List.zipWith (· * ·) size counts) := by
  have hproducts : (List.zip size counts).map (fun extents => extents.1 * extents.2) =
      List.zipWith (· * ·) size counts := List.map_zip_eq_zipWith
  rw [← hproducts] at h ⊢
  refine mapM_eq_ok fun extents hextents => ?_
  have hproduct : Word.mul? extents.1 extents.2 = some (extents.1 * extents.2) :=
    Word.mul?_eq_some_iff.mpr ⟨rfl, h _ (List.mem_map_of_mem hextents)⟩
  simp [hproduct]

/-- A tiling that fits is made. -/
theorem exists_tiledAs (h : this.WellFormed) (hdense : this.isPlaceholder = false)
    (hlength : counts.length = this.ndim) (hfits : TilingFits this.size counts) :
    ∃ tiled, tile .eager this counts = .ok (.tensor tiled) ∧ this.TiledAs tiled counts := by
  obtain ⟨a, ha⟩ := exists_dense hdense
  have hsize : a.size = Shape.volume this.size := size_elements h ha
  obtain ⟨n, hn, hallocated⟩ := hfits.elements
  obtain rfl := Word.eq_volume_of_product? hn
  have hallocate : allocate (Shape.size? (List.zipWith (· * ·) this.size counts)) =
      .ok (Shape.volume (List.zipWith (· * ·) this.size counts)) := allocate_eq_ok hn hallocated
  have hread : ∀ flat < Shape.volume (List.zipWith (· * ·) this.size counts), ∃ x,
      a[tileOrigin this.size (List.zipWith (· * ·) this.size counts) flat]? = some x :=
    fun flat hflat => exists_getElem? (hsize ▸ tileOrigin_lt hlength hflat)
  obtain ⟨elements, hgather, hfilled, hget⟩ := exists_gather? hread
  refine ⟨this.derive (List.zipWith (· * ·) this.size counts) (.dense elements), ?_, ?_⟩
  · unfold tile
    rw [if_neg (not_not.mpr hlength), mapM_mul?_zip hfits.extents, erases_eager_of_dense hdense,
      elementsOf_eq_ok ha]
    simp only [bind, Except.bind, hallocate, hgather]
    rfl
  · refine ⟨rfl, rfl, rfl, rfl, rfl, rfl, wellFormed_derive this hfilled,
      fun index hindex => ?_, rfl⟩
    have hbounds : List.Forall₂ (· < ·) index (List.zipWith (· * ·) this.size counts) := hindex
    have hrank := Shape.rank_lt_volume hbounds
    obtain ⟨v, hv⟩ := hread _ hrank
    refine ⟨v, ?_, ?_⟩
    · rw [at?_of_dense rfl]
      exact (hget _ hrank).trans hv
    · rw [at?_of_dense ha, ← hv]
      have htiled : (List.zipWith (· * ·) this.size counts).length = this.size.length := by
        rw [List.length_zipWith, hlength]
        exact Nat.min_self _
      rw [tileOrigin_eq_rank htiled, Shape.unravel_rank hbounds]

/-- Any other tiling ends the run. -/
theorem tile_eq_abort (h : this.WellFormed) (hdense : this.isPlaceholder = false)
    (hlength : counts.length = this.ndim) (hfits : ¬TilingFits this.size counts) :
    tile .eager this counts = .error .abort := by
  refine (conforms_tile h counts).ends_iff.mpr ⟨hlength, ?_⟩
  by_contra hnone
  rw [not_or] at hnone
  obtain ⟨hextents, helements⟩ := hnone
  refine hfits ⟨fun n hn => ?_, ?_⟩
  · have hproducts : (List.zip this.size counts).map (fun extents => extents.1 * extents.2) =
        List.zipWith (· * ·) this.size counts := List.map_zip_eq_zipWith
    rw [← hproducts] at hn
    obtain ⟨extents, hmem, rfl⟩ := List.mem_map.mp hn
    by_contra hbound
    exact hextents ⟨extents, hmem, if_neg hbound⟩
  · by_contra hunallocatable
    refine helements ⟨erases_eager_of_dense hdense, fun n hn => ?_⟩
    by_contra hallocated
    exact hunallocatable ⟨n, hn, Nat.not_lt.mp hallocated⟩

end Kernel

open Kernel

theorem Library.callMethod_repeat {lib : Library} (hmode : lib.mode = .eager) {args : List Value}
    {counts : List Nat} (hargs : RequestsCounts args counts) (this : Tensor)
    (kwargs : Named Value) :
    lib.callMethod "repeat" (.tensor this) args kwargs = tile .eager this counts := by
  have hread : lib.callMethod "repeat" (.tensor this) args kwargs =
      shapeOf args >>= tile lib.mode this := rfl
  rw [hread, shapeOf_of_requestsCounts hargs, hmode]
  rfl

/-- **A repeat tiles.** On a tensor with elements, and for one count along each axis, it gives the
copies of the tensor laid side by side: each extent is multiplied by its count, and the entry at an
index is the one at the remainders by the extents. Repeating the result is repeating the tensor by
the products of the counts, and repeating once along each axis changes neither size nor elements.
Only where an extent or the number of elements cannot be formed does the run end instead. -/
theorem repeat_tiles {x : Tensor} (h : x.WellFormed) (hdense : x.isPlaceholder = false)
    {lib : Library} (hmode : lib.mode = .eager) {args : List Value} {counts : List Nat}
    (hargs : RequestsCounts args counts) (hcounts : counts.length = x.ndim)
    (kwargs : Named Value) :
    (TilingFits x.size counts → ∃ y,
      lib.callMethod "repeat" (.tensor x) args kwargs = .ok (.tensor y) ∧ x.TiledAs y counts ∧
      (counts = List.replicate x.ndim 1 → y.size = x.size ∧ y.storage = x.storage) ∧
      ∀ (args' args'' : List Value) (more : List Nat) (kwargs' : Named Value),
        RequestsCounts args' more → RequestsCounts args'' (List.zipWith (· * ·) counts more) →
        more.length = x.ndim → TilingFits y.size more → ∃ z,
          lib.callMethod "repeat" (.tensor y) args' kwargs' = .ok (.tensor z) ∧
          lib.callMethod "repeat" (.tensor x) args'' kwargs' = .ok (.tensor z)) ∧
    (¬TilingFits x.size counts →
      lib.callMethod "repeat" (.tensor x) args kwargs = .error .abort) := by
  rw [Library.callMethod_repeat hmode hargs]
  refine ⟨fun hfits => ?_, tile_eq_abort h hdense hcounts⟩
  obtain ⟨y, hy, htiled⟩ := exists_tiledAs h hdense hcounts hfits
  refine ⟨y, hy, htiled, fun hones => (hones ▸ htiled).ones h hdense, ?_⟩
  intro args' args'' more kwargs' hargs' hargs'' hmore hfits'
  rw [Library.callMethod_repeat hmode hargs', Library.callMethod_repeat hmode hargs'']
  have hrank : y.ndim = x.ndim := by
    unfold Tensor.ndim at hcounts ⊢
    rw [htiled.size, List.length_zipWith, hcounts, Nat.min_self]
  obtain ⟨z, hz, hagain⟩ :=
    exists_tiledAs htiled.wellFormed htiled.dense (hmore.trans hrank.symm) hfits'
  have hwhole : x.TiledAs z (List.zipWith (· * ·) counts more) := htiled.trans hagain hcounts hmore
  have hlength : (List.zipWith (· * ·) counts more).length = x.ndim := by
    rw [List.length_zipWith, hcounts, hmore, Nat.min_self]
  have hfits'' : TilingFits x.size (List.zipWith (· * ·) counts more) := by
    rw [htiled.size] at hfits'
    obtain ⟨hextents, helements⟩ := hfits'
    rw [zipWith_mul_mul] at hextents helements
    exact ⟨hextents, helements⟩
  obtain ⟨w, hw, hdirect⟩ := exists_tiledAs h hdense hlength hfits''
  exact ⟨z, hz, hdirect.unique hwhole ▸ hw⟩

/-- A column of two is repeated along its rows, and the result along its columns. -/
theorem repeat_tiles_column :
    (Tensor.ofElements [2, 1] #[1, 2] .f32).WellFormed ∧
      RequestsCounts [.size [1, 2]] [1, 2] ∧ TilingFits [2, 1] [1, 2] ∧
      RequestsCounts [.int 2, .bool true] [2, 1] ∧ TilingFits [2, 2] [2, 1] ∧
      ∃ y z, (Library.ofSeed 0).callMethod "repeat" (.tensor (.ofElements [2, 1] #[1, 2] .f32))
          [.size [1, 2]] [] = .ok (.tensor y) ∧
        y.size = [2, 2] ∧
        (Library.ofSeed 0).callMethod "repeat" (.tensor y) [.int 2, .bool true] [] =
          .ok (.tensor z) ∧
        (Library.ofSeed 0).callMethod "repeat" (.tensor (.ofElements [2, 1] #[1, 2] .f32))
          [.int 2, .int 2] [] = .ok (.tensor z) := by
  have h : (Tensor.ofElements [2, 1] #[1, 2] .f32).WellFormed := ⟨rfl, rfl⟩
  have hargs : RequestsCounts [.size [1, 2]] [1, 2] := ⟨.size [1, 2], by decide⟩
  have hfits : TilingFits [2, 1] [1, 2] := ⟨by decide, 4, by decide, by decide⟩
  have hargs' : RequestsCounts [.int 2, .bool true] [2, 1] :=
    ⟨.separate (.cons (.int 2) (.cons (.bool true) .nil)), by decide⟩
  have hargs'' : RequestsCounts [.int 2, .int 2] (List.zipWith (· * ·) [1, 2] [2, 1]) :=
    ⟨.separate (.cons (.int 2) (.cons (.int 2) .nil)), by decide⟩
  have hfits' : TilingFits [2, 2] [2, 1] := ⟨by decide, 8, by decide, by decide⟩
  obtain ⟨hmade, -⟩ := repeat_tiles h rfl (rfl : (Library.ofSeed 0).mode = .eager) hargs rfl []
  obtain ⟨y, hy, htiled, -, hagain⟩ := hmade hfits
  have hsize : y.size = [2, 2] := htiled.size
  obtain ⟨z, hz, hwhole⟩ := hagain _ _ _ [] hargs' hargs'' rfl (hsize ▸ hfits')
  exact ⟨h, hargs, hfits, hargs', hfits', y, z, hy, hsize, hz, hwhole⟩

end TensorCapture
