import TensorCapture.Proofs.Bounds.Computing
import TensorCapture.Proofs.Positions.Ranks

set_option autoImplicit false

/-! # Kernels that move elements stay within bounds

Views, transposes, tiles, rows and pieces compute no element: they take those of one tensor, at
other positions. For each kernel, where it ends the run. A slice begins and ends inside the tensor,
and a tile reads each position modulo the extents it repeats.
-/

namespace TensorCapture.Kernel

variable {mode : Mode} {this : Tensor}

/-! ## Rearrangement -/

/-- Among the extents asked for, a product cannot be formed: that of the extents other than `-1`,
or that of the extents they stand for. -/
def ViewShapeOverflows (shape : List Int64) (count : Nat) : Prop :=
  Word.productSigned? (shape.filter (· ≠ -1)) = none ∨
    ∃ known, Word.productSigned? (shape.filter (· ≠ -1)) = some known ∧
      (shape.count (-1) = 0 ∧ Word.product? (shape.map (chosenExtent 0)) = none ∨
        shape.count (-1) = 1 ∧ 0 < known ∧
          Word.product? (shape.map (chosenExtent (count / known.toInt.toNat))) = none)

/-- There are more positions than a word can count, or those asked for are out of range. -/
def ViewOverflows (this : Tensor) (args : List Value) : Prop :=
  (signedShapeOf args).LeadsTo fun shape =>
    this.numel? = none ∨ ∃ count, this.numel? = some count ∧ ViewShapeOverflows shape count

/-- Extents that are taken for a view have as many positions as the view. -/
theorem conforms_sameSize (shape : List Int64) (resolved : List Nat) (count : Nat) :
    Conforms (Word.product? resolved = none) (fun size => Shape.volume size = count)
      (do
        let size ← Outcome.ofBounded (Word.product? resolved)
        if size ≠ count then fail (.viewOfOtherSize (shape.map Int64.toInt) count)
        else .ok resolved) := by
  refine (conforms_ofBounded _).after fun size _ hsize => ?_
  by_cases hcount : size = count
  · rw [if_neg (not_not.mpr hcount)]
    exact conforms_ok ((Word.eq_volume_of_product? hsize).symm.trans hcount)
  · rw [if_pos hcount]
    exact conforms_fail (by simp)

theorem conforms_viewShape (shape : List Int64) (count : Nat) :
    Conforms (ViewShapeOverflows shape count) (fun size => Shape.volume size = count)
      (viewShape shape count) := by
  refine Conforms.ofBounded_bind fun known hknown => ?_
  by_cases hnone : shape.count (-1) = 0
  · rw [if_pos hnone]
    exact (conforms_sameSize shape _ count).iff (by simp [hnone])
  · rw [if_neg hnone]
    by_cases hone : shape.count (-1) = 1 ∧ 0 < known
    · rw [if_pos hone]
      exact (conforms_sameSize shape _ count).iff (by simp [hone])
    · rw [if_neg hone]
      refine (conforms_fail (by simp)).iff ?_
      simp only [hnone, false_and, false_or, ← and_assoc, false_iff, not_and]
      exact fun h => absurd h hone

theorem conforms_view (h : this.WellFormed) (args : List Value) :
    Conforms (ViewOverflows this args) Value.WellFormed (view this args) := by
  refine (conforms_signedShapeOf args).before fun shape _ _ => ?_
  refine Conforms.ofBounded_bind fun count hcount => ?_
  refine (conforms_viewShape shape count).after fun size _ hsize => conforms_ok ?_
  rw [Word.eq_volume_of_product? hcount] at hsize
  refine Value.wellFormed_tensor.mpr (Tensor.wellFormed_derive this ?_)
  exact (Tensor.wellFormed_iff.mp h).2.of_volume_eq hsize

/-- A matrix has more elements than a word can count. -/
def TransposeOverflows (this : Tensor) : Prop :=
  ∃ r c, this.size = [r, c] ∧ this.isPlaceholder = false ∧ Word.mul? r c = none

/-- Each element of the transpose is one of the matrix. -/
theorem exists_transposed {a : Array Float} {r c : Nat} (ha : a.size = r * c) :
    ∃ elements, gather? (r * c) (fun flat => a[flat % r * c + flat / r]?) = some elements ∧
      elements.size = c * r ∧
      ∀ flat < r * c, elements[flat]? = a[flat % r * c + flat / r]? := by
  have hread : ∀ flat < r * c, ∃ x, a[flat % r * c + flat / r]? = some x := by
    intro flat hflat
    rw [Nat.mul_comm] at hflat
    obtain ⟨hcolumn, hrow⟩ := Shape.div_lt_and_mod_lt hflat
    have hlt : flat % r * c + flat / r < r * c := Shape.row_add_lt hrow hcolumn
    exact exists_getElem? (ha ▸ hlt)
  obtain ⟨elements, hgather, hsize, hget⟩ := exists_gather? hread
  exact ⟨elements, hgather, hsize.trans (Nat.mul_comm r c), hget⟩

theorem conforms_transpose (h : this.WellFormed) :
    Conforms (TransposeOverflows this) Value.WellFormed (transpose this) := by
  obtain ⟨hstride, hfills⟩ := Tensor.wellFormed_iff.mp h
  unfold transpose TransposeOverflows
  split
  · rename_i r c hsize
    rw [hsize] at hstride hfills
    obtain ⟨outer, inner, hstrides⟩ := List.length_eq_two.mp hstride
    have htransposed : ∀ {storage : Storage}, storage.Fills [c, r] →
        (Value.tensor { this.derive [c, r] storage with stride := [inner, outer] }).WellFormed :=
      fun hfills => Value.wellFormed_tensor.mpr (Tensor.wellFormed_iff.mpr ⟨rfl, hfills⟩)
    rw [hstrides]
    cases hstorage : this.storage with
    | placeholder =>
        refine Conforms.iff (conforms_ok (htransposed trivial)) ?_
        simp [Tensor.isPlaceholder, hstorage]
    | dense a =>
        rw [hstorage] at hfills
        suffices hdense : Conforms (Word.mul? r c = none) Value.WellFormed _ from
          hdense.iff (by simp [hsize, Tensor.isPlaceholder, hstorage])
        refine (conforms_ofBounded _).after fun count _ hcount => ?_
        obtain ⟨rfl, -⟩ := Word.mul?_eq_some_iff.mp hcount
        have ha : a.size = r * c := by simpa [Storage.Fills] using hfills
        obtain ⟨elements, hgather, hsize', -⟩ := exists_transposed ha
        have hfound := conforms_found (P := fun elements => elements.size = c * r)
          ⟨elements, hgather, hsize'⟩
        refine hfound.after fun elements _ helements => conforms_ok (htransposed ?_)
        simpa [Storage.Fills] using helements
  · rename_i hmatrix
    refine (conforms_fail (by simp)).iff ?_
    simp only [false_iff, not_exists]
    rintro r c ⟨hsize, -⟩
    exact hmatrix r c hsize

/-- An extent of the tiled shape does not fit a word, or there are more elements than can be
allocated. -/
def TileOverflows (mode : Mode) (this : Tensor) (counts : List Nat) : Prop :=
  counts.length = this.ndim ∧
    ((∃ extents ∈ List.zip this.size counts, Word.mul? extents.1 extents.2 = none) ∨
      mode.erases [this] = false ∧
        Unallocatable (Shape.size? (List.zipWith (· * ·) this.size counts)))

/-- Several bounded computations end the run where one of them has no value. -/
theorem conforms_mapM_ofBounded_then {α β γ : Type} {E : Prop} {Q : γ → Prop} {o : α → Option β}
    {g : α → β} (ho : ∀ a b, o a = some b → b = g a) {items : List α} {f : List β → Kernel γ}
    (hf : Conforms E Q (f (items.map g))) :
    Conforms ((∃ a ∈ items, o a = none) ∨ E) Q
      (items.mapM (fun a => Outcome.ofBounded (o a)) >>= f) := by
  induction items generalizing f with
  | nil => exact hf.iff (by simp)
  | cons item rest ih =>
      suffices hboth : Conforms (o item = none ∨ (∃ a ∈ rest, o a = none) ∨ E) Q _ from
        hboth.iff (by simp [or_assoc])
      rw [List.mapM_cons, bind_assoc]
      refine Conforms.ofBounded_then fun b hb => ?_
      rw [bind_assoc]
      simp only [pure_bind]
      refine ih ?_
      rw [ho item b hb]
      exact hf

/-- No extent of a tiled shape with positions is zero, nor is one that it repeats. -/
theorem pos_of_mem_of_zipWith_mul {size counts : List Nat} (hlength : counts.length = size.length)
    (h : ∀ n ∈ List.zipWith (· * ·) size counts, 0 < n) : ∀ n ∈ size, 0 < n := by
  induction size generalizing counts with
  | nil => simp
  | cons n rest ih =>
      cases counts with
      | nil => simp at hlength
      | cons r counts =>
          rw [List.zipWith_cons_cons, List.forall_mem_cons] at h
          exact List.forall_mem_cons.mpr
            ⟨Nat.pos_of_mul_pos_right h.1, ih (Nat.succ.inj hlength) h.2⟩

/-- Where the cursor is once the axes of these shapes are decoded: the rest is what the axes leave
of the position, and the origin has the indices along them, each taken within the tensor. -/
structure TileCursor.Decodes (size tiled : List Nat) (flat : Nat) (cursor : TileCursor) : Prop where
  left : cursor.left = flat / Shape.volume tiled
  origin : cursor.origin =
    Shape.rank size (List.zipWith (· % ·) (Shape.unravel tiled flat) size)
  scale : cursor.scale = Shape.volume size

theorem TileCursor.Decodes.step {size tiled : List Nat} {flat : Nat} {cursor : TileCursor}
    (h : cursor.Decodes size tiled flat) (n m : Nat) :
    (cursor.step (n, m)).Decodes (n :: size) (m :: tiled) flat where
  left := by
    calc cursor.left / m = flat / Shape.volume tiled / m := by rw [h.left]
      _ = flat / Shape.volume (m :: tiled) := by
        rw [Nat.div_div_eq_div_mul, Nat.mul_comm, Shape.volume_cons]
  origin := by
    -- the new index weighs the positions of the axes behind it
    rw [Shape.unravel_cons, List.zipWith_cons_cons, Shape.rank_cons, ← h.origin, ← h.left,
      ← h.scale]
    exact Nat.add_comm _ _
  scale := by
    rw [Shape.volume_cons, ← h.scale]
    exact Nat.mul_comm _ _

/-- The loop over the axes decodes all of them. -/
theorem decodes_foldr {size tiled : List Nat} (hlength : tiled.length = size.length) (flat : Nat) :
    ((List.zip size tiled).foldr TileCursor.step ⟨flat, 0, 1⟩).Decodes size tiled flat := by
  induction size generalizing tiled with
  | nil =>
      cases List.length_eq_zero_iff.mp hlength
      exact ⟨(Nat.div_one flat).symm, rfl, rfl⟩
  | cons n size ih =>
      cases tiled with
      | nil => cases hlength
      | cons m tiled =>
          rw [List.zip_cons_cons, List.foldr_cons]
          exact (ih (Nat.succ.inj hlength)).step n m

/-- A position of the tiled shape stands for the position at the remainders of its index by the
extents. -/
theorem tileOrigin_eq_rank {size tiled : List Nat} (hlength : tiled.length = size.length)
    (flat : Nat) :
    tileOrigin size tiled flat =
      Shape.rank size (List.zipWith (· % ·) (Shape.unravel tiled flat) size) :=
  (decodes_foldr hlength flat).origin

/-- A position of the tiled shape comes from one of the tensor. -/
theorem tileOrigin_lt {size counts : List Nat} (hlength : counts.length = size.length) {flat : Nat}
    (hflat : flat < Shape.volume (List.zipWith (· * ·) size counts)) :
    tileOrigin size (List.zipWith (· * ·) size counts) flat < Shape.volume size := by
  have htiled : ∀ n ∈ List.zipWith (· * ·) size counts, 0 < n :=
    Shape.volume_pos_iff.mp (Nat.zero_lt_of_lt hflat)
  have hpositive : ∀ n ∈ size, 0 < n := pos_of_mem_of_zipWith_mul hlength htiled
  rw [tileOrigin_eq_rank (by simp [hlength])]
  exact Shape.rank_lt_volume (Shape.forall₂_zipWith_mod (by simp [hlength]) hpositive)

theorem conforms_tiles {counts : List Nat} (h : this.WellFormed)
    (hlength : counts.length = this.ndim) :
    Conforms
      (mode.erases [this] = false ∧
        Unallocatable (Shape.size? (List.zipWith (· * ·) this.size counts)))
      (Storage.Fills (List.zipWith (· * ·) this.size counts))
      (storageUnless (mode.erases [this]) do
        let a ← elementsOf this
        let count ← allocate (Shape.size? (List.zipWith (· * ·) this.size counts))
        Outcome.ofBounded <| gather? count fun flat =>
          a[tileOrigin this.size (List.zipWith (· * ·) this.size counts) flat]?) := by
  refine conforms_storageUnless fun hdense => ?_
  refine conforms_elements h (isPlaceholder_of_erases_false hdense (by simp)) fun a ha => ?_
  refine (conforms_allocate _).after fun count _ hcount => ?_
  rw [Word.eq_volume_of_product? hcount]
  have hread : ∀ flat < Shape.volume (List.zipWith (· * ·) this.size counts), ∃ x,
      a[tileOrigin this.size (List.zipWith (· * ·) this.size counts) flat]? = some x := by
    intro flat hflat
    exact exists_getElem? (ha ▸ tileOrigin_lt hlength hflat)
  obtain ⟨elements, hgather, hsize, -⟩ := exists_gather? hread
  exact conforms_found ⟨elements, hgather, hsize⟩

theorem conforms_tile (h : this.WellFormed) (counts : List Nat) :
    Conforms (TileOverflows mode this counts) Value.WellFormed (tile mode this counts) := by
  unfold tile TileOverflows
  by_cases hlength : counts.length = this.ndim
  · rw [if_neg (not_not.mpr hlength)]
    rw [and_iff_right hlength]
    have hproduct : ∀ (extents : Nat × Nat) (n : Nat), Word.mul? extents.1 extents.2 = some n →
        n = extents.1 * extents.2 := fun _ _ hn => (Word.mul?_eq_some_iff.mp hn).1.symm
    refine conforms_mapM_ofBounded_then hproduct ?_
    have htiled : (List.zip this.size counts).map (fun extents => extents.1 * extents.2) =
        List.zipWith (· * ·) this.size counts := List.map_zip_eq_zipWith
    rw [htiled]
    refine (conforms_tiles h hlength).after fun storage _ hfills => conforms_ok ?_
    exact Value.wellFormed_tensor.mpr (Tensor.wellFormed_derive this hfills)
  · rw [if_pos hlength]
    exact (conforms_fail (by simp)).iff (by simp [hlength])

/-! ## Selection -/

/-- Rows inside the tensor are all there. -/
theorem conforms_rows {first start stop : Nat} {rest : List Nat} (h : this.WellFormed)
    (hsize : this.size = first :: rest) (hle : start ≤ stop) (hstop : stop ≤ first) :
    Conforms False (Storage.Fills ((stop - start) :: rest))
      (rows mode this (Shape.volume rest) start stop) := by
  suffices hstorage : Conforms (mode.erases [this] = false ∧ False) _ _ from
    hstorage.iff (by simp)
  refine conforms_storageUnless fun hdense => ?_
  refine conforms_elements h (isPlaceholder_of_erases_false hdense (by simp)) fun a ha => ?_
  have hrows : stop * Shape.volume rest ≤ a.size := by
    rw [ha, hsize, Shape.volume_cons]
    exact Nat.mul_le_mul_right _ hstop
  obtain ⟨slice, hslice, hlength⟩ := exists_slice? (Nat.mul_le_mul_right _ hle) hrows
  refine conforms_found ⟨slice, hslice, ?_⟩
  rw [hlength, Shape.volume_cons, Nat.sub_mul]

/-- The index cannot be counted from the end, or a row has more positions than a word can count. -/
def SubscriptOverflows (mode : Mode) (container : Value) (index : Int64) : Prop :=
  match container with
  | .tuple items => IndexOverflows index items.length
  | .list items => IndexOverflows index items.length
  | .record _ items => IndexOverflows index items.length
  | .size extents => IndexOverflows index extents.length
  | .tensor this => ∃ first rest, this.size = first :: rest ∧
      (IndexOverflows index first ∨
        (resolveIndex index first).LeadsTo fun _ =>
          mode.erases [this] = false ∧ Word.product? rest = none)
  | _ => False

theorem conforms_itemOf {items : List Value} (h : ∀ v ∈ items, v.WellFormed) (index : Int64) :
    Conforms (IndexOverflows index items.length) Value.WellFormed (itemOf items index) := by
  refine (conforms_resolveIndex index items.length).after fun position _ hlt => ?_
  have hmem : items[position] ∈ items := List.getElem_mem hlt
  exact conforms_found ⟨items[position], List.getElem?_eq_getElem hlt, h _ hmem⟩

theorem conforms_subscriptTensor (h : this.WellFormed) {first : Nat} {rest : List Nat}
    (hsize : this.size = first :: rest) (index : Int64) :
    Conforms
      (IndexOverflows index first ∨
        (resolveIndex index first).LeadsTo fun _ =>
          mode.erases [this] = false ∧ Word.product? rest = none)
      Value.WellFormed
      (do
        let position ← resolveIndex index first
        let storage ←
          if mode.erases [this] then .ok Storage.placeholder
          else do
            let row ← Outcome.ofBounded (Word.product? rest)
            rows mode this row position (position + 1)
        .ok (.tensor (this.derive rest storage))) := by
  refine (conforms_resolveIndex index first).bind fun position _ hlt => ?_
  by_cases herased : mode.erases [this] = true
  · rw [if_pos herased]
    refine (conforms_ok (Value.wellFormed_tensor.mpr ?_)).iff (by simp [herased])
    exact Tensor.wellFormed_derive this trivial
  · rw [if_neg herased]
    refine ((conforms_ofBounded _).after fun row _ hrow => ?_).iff (by simp [herased])
    rw [Word.eq_volume_of_product? hrow]
    refine (conforms_rows h hsize (Nat.le_succ position) hlt).after fun storage _ hfills => ?_
    refine conforms_ok (Value.wellFormed_tensor.mpr (Tensor.wellFormed_derive this ?_))
    exact hfills.of_volume_eq (by simp)

theorem conforms_subscript {container : Value} (h : container.WellFormed) (index : Value) :
    Conforms ((integerOf index).LeadsTo (SubscriptOverflows mode container)) Value.WellFormed
      (subscript mode container index) := by
  refine (conforms_integerOf index).before fun index _ _ => ?_
  unfold SubscriptOverflows
  cases container with
  | tuple items => exact conforms_itemOf (Value.wellFormed_tuple.mp h) index
  | list items => exact conforms_itemOf (Value.wellFormed_list.mp h) index
  | record type items => exact conforms_itemOf (Value.wellFormed_record.mp h) index
  | size extents =>
      refine (conforms_resolveIndex index extents.length).after fun position _ hlt => ?_
      have hfound := conforms_found (P := fun _ => True)
        ⟨extents[position], List.getElem?_eq_getElem hlt, trivial⟩
      exact hfound.after fun extent _ _ => conforms_ok (by simp)
  | tensor this =>
      have hthis : this.WellFormed := Value.wellFormed_tensor.mp h
      cases hsize : this.size with
      | nil =>
          dsimp only
          rw [hsize]
          exact (conforms_fail (by simp)).iff (by simp)
      | cons first rest =>
          dsimp only
          rw [hsize]
          exact (conforms_subscriptTensor hthis hsize index).iff (by simp)
  | _ => exact conforms_fail (by simp)

theorem conforms_length (v : Value) : Conforms False Value.WellFormed (length v) := by
  unfold length
  split
  · split
    · exact conforms_fail (by simp)
    · exact conforms_ok (by simp)
  · exact conforms_ok (by simp)
  · exact conforms_ok (by simp)
  · exact conforms_ok (by simp)
  · exact conforms_fail (by simp)

theorem conforms_item (h : this.WellFormed) : Conforms False Value.WellFormed (item mode this) := by
  unfold item
  by_cases herased : mode.erases [this] = true
  · rw [if_pos herased]
    exact conforms_error (by simp)
  · rw [if_neg herased]
    have hdense : mode.erases [this] = false := Bool.eq_false_iff.mpr herased
    refine conforms_elements h (isPlaceholder_of_erases_false hdense (by simp)) fun a _ => ?_
    split
    · exact conforms_ok (by simp)
    · exact conforms_fail (by simp)

/-! ## Pieces -/

/-- From some piece on, its first row and the length of a piece add up to no word. -/
def RangesOverflow (step first start : Nat) : Prop :=
  ∃ k, start + k * step < first ∧ Word.add? (start + k * step) step = none

/-- The first piece overflows, or one after it does. -/
theorem rangesOverflow_iff {step first start : Nat} (hlt : start < first) :
    RangesOverflow step first start ↔
      Word.add? start step = none ∨ RangesOverflow step first (min (start + step) first) := by
  unfold RangesOverflow
  constructor
  · rintro ⟨k, hk, hnone⟩
    cases k with
    | zero =>
        rw [Nat.zero_mul, Nat.add_zero] at hnone
        exact .inl hnone
    | succ k =>
        have hnext : start + (k + 1) * step = start + step + k * step := by ring
        rw [hnext] at hk hnone
        have hmin : min (start + step) first = start + step := by omega
        rw [hmin]
        exact .inr ⟨k, hk, hnone⟩
  · rintro (hnone | ⟨k, hk, hnone⟩)
    · exact ⟨0, by simpa using hlt, by simpa using hnone⟩
    · have hmin : min (start + step) first = start + step := by omega
      have hnext : start + (k + 1) * step = start + step + k * step := by ring
      rw [hmin] at hk hnone
      exact ⟨k + 1, by rw [hnext]; exact hk, by rw [hnext]; exact hnone⟩

/-- Every piece is a range of rows of the tensor. -/
theorem conforms_ranges {step first : Nat} (hstep : 0 < step) (start : Nat) :
    Conforms (RangesOverflow step first start)
      (fun parts => ∀ part ∈ parts, part.1 ≤ part.2 ∧ part.2 ≤ first)
      (ranges step first start) := by
  induction start using ranges.induct step first with
  | case1 start hinside ih =>
      rw [ranges, dif_pos hinside, rangesOverflow_iff hinside.1]
      refine Conforms.ofBounded_then fun _ _ => ih.after fun rest _ hrest => conforms_ok ?_
      have hpiece : start ≤ min (start + step) first ∧ min (start + step) first ≤ first := by omega
      exact List.forall_mem_cons.mpr ⟨hpiece, hrest⟩
  | case2 start houtside =>
      rw [ranges, dif_neg houtside]
      refine Conforms.iff (conforms_ok (by simp)) ?_
      have hnever : ¬RangesOverflow step first start := by
        rintro ⟨k, hk, -⟩
        omega
      simp [hnever]

/-- A row has more positions than a word can count, or the pieces cannot be laid out in words. -/
def PiecesOverflow (this : Tensor) (count : Int64) : Prop :=
  ∃ first rest, this.size = first :: rest ∧ 0 < count ∧
    (Word.product? rest = none ∨
      RangesOverflow (max (divideUp first count.toInt.toNat) 1) first 0)

theorem conforms_pieces (h : this.WellFormed) (count : Int64) :
    Conforms (PiecesOverflow this count) Value.WellFormed (pieces mode this count) := by
  unfold pieces PiecesOverflow
  split
  · rename_i hscalar
    exact (conforms_fail (by simp)).iff (by simp [hscalar])
  · rename_i first rest hsize
    by_cases hcount : count ≤ 0
    · rw [if_pos hcount]
      have hnot : ¬0 < count := Int64.not_lt.mpr hcount
      exact (conforms_fail (by simp)).iff (by simp [hnot])
    · rw [if_neg hcount]
      have hpositive : 0 < count := Int64.not_le.mp hcount
      suffices hpieces : Conforms (Word.product? rest = none ∨
          RangesOverflow (max (divideUp first count.toInt.toNat) 1) first 0) Value.WellFormed _ from
        hpieces.iff (by simp [hsize, hpositive])
      refine Conforms.ofBounded_then fun row hrow => ?_
      rw [Word.eq_volume_of_product? hrow]
      have hstep : 0 < max (divideUp first count.toInt.toNat) 1 := by omega
      refine (conforms_ranges hstep 0).after fun parts _ hparts => ?_
      have hpiece : ∀ part ∈ parts, Conforms False Value.WellFormed (do
          let storage ← rows mode this (Shape.volume rest) part.1 part.2
          .ok (Value.tensor (this.derive ((part.2 - part.1) :: rest) storage))) := by
        intro part hpart
        obtain ⟨hle, hstop⟩ := hparts part hpart
        refine (conforms_rows h hsize hle hstop).after fun storage _ hfills => conforms_ok ?_
        exact Value.wellFormed_tensor.mpr (Tensor.wellFormed_derive this hfills)
      refine (conforms_mapM hpiece).after fun views _ hviews => conforms_ok ?_
      exact Value.wellFormed_tuple.mpr hviews

/-! ## Nonzero elements -/

/-- A row of coordinates for each position, one for each axis. -/
theorem length_flatten_unravel (size positions : List Nat) :
    ((positions.map (Shape.unravel size)).flatten).length = positions.length * size.length := by
  induction positions with
  | nil => simp
  | cons position rest ih =>
      rw [List.map_cons, List.flatten_cons, List.length_append, ih, Shape.length_unravel,
        List.length_cons]
      ring

theorem conforms_nonzero {input : Value} (h : input.WellFormed) :
    Conforms False Value.WellFormed (nonzero mode input) := by
  suffices hinput : Conforms (∃ this, input = .tensor this ∧ False) Value.WellFormed
      (nonzero mode input) from
    hinput.iff (by simp)
  refine conforms_ofTensor fun this hthis => ?_
  subst hthis
  have hthis : this.WellFormed := Value.wellFormed_tensor.mp h
  by_cases herased : mode.erases [this] = true
  · rw [if_pos herased]
    exact conforms_error (by simp)
  · rw [if_neg herased]
    have hdense : mode.erases [this] = false := Bool.eq_false_iff.mpr herased
    refine conforms_elements hthis (isPlaceholder_of_erases_false hdense (by simp)) fun a _ => ?_
    refine conforms_ok (Value.wellFormed_tensor.mpr (wellFormed_ofElements .i64 ?_))
    rw [List.size_toArray, List.length_map, length_flatten_unravel]
    simp [Tensor.ndim]

end TensorCapture.Kernel
