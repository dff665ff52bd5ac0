import TensorCapture.Library.Basic
import TensorCapture.Proofs.Bounds.Conforms

set_option autoImplicit false

/-! # Kernels that compute elements stay within bounds

For each kernel, where it ends the run: only where the number of elements of the result, or a
number that it is counted with, is out of range. No read of an element is. A kernel that finds its
elements by a flat position reads below the product of the extents, at all ranks and for all
extents, zero extents included; where an extent is zero there is no position to read for.
-/

namespace TensorCapture.Kernel

variable {mode : Mode} {this other : Tensor}

/-! ## Elementwise -/

/-- Two tensors of different shapes, the second one with more positions than a word can count. -/
def ElementwiseOverflows (lhs rhs : Value) : Prop :=
  ∃ this, lhs = .tensor this ∧ ∃ other, rhs = .tensor other ∧ other.size ≠ this.size ∧
    other.numel? = none

theorem conforms_onScalar (op : Float → Float) (h : this.WellFormed) :
    Conforms False Value.WellFormed (onScalar mode op this) := by
  have hstorage : Conforms (mode.erases [this] = false ∧ False) (Storage.Fills this.size)
      (storageUnless (mode.erases [this]) do
        let a ← elementsOf this
        .ok (a.map op)) := by
    refine conforms_storageUnless fun hdense => ?_
    have hthis : this.isPlaceholder = false := isPlaceholder_of_erases_false hdense (by simp)
    refine conforms_elements h hthis fun a ha => conforms_ok ?_
    rw [Array.size_map, ha]
  refine (hstorage.after fun storage _ hfills => conforms_ok ?_).iff (by simp)
  exact Value.wellFormed_tensor.mpr (Tensor.wellFormed_derive this hfills)

/-- The second tensor has as many positions as the first one, or one that meets them all. -/
theorem exists_operand {a b : Array Float} {shape shape' : List Nat}
    (ha : a.size = Shape.volume shape) (hb : b.size = Shape.volume shape')
    (hshape : shape' = shape ∨ Shape.volume shape' = 1) {i : Nat} (hi : i < a.size) :
    ∃ y, b[if b.size = 1 then 0 else i]? = some y := by
  by_cases hone : b.size = 1
  · rw [if_pos hone]
    exact exists_getElem? (by omega)
  · rw [if_neg hone]
    have hsame : shape' = shape := hshape.resolve_right fun h => hone (hb.trans h)
    have hsize : b.size = a.size := by rw [hb, ha, hsame]
    exact exists_getElem? (by omega)

/-- The elements of two tensors of which the second one meets the first one can be combined. -/
theorem exists_combined {a b : Array Float} {shape shape' : List Nat}
    (op : Float → Float → Float) (ha : a.size = Shape.volume shape)
    (hb : b.size = Shape.volume shape') (hshape : shape' = shape ∨ Shape.volume shape' = 1) :
    ∃ elements, (gather? a.size fun i => do
      let x ← a[i]?
      let y ← b[if b.size = 1 then 0 else i]?
      some (op x y)) = some elements ∧ elements.size = a.size := by
  have hread : ∀ i < a.size, ∃ z, (do
      let x ← a[i]?
      let y ← b[if b.size = 1 then 0 else i]?
      some (op x y)) = some z := by
    intro i hi
    obtain ⟨x, hx⟩ := exists_getElem? hi
    obtain ⟨y, hy⟩ := exists_operand ha hb hshape hi
    refine ⟨op x y, ?_⟩
    rw [hx, Option.bind_eq_bind, Option.bind_some, hy]
    rfl
  obtain ⟨elements, hgather, hsize, -⟩ := exists_gather? hread
  exact ⟨elements, hgather, hsize⟩

/-- What an operation on two tensors computes from their elements. -/
def combine (mode : Mode) (op : Float → Float → Float) (this other : Tensor) : Kernel Storage :=
  storageUnless (mode.erases [this, other]) do
    let a ← elementsOf this
    let b ← elementsOf other
    Outcome.ofBounded <| gather? a.size fun i => do
      let x ← a[i]?
      let y ← b[if b.size = 1 then 0 else i]?
      some (op x y)

theorem conforms_combine (op : Float → Float → Float) (h : this.WellFormed)
    (h' : other.WellFormed) (hshape : other.size = this.size ∨ Shape.volume other.size = 1) :
    Conforms False (Storage.Fills this.size) (combine mode op this other) := by
  suffices hstorage : Conforms (mode.erases [this, other] = false ∧ False) _ _ from
    hstorage.iff (by simp)
  refine conforms_storageUnless fun hdense => ?_
  refine conforms_elements h (isPlaceholder_of_erases_false hdense (by simp)) fun a ha => ?_
  refine conforms_elements h' (isPlaceholder_of_erases_false hdense (by simp)) fun b hb => ?_
  obtain ⟨elements, hgather, hsize⟩ := exists_combined op ha hb hshape
  exact conforms_found ⟨elements, hgather, hsize.trans ha⟩

theorem conforms_onTensors (name : String) (op : Float → Float → Float) (h : this.WellFormed)
    (h' : other.WellFormed) :
    Conforms (other.size ≠ this.size ∧ other.numel? = none) Value.WellFormed
      (onTensors mode name op this other) := by
  unfold onTensors
  by_cases hsize : other.size = this.size
  · rw [if_neg (not_not.mpr hsize)]
    refine ((conforms_combine op h h' (.inl hsize)).after fun storage _ hfills => ?_).iff
      (by simp [hsize])
    exact conforms_ok (Value.wellFormed_tensor.mpr (Tensor.wellFormed_derive this hfills))
  · rw [if_pos hsize]
    refine ((conforms_ofBounded _).after fun count _ hcount => ?_).iff (by simp [hsize])
    by_cases hone : count = 1
    · rw [if_neg (not_not.mpr hone)]
      have hvolume : Shape.volume other.size = 1 :=
        (Word.eq_volume_of_product? hcount).symm.trans hone
      refine (conforms_combine op h h' (.inr hvolume)).after fun storage _ hfills => ?_
      exact conforms_ok (Value.wellFormed_tensor.mpr (Tensor.wellFormed_derive this hfills))
    · rw [if_pos hone]
      have hfailed : Conforms False (fun _ => False)
          (fail (.shapesDiffer name other.size this.size) : Kernel PUnit) := conforms_fail (by simp)
      exact hfailed.after fun _ _ hnever => hnever.elim

theorem conforms_onTensor (mode : Mode) (name : String) (op : Float → Float → Float) (flip : Bool)
    {v : Value} (h : this.WellFormed) (hv : v.WellFormed) :
    Conforms (∃ other, v = .tensor other ∧ other.size ≠ this.size ∧ other.numel? = none)
      Value.WellFormed (onTensor mode name op flip this v) := by
  cases v with
  | tensor other =>
      exact (conforms_onTensors name _ h (Value.wellFormed_tensor.mp hv)).iff (by simp)
  | _ =>
      refine ((conforms_orFail (by simp) _).after fun number _ _ => ?_).iff (by simp)
      exact conforms_onScalar _ h

theorem conforms_elementwise (name : String) (op : Float → Float → Float) {lhs rhs : Value}
    (hl : lhs.WellFormed) (hr : rhs.WellFormed) :
    Conforms (ElementwiseOverflows lhs rhs) Value.WellFormed
      (elementwise mode name op lhs rhs) := by
  unfold ElementwiseOverflows
  by_cases htensor : ∃ this, lhs = .tensor this
  · obtain ⟨this, rfl⟩ := htensor
    have hthis : this.WellFormed := Value.wellFormed_tensor.mp hl
    exact (conforms_onTensor mode name op false hthis hr).iff (by simp)
  · -- a tensor on the right meets a number on the left, which has no positions to count
    have hnever : ¬∃ this, lhs = .tensor this ∧ ∃ other, rhs = .tensor other ∧
        other.size ≠ this.size ∧ other.numel? = none :=
      fun ⟨this, hthis, _⟩ => htensor ⟨this, hthis⟩
    rw [iff_false_intro hnever]
    cases rhs with
    | tensor this =>
        have hsecond := conforms_onTensor mode name op true
          (Value.wellFormed_tensor.mp hr) hl
        cases lhs with
        | tensor other => exact absurd ⟨other, rfl⟩ htensor
        | _ => exact hsecond.iff (by simp)
    | _ =>
        cases lhs with
        | tensor other => exact absurd ⟨other, rfl⟩ htensor
        | _ => exact conforms_fail (by simp)

/-- A step that takes a tensor. -/
theorem conforms_ofTensor {β : Type} {v : Value} {f : Tensor → Kernel β} {ends : Tensor → Prop}
    {Q : β → Prop} (h : ∀ t, v = .tensor t → Conforms (ends t) Q (f t)) :
    Conforms (∃ t, v = .tensor t ∧ ends t) Q (tensorOf v >>= f) := by
  by_cases htensor : ∃ t, v = .tensor t
  · obtain ⟨t, rfl⟩ := htensor
    exact (h t rfl).iff (by simp)
  · have hnever : ¬∃ t, v = .tensor t ∧ ends t := fun ⟨t, ht, _⟩ => htensor ⟨t, ht⟩
    rw [iff_false_intro hnever]
    cases v with
    | tensor t => exact absurd ⟨t, rfl⟩ htensor
    | _ => exact conforms_fail (by simp)

theorem conforms_unary (op : Float → Float) {v : Value} (hv : v.WellFormed) :
    Conforms False Value.WellFormed (unary mode op v) := by
  have hinput : Conforms (∃ t, v = .tensor t ∧ False) Value.WellFormed (unary mode op v) := by
    refine conforms_ofTensor fun this hthis => ?_
    subst hthis
    exact conforms_onScalar op (Value.wellFormed_tensor.mp hv)
  exact hinput.iff (by simp)

/-! ## Creation -/

/-- A shape asked for has more positions than can be allocated. -/
def FilledOverflows (mode : Mode) (args : List Value) (kwargs : Named Value) : Prop :=
  (shapeOf args).LeadsTo fun size => (elementTypeOf kwargs).LeadsTo fun _ =>
    mode = .eager ∧ Unallocatable (Shape.size? size)

theorem conforms_elementTypeOf (kwargs : Named Value) :
    Conforms False (fun _ => True) (elementTypeOf kwargs) := by
  unfold elementTypeOf
  split
  · exact conforms_ok trivial
  · exact conforms_fail (by simp)
  · exact conforms_ok trivial

/-- As many elements as a shape has positions fill it. -/
theorem wellFormed_ofElements {size : List Nat} {elements : Array Float} (t : ElementType)
    (h : elements.size = Shape.volume size) : (Tensor.ofElements size elements t).WellFormed :=
  Tensor.wellFormed_iff.mpr ⟨Shape.length_strides size, h⟩

theorem wellFormed_placeholder (size : List Nat) (t : ElementType) :
    (Tensor.placeholder size t).WellFormed :=
  Tensor.wellFormed_iff.mpr ⟨Shape.length_strides size, trivial⟩

theorem conforms_filled (value : Float) (args : List Value) (kwargs : Named Value) :
    Conforms (FilledOverflows mode args kwargs) Value.WellFormed
      (filled mode value args kwargs) := by
  refine (conforms_shapeOf args).before fun size _ _ => ?_
  refine (conforms_elementTypeOf kwargs).before fun elementType _ _ => ?_
  cases mode with
  | placeholder =>
      have hresult := Value.wellFormed_tensor.mpr (wellFormed_placeholder size elementType)
      exact (conforms_ok hresult).iff (by simp)
  | eager =>
      refine ((conforms_allocate _).after fun count _ hcount => ?_).iff (by simp)
      refine conforms_ok (Value.wellFormed_tensor.mpr (wellFormed_ofElements elementType ?_))
      rw [Array.size_replicate, Word.eq_volume_of_product? hcount]

theorem conforms_uniform (args : List Value) (kwargs : Named Value) (g : Generator) :
    Conforms (FilledOverflows mode args kwargs) (fun drawn => drawn.1.WellFormed)
      (uniform mode args kwargs g) := by
  refine (conforms_shapeOf args).before fun size _ _ => ?_
  refine (conforms_elementTypeOf kwargs).before fun elementType _ _ => ?_
  cases mode with
  | placeholder =>
      have hresult := Value.wellFormed_tensor.mpr (wellFormed_placeholder size elementType)
      exact Conforms.iff (conforms_ok hresult) (by simp)
  | eager =>
      refine ((conforms_allocate _).after fun count _ hcount => ?_).iff (by simp)
      refine conforms_ok (Value.wellFormed_tensor.mpr (wellFormed_ofElements elementType ?_))
      calc (Generator.nextUnits count g).1.length = count := Generator.length_nextUnits count g
        _ = Shape.volume size := Word.eq_volume_of_product? hcount

/-- A shape asked for has more positions than can be allocated, and its elements are. -/
def ZerosLikeOverflows (mode : Mode) (this : Tensor) (args : List Value) : Prop :=
  (shapeOf args).LeadsTo fun size => mode.erases [this] = false ∧ Unallocatable (Shape.size? size)

theorem conforms_zerosLike (this : Tensor) (args : List Value) :
    Conforms (ZerosLikeOverflows mode this args) Value.WellFormed (zerosLike mode this args) := by
  refine (conforms_shapeOf args).before fun size _ _ => ?_
  have hstorage : Conforms (mode.erases [this] = false ∧ Unallocatable (Shape.size? size))
      (Storage.Fills size) (storageUnless (mode.erases [this]) do
        let count ← allocate (Shape.size? size)
        .ok (Array.replicate count 0.0)) := by
    refine conforms_storageUnless fun _ => (conforms_allocate _).after fun count _ hcount => ?_
    refine conforms_ok ?_
    rw [Array.size_replicate, Word.eq_volume_of_product? hcount]
  refine hstorage.after fun storage _ hfills => conforms_ok ?_
  exact Value.wellFormed_tensor.mpr (Tensor.wellFormed_derive this hfills)

/-! ## Reduction -/

theorem conforms_total (h : this.WellFormed) :
    Conforms False Value.WellFormed (total mode this) := by
  have hstorage : Conforms (mode.erases [this] = false ∧ False) (Storage.Fills [])
      (storageUnless (mode.erases [this]) do
        let a ← elementsOf this
        .ok #[sum a.toList]) := by
    refine conforms_storageUnless fun hdense => ?_
    exact conforms_elements h (isPlaceholder_of_erases_false hdense (by simp)) fun a _ =>
      conforms_ok rfl
  refine (hstorage.after fun storage _ hfills => conforms_ok ?_).iff (by simp)
  exact Value.wellFormed_tensor.mpr (Tensor.wellFormed_derive this hfills)

/-- A product of two extents that fits the allocation fits a word. -/
theorem unallocatable_mul? {m n : Nat} :
    Unallocatable (Word.mul? m n) ↔ Word.allocatable < m * n := by
  unfold Unallocatable Word.mul?
  by_cases hfits : m * n < Word.bound
  · rw [if_pos hfits]
    simp
  · rw [if_neg hfits]
    have hbound : Word.allocatable < Word.bound := by decide
    simp
    omega

/-- The product of two matrices has more entries than can be allocated. -/
def MatmulOverflows (mode : Mode) (lhs rhs : Value) : Prop :=
  ∃ a, lhs = .tensor a ∧ ∃ b, rhs = .tensor b ∧ ∃ m k n, a.size = [m, k] ∧ b.size = [k, n] ∧
    mode.erases [a, b] = false ∧ Word.allocatable < m * n

/-- An entry is found where the row and the column are. -/
theorem exists_entry? {x y : Array Float} {m k n i j : Nat} (hx : x.size = m * k)
    (hy : y.size = k * n) (hi : i < m) (hj : j < n) : ∃ e, entry? x y k n i j = some e := by
  have hread : ∀ p < k, ∃ z, (do
      let a ← x[i * k + p]?
      let b ← y[p * n + j]?
      some (a * b)) = some z := by
    intro p hp
    have hleft : i * k + p < x.size := hx ▸ Shape.row_add_lt hi hp
    have hright : p * n + j < y.size := hy ▸ Shape.row_add_lt hp hj
    obtain ⟨a, ha⟩ := exists_getElem? hleft
    obtain ⟨b, hb⟩ := exists_getElem? hright
    refine ⟨a * b, ?_⟩
    rw [ha, hb]
    rfl
  obtain ⟨products, hproducts, -, -⟩ := exists_mapM_range hread
  refine ⟨sum products, ?_⟩
  unfold entry?
  rw [hproducts]
  rfl

theorem conforms_product (mode : Mode) {a b : Tensor} {m k n : Nat} (h : a.WellFormed)
    (h' : b.WellFormed) (hsize : a.size = [m, k]) (hsize' : b.size = [k, n]) :
    Conforms (mode.erases [a, b] = false ∧ Word.allocatable < m * n) (Storage.Fills [m, n])
      (storageUnless (mode.erases [a, b]) do
        let x ← elementsOf a
        let y ← elementsOf b
        let count ← allocate (Word.mul? m n)
        Outcome.ofBounded <| gather? count fun flat => entry? x y k n (flat / n) (flat % n)) := by
  refine conforms_storageUnless fun hdense => ?_
  refine conforms_elements h (isPlaceholder_of_erases_false hdense (by simp)) fun x hx => ?_
  refine conforms_elements h' (isPlaceholder_of_erases_false hdense (by simp)) fun y hy => ?_
  rw [hsize, Shape.volume_cons, Shape.volume_cons, Shape.volume_nil, Nat.mul_one] at hx
  rw [hsize', Shape.volume_cons, Shape.volume_cons, Shape.volume_nil, Nat.mul_one] at hy
  refine ((conforms_allocate _).iff unallocatable_mul?).after fun count _ hcount => ?_
  obtain ⟨rfl, -⟩ := Word.mul?_eq_some_iff.mp hcount
  have hentry : ∀ flat < m * n, ∃ e, entry? x y k n (flat / n) (flat % n) = some e := by
    intro flat hflat
    obtain ⟨hrow, hcolumn⟩ := Shape.div_lt_and_mod_lt hflat
    exact exists_entry? hx hy hrow hcolumn
  obtain ⟨elements, hgather, hfilled, -⟩ := exists_gather? hentry
  refine conforms_found ⟨elements, hgather, ?_⟩
  rw [hfilled, Shape.volume_cons, Shape.volume_cons, Shape.volume_nil, Nat.mul_one]

theorem conforms_matmul {lhs rhs : Value} (hl : lhs.WellFormed) (hr : rhs.WellFormed) :
    Conforms (MatmulOverflows mode lhs rhs) Value.WellFormed (matmul mode lhs rhs) := by
  refine conforms_ofTensor fun a ha => conforms_ofTensor fun b hb => ?_
  subst ha hb
  split
  · rename_i m k k' n hsize hsize'
    by_cases hinner : k = k'
    · subst hinner
      rw [if_neg (not_not.mpr rfl)]
      have hproduct := conforms_product mode (Value.wellFormed_tensor.mp hl)
        (Value.wellFormed_tensor.mp hr) hsize hsize'
      refine (hproduct.after fun storage _ hfills => conforms_ok ?_).iff (by simp [hsize, hsize'])
      exact Value.wellFormed_tensor.mpr (Tensor.wellFormed_derive a hfills)
    · rw [if_pos hinner]
      refine (conforms_fail (by simp)).iff ?_
      simp only [hsize, hsize', false_iff, not_exists]
      rintro m' k'' n' ⟨hrows, hcolumns, -⟩
      exact hinner (by simp_all)
  · rename_i hmatrices
    refine (conforms_fail (by simp)).iff ?_
    simp only [false_iff, not_exists]
    rintro m k n ⟨hsize, hsize', -⟩
    exact hmatrices m k k n hsize hsize'

/-- A tensor without axes is asked for the only axis it can be said to have. -/
def AxisOfScalar (this : Tensor) (index : Int64) : Prop :=
  this.size = [] ∧ (index = 0 ∨ index = -1)

/-- A step along an axis: a tensor without axes lets one through that it does not have, and the
step ends the run there. -/
theorem conforms_alongAxis {β : Type} {Q : β → Prop} {f : Nat → Kernel β} {N : Nat → Prop}
    (index : Int64) (hscalar : this.size = [] → f 0 = .error .abort)
    (haxis : ∀ axis < this.size.length, Conforms (N axis) Q (f axis)) :
    Conforms
      ((IndexOverflows index (max this.ndim 1) ∨
          (resolveAxis index this.ndim).LeadsTo fun axis => this.size ≠ [] ∧ N axis) ∨
        AxisOfScalar this index)
      Q (resolveAxis index this.ndim >>= f) := by
  unfold AxisOfScalar
  by_cases hsize : this.size = []
  · have hrank : this.ndim = 0 := List.length_eq_zero_iff.mpr hsize
    have hresolve := conforms_resolveAxis index 0
    rw [hrank]
    refine (hresolve.bind (N := fun _ => True) fun axis _ hlt => ?_).iff ?_
    · have hfirst : axis = 0 := Nat.lt_one_iff.mp hlt
      rw [hfirst, hscalar hsize]
      exact ⟨by simp, by simp, fun b hb => by cases hb⟩
    · rw [resolveAxis_leadsTo_iff, resolveAxis_leadsTo_iff]
      simp [hsize]
  · suffices hinside : Conforms (IndexOverflows index (max this.ndim 1) ∨
        (resolveAxis index this.ndim).LeadsTo N) Q _ from
      hinside.iff (by simp [hsize])
    refine (conforms_resolveAxis index this.ndim).bind fun axis _ hlt => haxis axis ?_
    have hpos : 0 < this.size.length := List.length_pos_iff.mpr hsize
    unfold Tensor.ndim at hlt
    omega

/-- The axis cannot be counted from the end, or there are more positions before it or behind it
than a word can count, or more maxima than can be allocated. -/
def MaxOverflows (mode : Mode) (this : Tensor) (index : Int64) : Prop :=
  IndexOverflows index (max this.ndim 1) ∨
    (resolveAxis index this.ndim).LeadsTo fun axis =>
      this.size ≠ [] ∧
        (Word.product? (this.size.take axis) = none ∨
          Word.product? (this.size.drop (axis + 1)) = none ∨
          mode.erases [this] = false ∧
            Word.allocatable < Shape.volume (this.size.eraseIdx axis))

/-- A slice along an axis is found where it is inside the tensor. -/
theorem exists_axisSlice? {data : Array Float} {before extent inner outer offset : Nat}
    (hdata : data.size = before * extent * inner) (houter : outer < before)
    (hoffset : offset < inner) :
    ∃ slice, axisSlice? data extent inner outer offset = some slice ∧ slice.length = extent ∧
      ∀ l < extent, slice[l]? =
        (data[(outer * extent + l) * inner + offset]?).map fun v => (l, v) := by
  have hread : ∀ l < extent, ∃ top,
      ((data[(outer * extent + l) * inner + offset]?).map fun v => (l, v)) = some top := by
    intro l hl
    have hbelow : (outer * extent + l) * inner + offset < before * extent * inner :=
      Shape.row_add_lt (Shape.row_add_lt houter hl) hoffset
    obtain ⟨v, hv⟩ := exists_getElem? (hdata ▸ hbelow)
    refine ⟨(l, v), ?_⟩
    rw [hv]
    rfl
  exact exists_mapM_range hread

/-- There is a maximum for each position outside the axis. -/
theorem exists_tops {data : Array Float} {outer extent inner : Nat}
    (hdata : data.size = outer * extent * inner) :
    ∃ tops, (List.range (outer * inner)).mapM (fun flat =>
        (axisSlice? data extent inner (flat / inner) (flat % inner)).map best) = some tops ∧
      tops.length = outer * inner ∧ ∀ flat < outer * inner, tops[flat]? =
        (axisSlice? data extent inner (flat / inner) (flat % inner)).map best := by
  have htop : ∀ flat < outer * inner, ∃ top,
      (axisSlice? data extent inner (flat / inner) (flat % inner)).map best = some top := by
    intro flat hflat
    obtain ⟨hrow, hcolumn⟩ := Shape.div_lt_and_mod_lt hflat
    obtain ⟨slice, hslice, -⟩ := exists_axisSlice? hdata hrow hcolumn
    refine ⟨best slice, ?_⟩
    rw [hslice]
    rfl
  exact exists_mapM_range htop

/-- The two results of a maximum are well formed where both have the elements of their shape. -/
theorem wellFormed_maxResult {size : List Nat} {values indices : Storage}
    (hvalues : values.Fills size) (hindices : indices.Fills size) :
    (Value.record maxResult
      [.tensor (this.derive size values),
        .tensor { this.derive size indices with
          elementType := .i64, requiresGrad := false }]).WellFormed := by
  rw [Value.wellFormed_record, List.forall_mem_cons, List.forall_mem_singleton]
  exact ⟨Value.wellFormed_tensor.mpr (Tensor.wellFormed_derive this hvalues),
    Value.wellFormed_tensor.mpr (Tensor.wellFormed_derive this hindices)⟩

theorem conforms_maxAlong {input axis : Value} (h : input.WellFormed) :
    Conforms
      (∃ this, input = .tensor this ∧
        (integerOf axis).LeadsTo fun index =>
          MaxOverflows mode this index ∨ AxisOfScalar this index)
      Value.WellFormed (maxAlong mode input axis) := by
  refine conforms_ofTensor fun this hthis => ?_
  subst hthis
  have hthis : this.WellFormed := Value.wellFormed_tensor.mp h
  refine (conforms_integerOf axis).before fun index _ _ => ?_
  refine conforms_alongAxis index (fun hscalar => ?_) fun axis hlt => ?_
  · rw [hscalar, List.take_nil]
    rfl
  · refine Conforms.ofBounded_then fun outer houter => ?_
    rw [List.getElem?_eq_getElem hlt, Outcome.ofBounded_some]
    refine Conforms.ofBounded_then fun inner hinner => ?_
    have hvolume := Shape.volume_eq_around (List.getElem?_eq_getElem hlt)
    have hsize := Shape.volume_eraseIdx this.size axis
    rw [← Word.eq_volume_of_product? houter, ← Word.eq_volume_of_product? hinner] at hvolume hsize
    by_cases herased : mode.erases [this] = true
    · rw [if_pos herased]
      refine (conforms_ok ?_).iff (by simp [herased])
      exact wellFormed_maxResult trivial trivial
    · rw [if_neg herased, hsize]
      have hdense : mode.erases [this] = false := Bool.eq_false_iff.mpr herased
      rw [and_iff_right hdense]
      refine conforms_elements hthis (isPlaceholder_of_erases_false hdense (by simp))
        fun data hdata => ?_
      refine ((conforms_allocate _).iff unallocatable_mul?).after fun count _ hcount => ?_
      obtain ⟨rfl, -⟩ := Word.mul?_eq_some_iff.mp hcount
      refine (conforms_found (exists_tops (hdata.trans hvolume))).after fun tops _ hfound => ?_
      obtain ⟨htops, -⟩ := hfound
      refine conforms_ok (wellFormed_maxResult ?_ ?_)
      · simp [Storage.Fills, htops, hsize]
      · simp [Storage.Fills, htops, hsize]

end TensorCapture.Kernel
