import TensorCapture.Proofs.Bounds.Computing

set_option autoImplicit false

/-! # Operands in the other order

A sum and a product of two tensors have the shape of the first one, and the second one has to meet
it: it has the same shape, or it has one element. The gradient flag is set where either is. The
element type is a floating one rather than another, then the wider one, then the first one. So the
order matters in three cases: for a tensor of one element and a larger one, which meet in one order
only, for two tensors of one element that differ in rank, and for different element types of the
same kind and width. In all others it is irrelevant.
-/

namespace TensorCapture

/-! ## Shapes of one position -/

/-- The number of positions of a shape that has only one is a word. -/
theorem Word.product?_of_volume_eq_one {size : List Nat} (h : Shape.volume size = 1) :
    product? size = some 1 := by
  have hproduct : product? size = some (Shape.volume size) := by
    apply product?_eq_some
    rintro outer ⟨inner, rfl⟩
    rw [Shape.volume_append] at h
    rw [Nat.eq_one_of_mul_eq_one_right h]
    decide
  rw [hproduct, h]

/-! ## Element types -/

namespace ElementType

variable {a b : ElementType}

/-- The order matters for different element types of the same kind and width. -/
theorem promote_comm_iff :
    a.promote b = b.promote a ↔ a = b ∨ a.isFloating ≠ b.isFloating ∨ a.bytes ≠ b.bytes := by
  cases a <;> cases b <;> decide

end ElementType

/-! ## Two tensors -/

namespace Tensor

/-- The second tensor has the shape of the first one, or one element to meet all of those. -/
def Meets (this other : Tensor) : Prop :=
  other.size = this.size ∨ Shape.volume other.size = 1

/-- What is known of the result of an operation on two tensors without their elements. -/
structure Combines (this other result : Tensor) : Prop where
  size : result.size = this.size
  elementType : result.elementType = this.elementType.promote other.elementType
  requiresGrad : result.requiresGrad = (this.requiresGrad || other.requiresGrad)

/-- The result of an operation on two tensors, with these elements. -/
def combined (this other : Tensor) (storage : Storage) : Tensor :=
  { this.derive this.size storage with
    elementType := this.elementType.promote other.elementType
    requiresGrad := this.requiresGrad || other.requiresGrad }

theorem combines_combined (this other : Tensor) (storage : Storage) :
    this.Combines other (this.combined other storage) := ⟨rfl, rfl, rfl⟩

variable {a b x y : Tensor}

/-- The results in both orders have the same gradient flag. -/
theorem Combines.requiresGrad_comm (hx : a.Combines b x) (hy : b.Combines a y) :
    x.requiresGrad = y.requiresGrad := by
  calc x.requiresGrad = (a.requiresGrad || b.requiresGrad) := hx.requiresGrad
    _ = (b.requiresGrad || a.requiresGrad) := Bool.or_comm ..
    _ = y.requiresGrad := hy.requiresGrad.symm

theorem Combines.size_eq_iff (hx : a.Combines b x) (hy : b.Combines a y) :
    x.size = y.size ↔ a.size = b.size := by
  rw [hx.size, hy.size]

theorem Combines.elementType_eq_iff (hx : a.Combines b x) (hy : b.Combines a y) :
    x.elementType = y.elementType ↔ a.elementType = b.elementType ∨
      a.elementType.isFloating ≠ b.elementType.isFloating ∨
        a.elementType.bytes ≠ b.elementType.bytes := by
  rw [hx.elementType, hy.elementType, ElementType.promote_comm_iff]

end Tensor

namespace Kernel

variable {mode : Mode} {a b : Tensor} (name : String) (op : Float → Float → Float)

/-- The elements of two tensors that meet can be combined, unless there are none. -/
theorem exists_combine (mode : Mode) (ha : a.WellFormed) (hb : b.WellFormed) (hmeets : a.Meets b) :
    ∃ storage, combine mode op a b = .ok storage := by
  unfold combine
  cases hdense : mode.erases [a, b] with
  | true => exact ⟨.placeholder, rfl⟩
  | false =>
      obtain ⟨x, hx, hxsize⟩ :=
        exists_elementsOf ha (isPlaceholder_of_erases_false hdense (by simp))
      obtain ⟨y, hy, hysize⟩ :=
        exists_elementsOf hb (isPlaceholder_of_erases_false hdense (by simp))
      obtain ⟨elements, hgather, -⟩ := exists_combined op hxsize hysize hmeets
      refine ⟨.dense elements, ?_⟩
      show Except.map Storage.dense _ = _
      rw [hx, hy]
      show Except.map Storage.dense (Outcome.ofBounded _) = _
      rw [hgather]
      rfl

/-- Two tensors that meet have a result. -/
theorem exists_onTensors (mode : Mode) (ha : a.WellFormed) (hb : b.WellFormed)
    (hmeets : a.Meets b) : ∃ x, a.Combines b x ∧ onTensors mode name op a b = .ok (.tensor x) := by
  obtain ⟨storage, hstorage⟩ := exists_combine op mode ha hb hmeets
  have hresult : (combine mode op a b >>= fun storage => .ok (.tensor (a.combined b storage))) =
      (.ok (.tensor (a.combined b storage)) : Kernel Value) := by
    rw [hstorage]
    rfl
  refine ⟨a.combined b storage, Tensor.combines_combined a b storage, ?_⟩
  unfold onTensors
  by_cases hsize : b.size = a.size
  · rw [if_neg (not_not.mpr hsize)]
    exact hresult
  · have hcount : b.numel? = some 1 := Word.product?_of_volume_eq_one (hmeets.resolve_left hsize)
    rw [if_pos hsize, hcount]
    exact hresult

/-- Two tensors that do not meet have none. -/
theorem onTensors_ne_ok (mode : Mode) (hmeets : ¬a.Meets b) (v : Value) :
    onTensors mode name op a b ≠ .ok v := by
  obtain ⟨hsize, hvolume⟩ := not_or.mp hmeets
  unfold onTensors
  rw [if_pos hsize]
  cases hcount : b.numel? with
  | none =>
      intro h
      cases h
  | some count =>
      have hone : count ≠ 1 := by
        intro hone
        apply hvolume
        rw [← hone]
        exact (Word.eq_volume_of_product? hcount).symm
      show (if count ≠ 1 then _ else _) ≠ _
      rw [if_pos hone]
      intro h
      cases h

end Kernel

/-! ## Sums and products -/

namespace Library

/-- What the library says of a function of two tensors. -/
def onPair (lib : Library) (name : String) (a b : Tensor) (kwargs : Named Value) : Kernel Value :=
  (lib.callFunction (.function name) [.tensor a, .tensor b] kwargs).1

/-- Neither whether there is a result nor what its metadata are depends on the order of the two
tensors. -/
structure OrderIrrelevant (lib : Library) (name : String) (a b : Tensor) (kwargs : Named Value) :
    Prop where
  accepts : (∃ v, lib.onPair name a b kwargs = .ok v) ↔ ∃ w, lib.onPair name b a kwargs = .ok w
  metadata : ∀ x y, lib.onPair name a b kwargs = .ok (.tensor x) →
    lib.onPair name b a kwargs = .ok (.tensor y) →
      x.size = y.size ∧ x.elementType = y.elementType ∧ x.requiresGrad = y.requiresGrad

variable {lib : Library} {name : String} {a b : Tensor} (kwargs : Named Value)

/-- Sums and products are elementwise operations. -/
theorem onPair_eq (lib : Library) (hname : name = "add" ∨ name = "mul") :
    ∃ op, ∀ a b, lib.onPair name a b kwargs = Kernel.onTensors lib.mode name op a b := by
  rcases hname with rfl | rfl
  · exact ⟨(· + ·), fun _ _ => rfl⟩
  · exact ⟨(· * ·), fun _ _ => rfl⟩

/-- As a method of the first tensor the operation is the same. -/
theorem callMethod_eq_onPair (lib : Library) (hname : name = "add" ∨ name = "mul") (a b : Tensor) :
    lib.callMethod name (.tensor a) [.tensor b] kwargs = lib.onPair name a b kwargs := by
  rcases hname with rfl | rfl
  · rfl
  · rfl

theorem exists_onPair (hname : name = "add" ∨ name = "mul") (ha : a.WellFormed)
    (hb : b.WellFormed) (hmeets : a.Meets b) :
    ∃ x, a.Combines b x ∧ lib.onPair name a b kwargs = .ok (.tensor x) := by
  obtain ⟨op, hop⟩ := onPair_eq kwargs lib hname
  rw [hop]
  exact Kernel.exists_onTensors name op lib.mode ha hb hmeets

theorem meets_of_onPair (hname : name = "add" ∨ name = "mul") {v : Value}
    (h : lib.onPair name a b kwargs = .ok v) : a.Meets b := by
  obtain ⟨op, hop⟩ := onPair_eq kwargs lib hname
  rw [hop] at h
  by_contra hmeets
  exact Kernel.onTensors_ne_ok name op lib.mode hmeets v h

/-- There is a result exactly for tensors that meet. -/
theorem exists_onPair_iff (hname : name = "add" ∨ name = "mul") (ha : a.WellFormed)
    (hb : b.WellFormed) : (∃ v, lib.onPair name a b kwargs = .ok v) ↔ a.Meets b := by
  constructor
  · rintro ⟨v, hv⟩
    exact meets_of_onPair kwargs hname hv
  · intro hmeets
    obtain ⟨x, -, hx⟩ := exists_onPair kwargs hname ha hb hmeets
    exact ⟨_, hx⟩

theorem combines_of_onPair (hname : name = "add" ∨ name = "mul") (ha : a.WellFormed)
    (hb : b.WellFormed) {v : Value} (h : lib.onPair name a b kwargs = .ok v) :
    ∃ x, v = .tensor x ∧ a.Combines b x := by
  obtain ⟨x, hcombines, hx⟩ := exists_onPair kwargs hname ha hb (meets_of_onPair kwargs hname h)
  rw [h] at hx
  exact ⟨x, Except.ok.inj hx, hcombines⟩

/-- Where the order is irrelevant, tensors that meet have the same shape. -/
theorem OrderIrrelevant.size_eq (h : lib.OrderIrrelevant name a b kwargs)
    (hname : name = "add" ∨ name = "mul") (ha : a.WellFormed) (hb : b.WellFormed)
    (hmeets : a.Meets b ∨ b.Meets a) : a.size = b.size := by
  have haccepts := h.accepts
  rw [exists_onPair_iff kwargs hname ha hb, exists_onPair_iff kwargs hname hb ha] at haccepts
  have hboth : a.Meets b ∧ b.Meets a := by
    rcases hmeets with hab | hba
    · exact ⟨hab, haccepts.mp hab⟩
    · exact ⟨haccepts.mpr hba, hba⟩
  obtain ⟨x, hx, hab⟩ := exists_onPair kwargs hname ha hb hboth.1
  obtain ⟨y, hy, hba⟩ := exists_onPair kwargs hname hb ha hboth.2
  exact (hx.size_eq_iff hy).mp (h.metadata x y hab hba).1

/-- Tensors of one shape meet in either order, and only the element type can depend on it. -/
theorem orderIrrelevant_iff_of_size_eq (hname : name = "add" ∨ name = "mul") (ha : a.WellFormed)
    (hb : b.WellFormed) (hsize : a.size = b.size) :
    lib.OrderIrrelevant name a b kwargs ↔ a.elementType = b.elementType ∨
      a.elementType.isFloating ≠ b.elementType.isFloating ∨
        a.elementType.bytes ≠ b.elementType.bytes := by
  obtain ⟨x, hx, hab⟩ := exists_onPair kwargs hname ha hb (.inl hsize.symm)
  obtain ⟨y, hy, hba⟩ := exists_onPair kwargs hname hb ha (.inl hsize)
  rw [← hx.elementType_eq_iff hy]
  constructor
  · intro h
    exact (h.metadata x y hab hba).2.1
  · intro htype
    refine ⟨⟨fun _ => ⟨_, hba⟩, fun _ => ⟨_, hab⟩⟩, ?_⟩
    intro x' y' hab' hba'
    rw [hab] at hab'
    rw [hba] at hba'
    cases hab'
    cases hba'
    exact ⟨(hx.size_eq_iff hy).mpr hsize, htype, hx.requiresGrad_comm hy⟩

/-- Tensors of different shapes meet in neither order, or the order matters. -/
theorem orderIrrelevant_iff_of_size_ne (hname : name = "add" ∨ name = "mul") (ha : a.WellFormed)
    (hb : b.WellFormed) (hsize : a.size ≠ b.size) :
    lib.OrderIrrelevant name a b kwargs ↔ Shape.volume a.size ≠ 1 ∧ Shape.volume b.size ≠ 1 := by
  constructor
  · intro h
    constructor
    · intro hone
      exact hsize (h.size_eq kwargs hname ha hb (.inr (.inr hone)))
    · intro hone
      exact hsize (h.size_eq kwargs hname ha hb (.inl (.inr hone)))
  · rintro ⟨hone, hone'⟩
    have hab : ¬a.Meets b := not_or.mpr ⟨hsize.symm, hone'⟩
    have hba : ¬b.Meets a := not_or.mpr ⟨hsize, hone⟩
    refine ⟨?_, ?_⟩
    · rw [exists_onPair_iff kwargs hname ha hb, exists_onPair_iff kwargs hname hb ha]
      exact iff_of_false hab hba
    · intro x y hx
      exact absurd (meets_of_onPair kwargs hname hx) hab

end Library

/-- **When the order of two tensors is irrelevant to their sum and product.** For tensors of one
shape it is, unless their element types are different ones of the same kind and width. For tensors
of different shapes it is if and only if none of the two has one element, for then they have no
result in either order. The second tensor has to meet the first one, whose shape the result has. -/
theorem orderIrrelevant_iff (lib : Library) (kwargs : Named Value) (name : String)
    (hname : name = "add" ∨ name = "mul") (a b : Tensor) (ha : a.WellFormed) (hb : b.WellFormed) :
    lib.callMethod name (.tensor a) [.tensor b] kwargs = lib.onPair name a b kwargs ∧
      ((∃ v, lib.onPair name a b kwargs = .ok v) ↔ a.Meets b) ∧
      (∀ v, lib.onPair name a b kwargs = .ok v → ∃ x, v = .tensor x ∧ a.Combines b x) ∧
      (a.size = b.size → (lib.OrderIrrelevant name a b kwargs ↔
        a.elementType = b.elementType ∨
          a.elementType.isFloating ≠ b.elementType.isFloating ∨
          a.elementType.bytes ≠ b.elementType.bytes)) ∧
      (a.size ≠ b.size → (lib.OrderIrrelevant name a b kwargs ↔
        Shape.volume a.size ≠ 1 ∧ Shape.volume b.size ≠ 1)) ∧
      (∀ x y, lib.onPair name a b kwargs = .ok (.tensor x) →
        lib.onPair name b a kwargs = .ok (.tensor y) → x.requiresGrad = y.requiresGrad) := by
  refine ⟨Library.callMethod_eq_onPair kwargs lib hname a b,
    Library.exists_onPair_iff kwargs hname ha hb,
    fun v => Library.combines_of_onPair kwargs hname ha hb,
    Library.orderIrrelevant_iff_of_size_eq kwargs hname ha hb,
    Library.orderIrrelevant_iff_of_size_ne kwargs hname ha hb, ?_⟩
  intro x y hab hba
  obtain ⟨_, ⟨⟩, hx⟩ := Library.combines_of_onPair kwargs hname ha hb hab
  obtain ⟨_, ⟨⟩, hy⟩ := Library.combines_of_onPair kwargs hname hb ha hba
  exact hx.requiresGrad_comm hy

/-- The sum of two pairs of numbers has the same metadata in either order. -/
theorem orderIrrelevant_add_pairs :
    let lib := Library.ofSeed 0
    let a := Tensor.ofElements [2] #[1.0, 2.0] .f32
    let b := Tensor.ofElements [2] #[3.0, 4.0] .i64
    ("add" = "add" ∨ "add" = "mul") ∧ a.WellFormed ∧ b.WellFormed ∧
      lib.OrderIrrelevant "add" a b [] ∧ ∃ v, lib.onPair "add" a b [] = .ok v := by
  intro lib a b
  have hname : "add" = "add" ∨ "add" = "mul" := .inl rfl
  have ha : a.WellFormed := ⟨rfl, rfl⟩
  have hb : b.WellFormed := ⟨rfl, rfl⟩
  have hsize : a.size = b.size := by
    show [2] = [2]
    rfl
  have hkinds : a.elementType.isFloating ≠ b.elementType.isFloating := by
    show true ≠ false
    decide
  obtain ⟨-, haccepts, -, hsame, -⟩ := orderIrrelevant_iff lib [] "add" hname a b ha hb
  exact ⟨hname, ha, hb, (hsame hsize).mpr (.inr (.inl hkinds)), haccepts.mpr (.inl hsize.symm)⟩

/-- One number can be added to two, but not two to one. -/
theorem not_orderIrrelevant_add_one :
    ¬(Library.ofSeed 0).OrderIrrelevant "add" (Tensor.ofElements [2] #[1.0, 2.0] .f32)
      (Tensor.ofElements [1] #[3.0] .f32) [] := by
  intro h
  have hsize : [2] = [1] := h.size_eq [] (.inl rfl) ⟨rfl, rfl⟩ ⟨rfl, rfl⟩ (.inl (.inr rfl))
  exact absurd hsize (by decide)

end TensorCapture
