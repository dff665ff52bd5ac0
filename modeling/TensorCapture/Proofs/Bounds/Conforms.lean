import TensorCapture.Proofs.Folding.Positions
import TensorCapture.Proofs.Placeholder.Layers
import TensorCapture.Proofs.Positions.Volume

set_option autoImplicit false

/-! # Steps of the library that stay within bounds

Every kernel is a sequence of steps, and each step may end the run. `Kernel.Conforms` says of a step
exactly when it does, that it never asks a placeholder for its elements, and what its values are
like. The statement is closed under sequencing: a sequence ends the run where its first step does,
or where the first step gives a value with which the second one does.

The readers of arguments are the steps that all kernels share. None of them ends the run except for
the count of an index from the end, whose sum may overflow, and the allocation of elements. The
bounds themselves never do: a resolved index is a position.
-/

namespace TensorCapture

/-! ## Well-formed values -/

/-- The storage has an element for each position of the shape, or none at all. -/
def Storage.Fills (size : List Nat) : Storage → Prop
  | .dense elements => elements.size = Shape.volume size
  | .placeholder => True

/-- Storage that fills a shape fills every other one with as many positions. -/
theorem Storage.Fills.of_volume_eq {size size' : List Nat} {storage : Storage}
    (h : storage.Fills size) (hvolume : Shape.volume size' = Shape.volume size) :
    storage.Fills size' := by
  cases storage with
  | dense elements => exact Eq.trans h hvolume.symm
  | placeholder => trivial

theorem Tensor.wellFormed_iff {t : Tensor} :
    t.WellFormed ↔ t.stride.length = t.size.length ∧ t.storage.Fills t.size := by
  unfold WellFormed Storage.Fills
  cases t.storage <;> rfl

/-- A derived tensor has one stride for each extent. -/
theorem Tensor.wellFormed_derive (t : Tensor) {size : List Nat} {storage : Storage}
    (h : storage.Fills size) : (t.derive size storage).WellFormed :=
  wellFormed_iff.mpr ⟨Shape.length_strides size, h⟩

/-- Every tensor in the value is well formed. -/
def Value.WellFormed (v : Value) : Prop := ∀ t, v.Holds t → t.WellFormed

namespace Value

@[simp] theorem wellFormed_tensor {t : Tensor} : (tensor t).WellFormed ↔ t.WellFormed := by
  constructor
  · intro h
    exact h t .tensor
  · intro h t' ht'
    cases ht'
    exact h

@[simp] theorem wellFormed_tuple {items : List Value} :
    (tuple items).WellFormed ↔ ∀ v ∈ items, v.WellFormed := by
  constructor
  · intro h v hv t ht
    exact h t (.tuple hv ht)
  · intro h t ht
    cases ht with
    | tuple hv ht => exact h _ hv t ht

@[simp] theorem wellFormed_list {items : List Value} :
    (list items).WellFormed ↔ ∀ v ∈ items, v.WellFormed := by
  constructor
  · intro h v hv t ht
    exact h t (.list hv ht)
  · intro h t ht
    cases ht with
    | list hv ht => exact h _ hv t ht

@[simp] theorem wellFormed_record {type : RecordType} {items : List Value} :
    (record type items).WellFormed ↔ ∀ v ∈ items, v.WellFormed := by
  constructor
  · intro h v hv t ht
    exact h t (.record hv ht)
  · intro h t ht
    cases ht with
    | record hv ht => exact h _ hv t ht

@[simp] theorem wellFormed_none : none.WellFormed := fun _ h => by cases h

@[simp] theorem wellFormed_bool (b : Bool) : (bool b).WellFormed := fun _ h => by cases h

@[simp] theorem wellFormed_int (n : Int64) : (int n).WellFormed := fun _ h => by cases h

@[simp] theorem wellFormed_float (x : Float) : (float x).WellFormed := fun _ h => by cases h

@[simp] theorem wellFormed_size (extents : List Nat) : (size extents).WellFormed :=
  fun _ h => by cases h

@[simp] theorem wellFormed_ofScalar (number : Scalar) : (ofScalar number).WellFormed := by
  cases number <;> simp [ofScalar]

end Value

open Word (position InRange)

namespace Kernel

variable {α β : Type} {ends ends' : Prop} {P N : α → Prop} {k : Kernel α}

/-! ## Conforming steps -/

/-- The step gives a value that satisfies the condition. -/
def LeadsTo (k : Kernel α) (P : α → Prop) : Prop := ∃ a, k = .ok a ∧ P a

@[simp] theorem not_leadsTo_false (k : Kernel α) : ¬k.LeadsTo fun _ => False := by
  simp [LeadsTo]

theorem leadsTo_or {Q : α → Prop} :
    k.LeadsTo (fun a => P a ∨ Q a) ↔ k.LeadsTo P ∨ k.LeadsTo Q := by
  unfold LeadsTo
  simp only [and_or_left, exists_or]

/-- The step ends the run exactly where `ends` holds. It never asks a placeholder for its elements,
and what it gives satisfies `P`. -/
structure Conforms (ends : Prop) (P : α → Prop) (k : Kernel α) : Prop where
  ends_iff : k = .error .abort ↔ ends
  reads : k ≠ .error (.error (.failed .elementsOfPlaceholder))
  gives : ∀ a, k = .ok a → P a

theorem conforms_ok {a : α} (h : P a) : Conforms False P (.ok a) := by
  refine ⟨by simp, by simp, fun b hb => ?_⟩
  cases hb
  exact h

/-- Any other error may be reported. -/
theorem conforms_error {e : LibraryError} (h : e ≠ .failed .elementsOfPlaceholder) :
    Conforms False P (.error (.error e)) := by
  refine ⟨by simp, fun he => ?_, fun a ha => ?_⟩
  · cases he
    exact h rfl
  · cases ha

theorem conforms_fail {failure : Failure} (h : failure ≠ .elementsOfPlaceholder) :
    Conforms False P (fail failure) :=
  conforms_error fun he => h (LibraryError.failed.inj he)

theorem conforms_refuse (reason : Refused) : Conforms False P (refuse reason) :=
  conforms_error (by simp)

/-- A bounded computation ends the run where it has no value. -/
theorem conforms_ofBounded (o : Option α) :
    Conforms (o = none) (fun a => o = some a) (Outcome.ofBounded o) := by
  cases o with
  | none => exact ⟨by simp [Outcome.stop], by simp [Outcome.stop], fun a ha => by cases ha⟩
  | some a =>
      refine ⟨by simp, by simp, fun b hb => ?_⟩
      cases hb
      rfl

/-- A bounded computation that has a value. -/
theorem conforms_found {o : Option α} (h : ∃ a, o = some a ∧ P a) :
    Conforms False P (Outcome.ofBounded o) := by
  obtain ⟨a, rfl, ha⟩ := h
  exact conforms_ok ha

namespace Conforms

theorem iff (h : Conforms ends P k) (hends : ends ↔ ends') : Conforms ends' P k :=
  ⟨h.ends_iff.trans hends, h.reads, h.gives⟩

theorem imp {Q : α → Prop} (h : Conforms ends P k) (himp : ∀ a, P a → Q a) : Conforms ends Q k :=
  ⟨h.ends_iff, h.reads, fun a ha => himp a (h.gives a ha)⟩

/-- A sequence ends the run where its first step does, or where the second one does with what the
first one gives. -/
theorem bind {Q : β → Prop} {f : α → Kernel β} (h : Conforms ends P k)
    (hf : ∀ a, k = .ok a → P a → Conforms (N a) Q (f a)) :
    Conforms (ends ∨ k.LeadsTo N) Q (k >>= f) := by
  cases hk : k with
  | ok a =>
      have hnext : Conforms (N a) Q (f a) := hf a hk (h.gives a hk)
      have hnever : ¬ends := by
        rw [← h.ends_iff, hk]
        simp
      have hleads : LeadsTo (.ok a : Kernel α) N ↔ N a := by simp [LeadsTo]
      refine hnext.iff ?_
      rw [hleads]
      exact ⟨.inr, fun h => h.resolve_left hnever⟩
  | error fault =>
      have hleads : ¬LeadsTo (.error fault : Kernel α) N := by simp [LeadsTo]
      refine ⟨?_, ?_, fun b hb => by cases hb⟩
      · have hends := h.ends_iff
        rw [hk] at hends
        rw [or_iff_left hleads, ← hends]
        cases fault <;> simp [Bind.bind, Except.bind]
      · intro he
        cases he
        exact h.reads hk

/-- After a step that never ends the run, the second one decides. -/
theorem before {Q : β → Prop} {f : α → Kernel β} (h : Conforms False P k)
    (hf : ∀ a, k = .ok a → P a → Conforms (N a) Q (f a)) : Conforms (k.LeadsTo N) Q (k >>= f) :=
  (h.bind hf).iff (by simp)

/-- Before a step that never ends the run, the first one decides. -/
theorem after {Q : β → Prop} {f : α → Kernel β} (h : Conforms ends P k)
    (hf : ∀ a, k = .ok a → P a → Conforms False Q (f a)) : Conforms ends Q (k >>= f) :=
  (h.bind hf).iff (by simp [LeadsTo])

/-- A bounded computation reports nothing: it ends the run, or the next step decides. -/
theorem ofBounded_bind {Q : β → Prop} {o : Option α} {f : α → Kernel β}
    (hf : ∀ a, o = some a → Conforms (N a) Q (f a)) :
    Conforms (o = none ∨ ∃ a, o = some a ∧ N a) Q (Outcome.ofBounded o >>= f) := by
  cases o with
  | none =>
      have hstop := (conforms_ofBounded (none : Option β)).imp (Q := Q) fun b hb => by cases hb
      exact hstop.iff (by simp)
  | some a => exact (hf a rfl).iff (by simp)

/-- The same where the value does not matter. -/
theorem ofBounded_then {Q : β → Prop} {o : Option α} {f : α → Kernel β}
    (hf : ∀ a, o = some a → Conforms ends Q (f a)) :
    Conforms (o = none ∨ ends) Q (Outcome.ofBounded o >>= f) := by
  refine (ofBounded_bind hf).iff ?_
  cases o with
  | none => simp
  | some a => simp

theorem map {Q : β → Prop} {f : α → β} (h : Conforms ends P k) (hf : ∀ a, P a → Q (f a)) :
    Conforms ends Q (Except.map f k) :=
  h.after fun a _ ha => conforms_ok (hf a ha)

end Conforms

/-! ## Arguments -/

theorem conforms_orFail {failure : Failure} (h : failure ≠ .elementsOfPlaceholder) (o : Option α) :
    Conforms False (fun a => o = some a) (orFail failure o) := by
  cases o with
  | none => exact conforms_fail h
  | some a => exact conforms_ok rfl

theorem conforms_integerOf (v : Value) : Conforms False (fun _ => True) (integerOf v) := by
  cases v with
  | int value => exact conforms_ok trivial
  | bool value => exact conforms_ok trivial
  | _ => exact conforms_fail (by simp)

theorem conforms_mapM {f : α → Kernel β} {Q : β → Prop} {items : List α}
    (h : ∀ a ∈ items, Conforms False Q (f a)) :
    Conforms False (fun bs => ∀ b ∈ bs, Q b) (items.mapM f) := by
  induction items with
  | nil => exact conforms_ok (by simp)
  | cons item rest ih =>
      have hitem : Conforms False Q (f item) := h item (List.mem_cons_self ..)
      have hrest := ih fun a ha => h a (List.mem_cons_of_mem item ha)
      rw [List.mapM_cons]
      refine hitem.after fun b _ hb => hrest.after fun others _ hothers => conforms_ok ?_
      exact List.forall_mem_cons.mpr ⟨hb, hothers⟩

/-- A step that gives a value for each item gives all of them. -/
theorem mapM_eq_ok {f : α → Kernel β} {g : α → β} {items : List α}
    (h : ∀ a ∈ items, f a = .ok (g a)) : items.mapM f = .ok (items.map g) := by
  induction items with
  | nil => rfl
  | cons item rest ih =>
      obtain ⟨hitem, hrest⟩ := List.forall_mem_cons.mp h
      rw [List.mapM_cons, hitem, ih hrest]
      rfl

theorem conforms_integersOf (items : List Value) :
    Conforms False (fun _ => True) (items.mapM integerOf) :=
  (conforms_mapM fun v _ => conforms_integerOf v).imp fun _ _ => trivial

theorem conforms_signedShapeOf (args : List Value) :
    Conforms False (fun _ => True) (signedShapeOf args) := by
  unfold signedShapeOf
  split
  · exact conforms_integersOf _
  · exact conforms_integersOf _
  · exact conforms_ok trivial
  · exact conforms_integersOf _

theorem conforms_extentOf (i : Int64) : Conforms False (fun _ => True) (extentOf i) := by
  unfold extentOf
  split
  · exact conforms_fail (by simp)
  · exact conforms_ok trivial

theorem conforms_shapeOf (args : List Value) : Conforms False (fun _ => True) (shapeOf args) :=
  (conforms_signedShapeOf args).after fun _ _ _ =>
    (conforms_mapM fun i _ => conforms_extentOf i).imp fun _ _ => trivial

/-! ## Indices -/

/-- A negative index cannot be counted from the end: the sum is no signed word. -/
def IndexOverflows (index : Int64) (length : Nat) : Prop :=
  index < 0 ∧ Word.addSigned? index (Word.signed length) = none

/-- The signed word of a length is never beyond the length, not even where it wraps. -/
theorem toInt_signed_le (n : Nat) : (Word.signed n).toInt ≤ n := by
  by_cases h : n < Word.signedBound
  · exact le_of_eq (toInt_signed h)
  · have hword : (Word.signed n).toInt < 2 ^ 63 := Int64.toInt_lt _
    unfold Word.signedBound at h
    omega

/-- The check of a position as a signed word lets positions within the bounds pass alone. -/
theorem conforms_positionOf {index resolved : Int64} {length : Nat} :
    Conforms False (· < length)
      (if resolved < 0 || Word.signed length ≤ resolved then
        (fail (.indexOutOfBounds index.toInt length) : Kernel Nat)
      else .ok resolved.toInt.toNat) := by
  by_cases hout : (resolved < 0 || Word.signed length ≤ resolved) = true
  · rw [if_pos hout]
    exact conforms_fail (by simp)
  · rw [if_neg hout]
    refine conforms_ok ?_
    simp only [Bool.or_eq_true, decide_eq_true_eq, not_or] at hout
    obtain ⟨hnonnegative, hbelow⟩ := hout
    rw [Int64.lt_iff_toInt_lt] at hnonnegative
    rw [Int64.le_iff_toInt_le] at hbelow
    have hlength : (Word.signed length).toInt ≤ length := toInt_signed_le length
    have hzero : (0 : Int64).toInt = 0 := rfl
    omega

/-- A resolved index is a position. -/
theorem conforms_resolveIndex (index : Int64) (length : Nat) :
    Conforms (IndexOverflows index length) (· < length) (resolveIndex index length) := by
  unfold resolveIndex IndexOverflows
  by_cases hnegative : index < 0
  · rw [if_pos hnegative]
    refine ((conforms_ofBounded _).after fun resolved _ _ => conforms_positionOf).iff ?_
    simp [hnegative]
  · rw [if_neg hnegative]
    exact conforms_positionOf.iff (by simp [hnegative])

/-- A resolved axis is an axis of the tensor, or of a tensor with one axis where it has none. -/
theorem conforms_resolveAxis (axis : Int64) (rank : Nat) :
    Conforms (IndexOverflows axis (max rank 1)) (· < max rank 1) (resolveAxis axis rank) := by
  have hindex := conforms_resolveIndex axis (max rank 1)
  unfold resolveAxis
  cases hresolved : resolveIndex axis (max rank 1) with
  | ok position =>
      rw [hresolved] at hindex
      exact hindex
  | error fault =>
      rw [hresolved] at hindex
      cases fault with
      | abort => exact hindex
      | error cause =>
          have hnever : ¬IndexOverflows axis (max rank 1) := by
            rw [← hindex.ends_iff]
            simp
          exact (conforms_fail (by simp)).iff (by simp [hnever])

/-- A tensor without axes takes the axes of a tensor with one: there are two ways to name it. -/
theorem resolveAxis_leadsTo_iff {axis : Int64} {Q : Nat → Prop} :
    (resolveAxis axis 0).LeadsTo Q ↔ (axis = 0 ∨ axis = -1) ∧ Q 0 := by
  have hresolved : resolveIndex axis 1 = if InRange axis 1 then .ok (position axis 1).toNat
      else fail (.indexOutOfBounds axis.toInt 1) := resolveIndex_eq (by decide)
  have hrange : InRange axis 1 ↔ axis = 0 ∨ axis = -1 := by
    have hzero : axis = 0 ↔ axis.toInt = 0 := Int64.toInt_inj.symm
    have hlast : axis = -1 ↔ axis.toInt = -1 := Int64.toInt_inj.symm
    have hnegative : axis < 0 ↔ axis.toInt < 0 := Int64.lt_iff_toInt_lt
    rw [hzero, hlast]
    unfold InRange position
    by_cases hindex : axis < 0
    · rw [if_pos hindex]
      rw [hnegative] at hindex
      omega
    · rw [if_neg hindex]
      rw [hnegative] at hindex
      omega
  unfold resolveAxis LeadsTo
  rw [show max 0 1 = 1 from rfl, hresolved]
  by_cases hone : InRange axis 1
  · have hposition : (position axis 1).toNat = 0 := by
      unfold InRange at hone
      omega
    rw [if_pos hone, hposition]
    simp [hrange.mp hone]
  · rw [if_neg hone]
    simp [hrange.not.mp hone, fail, Outcome.fail]

/-! ## Elements -/

/-- So many elements cannot be allocated: their number does not fit a word, or their size in bytes
does not fit a signed one. -/
def Unallocatable (count? : Option Nat) : Prop := ∀ n, count? = some n → Word.allocatable < n

theorem conforms_allocate (count? : Option Nat) :
    Conforms (Unallocatable count?) (fun n => count? = some n) (allocate count?) := by
  unfold allocate
  refine ((conforms_ofBounded _).imp fun n hn => ?_).iff ?_
  · obtain ⟨m, hm, hfits⟩ := Option.bind_eq_some_iff.mp hn
    split at hfits
    · cases hfits
      exact hm
    · cases hfits
  · cases count? with
    | none => simp [Unallocatable]
    | some n => simp [Unallocatable]

theorem allocate_eq_ok {count? : Option Nat} {n : Nat} (h : count? = some n)
    (hallocated : n ≤ Word.allocatable) : allocate count? = .ok n := by
  unfold allocate
  rw [h, Option.bind_some, if_pos hallocated]
  rfl

theorem elementsOf_eq_ok {t : Tensor} {elements : Array Float} (h : t.storage = .dense elements) :
    elementsOf t = .ok elements := by
  unfold elementsOf Tensor.elements?
  rw [h]
  rfl

/-- A dense tensor has its elements. -/
theorem exists_elementsOf {t : Tensor} (h : t.WellFormed) (hdense : t.isPlaceholder = false) :
    ∃ elements, elementsOf t = .ok elements ∧ elements.size = Shape.volume t.size := by
  obtain ⟨-, hfills⟩ := Tensor.wellFormed_iff.mp h
  cases hstorage : t.storage with
  | placeholder =>
      unfold Tensor.isPlaceholder at hdense
      rw [hstorage] at hdense
      cases hdense
  | dense elements =>
      rw [hstorage] at hfills
      exact ⟨elements, elementsOf_eq_ok hstorage, hfills⟩

/-- A step that reads the elements of a dense tensor. -/
theorem conforms_elements {t : Tensor} (h : t.WellFormed) (hdense : t.isPlaceholder = false)
    {f : Array Float → Kernel β} {Q : β → Prop}
    (hf : ∀ elements, elements.size = Shape.volume t.size → Conforms ends Q (f elements)) :
    Conforms ends Q (elementsOf t >>= f) := by
  obtain ⟨elements, hread, hsize⟩ := exists_elementsOf h hdense
  rw [hread]
  exact hf elements hsize

/-- Outside placeholder mode, a dense input keeps its elements. -/
theorem erases_eager_of_dense {t : Tensor} (h : t.isPlaceholder = false) :
    Mode.eager.erases [t] = false := by
  simp [Mode.erases, h]

/-- Where nothing is erased, every input is dense. -/
theorem isPlaceholder_of_erases_false {mode : Mode} {inputs : List Tensor}
    (h : mode.erases inputs = false) {t : Tensor} (ht : t ∈ inputs) : t.isPlaceholder = false := by
  simp only [Mode.erases, Bool.or_eq_false_iff, List.any_eq_false] at h
  simpa using h.2 t ht

/-- The elements of a result fill its shape, or there are none. -/
theorem conforms_storageUnless {erased : Bool} {elements : Kernel (Array Float)} {size : List Nat}
    (h : erased = false → Conforms ends (fun a => a.size = Shape.volume size) elements) :
    Conforms (erased = false ∧ ends) (Storage.Fills size) (storageUnless erased elements) := by
  unfold storageUnless
  cases erased with
  | true => exact (conforms_ok trivial).iff (by simp)
  | false => exact ((h rfl).map fun a ha => ha).iff (by simp)

end Kernel

end TensorCapture
