import TensorCapture.Capture.Example
import TensorCapture.Proofs.Placeholder.Abstraction

set_option autoImplicit false

/-! # Layers on placeholders

Two layers that are equal up to the elements of their parameters give the same results on
arguments without elements, and the results have no elements either. This also holds of lazy
layers, and it goes on to hold of them after the call.
-/

namespace TensorCapture

/-! ## Values without elements -/

/-- The value holds no elements: forgetting them changes nothing. -/
def Value.Hollow (v : Value) : Prop := v.erase = v

/-- The tensor occurs in the value, itself or inside containers. -/
inductive Value.Holds (t : Tensor) : Value → Prop where
  | tensor : Holds t (.tensor t)
  | tuple {items : List Value} {v : Value} (hmem : v ∈ items) (h : Holds t v) :
      Holds t (.tuple items)
  | list {items : List Value} {v : Value} (hmem : v ∈ items) (h : Holds t v) :
      Holds t (.list items)
  | record {type : RecordType} {items : List Value} {v : Value} (hmem : v ∈ items)
      (h : Holds t v) : Holds t (.record type items)

namespace Value

theorem hollow_erase (v : Value) : v.erase.Hollow := erase_erase v

theorem hollow_of_mem {items : List Value} (h : eraseAll items = items) {v : Value}
    (hv : v ∈ items) : v.Hollow := by
  rw [eraseAll_eq_map] at h
  obtain ⟨i, hi⟩ := List.mem_iff_getElem?.mp hv
  have herased : (items.map erase)[i]? = some v.erase := by
    rw [List.getElem?_map, hi, Option.map_some]
  rw [h, hi] at herased
  exact (Option.some.inj herased).symm

/-- Every tensor in a value without elements is a placeholder. -/
theorem Hollow.isPlaceholder {v : Value} (h : v.Hollow) {t : Tensor} (ht : v.Holds t) :
    t.isPlaceholder = true := by
  induction ht with
  | tensor =>
      have ht : t.erase = t := Value.tensor.inj h
      rw [← ht]
      rfl
  | tuple hmem _ ih => exact ih (hollow_of_mem (Value.tuple.inj h) hmem)
  | list hmem _ ih => exact ih (hollow_of_mem (Value.list.inj h) hmem)
  | record hmem _ ih => exact ih (hollow_of_mem (Value.record.inj h).2 hmem)

end Value

/-! ## Linear layers -/

namespace Linear

theorem erase_erase (l : Linear) : l.erase.erase = l.erase := by
  obtain ⟨name, weight, bias⟩ := l
  cases bias <;> rfl

/-- An input without elements hides those of the parameters. -/
theorem apply_erase (l : Linear) (input : Tensor) :
    l.apply input.erase = l.erase.apply input.erase := by
  obtain ⟨name, ⟨tw, dw, size, stride, storage, grad, cls⟩, bias⟩ := l
  rcases size with _ | ⟨outputs, _ | ⟨inputs, _ | ⟨_, _⟩⟩⟩ <;> rfl

theorem forward_eraseAll (l : Linear) (args : List Value) :
    l.forward (Value.eraseAll args) = l.erase.forward (Value.eraseAll args) := by
  -- one tensor is applied to; any other arguments are refused before the layer is looked at
  rcases args with _ | ⟨x, _ | ⟨y, rest⟩⟩
  · rfl
  · cases x with
    | tensor input =>
        show (l.apply input.erase).map _ = (l.erase.apply input.erase).map _
        rw [apply_erase]
    | _ => rfl
  · cases x <;> rfl

variable {l l' : Linear} {args : List Value}

theorem forward_eq_of_erase_eq (h : l.erase = l'.erase) (hargs : Value.eraseAll args = args) :
    l.forward args = l'.forward args := by
  calc l.forward args
      = l.forward (Value.eraseAll args) := by rw [hargs]
    _ = l.erase.forward (Value.eraseAll args) := l.forward_eraseAll args
    _ = l'.erase.forward (Value.eraseAll args) := by rw [h]
    _ = l'.forward (Value.eraseAll args) := (l'.forward_eraseAll args).symm
    _ = l'.forward args := by rw [hargs]

/-- On arguments without elements the result has none. -/
theorem forward_hollow (l : Linear) (hargs : Value.eraseAll args = args) :
    (l.forward args).map Value.erase = l.forward args := by
  have h := (l.forward_mirrors args).erased
  rw [← forward_eraseAll, hargs] at h
  exact h

end Linear

/-! ## Modules -/

/-- Two layers that are equal up to the elements of their parameters. Replaying modules have no
twins, for their replies may depend on elements. -/
inductive Module.Twin : Module → Module → Prop where
  | linear {l l' : Linear} (h : l.erase = l'.erase) : Twin (.linear l) (.linear l')
  | lazyLinear {l l' : LazyLinear} (h : l.erase = l'.erase) :
      Twin (.lazyLinear l) (.lazyLinear l')

/-- The same library, and twin modules in the same cells. -/
structure Workshop.Twin (w w' : Workshop) : Prop where
  library_eq : w'.library = w.library
  modules : ∀ i : Nat, Option.Rel Module.Twin w.modules[i]? w'.modules[i]?

namespace Workshop.Twin

variable {w w' : Workshop}

/-- Notes in the journals do not matter. -/
theorem note (h : w.Twin w') (event event' : Event) : (w.note event).Twin (w'.note event') :=
  ⟨h.library_eq, h.modules⟩

/-- Both cells are empty, or they hold twins. -/
theorem cell (h : w.Twin w') (i : Nat) :
    (w.modules[i]? = none ∧ w'.modules[i]? = none) ∨
      ∃ m m', w.modules[i]? = some m ∧ w'.modules[i]? = some m' ∧ m.Twin m' := by
  have hrel := h.modules i
  generalize w.modules[i]? = found at hrel ⊢
  generalize w'.modules[i]? = found' at hrel ⊢
  cases hrel with
  | none => exact Or.inl ⟨rfl, rfl⟩
  | some hm => exact Or.inr ⟨_, _, rfl, rfl, hm⟩

theorem getElem?_modules_storeIn (handle : Nat) (m : Module) (w : Workshop) (i : Nat) :
    (Capture.storeIn handle m w).modules[i]? =
      if handle = i then w.modules[i]?.map fun _ => m else w.modules[i]? := by
  unfold Capture.storeIn
  rw [Array.getElem?_setIfInBounds]
  by_cases hi : handle = i
  · subst hi
    rw [if_pos rfl, if_pos rfl]
    by_cases hlt : handle < w.modules.size
    · rw [if_pos hlt, Array.getElem?_eq_getElem hlt, Option.map_some]
    · rw [if_neg hlt, Array.getElem?_eq_none (Nat.le_of_not_lt hlt), Option.map_none]
  · rw [if_neg hi, if_neg hi]

theorem storeIn (h : w.Twin w') {m m' : Module} (hm : m.Twin m') (handle : Nat) :
    (Capture.storeIn handle m w).Twin (Capture.storeIn handle m' w') := by
  refine ⟨h.library_eq, fun i => ?_⟩
  rw [getElem?_modules_storeIn, getElem?_modules_storeIn]
  by_cases hi : handle = i
  · rw [if_pos hi, if_pos hi]
    -- a cell is overwritten in both workshops or, where there is none, in neither
    obtain ⟨hnone, hnone'⟩ | ⟨old, old', hold, hold', -⟩ := h.cell i
    · rw [hnone, hnone']
      exact .none
    · rw [hold, hold']
      exact .some hm
  · rw [if_neg hi, if_neg hi]
    exact h.modules i

end Workshop.Twin

namespace LazyLinear

variable {l l' : LazyLinear} {args : List Value}

theorem inner_erase_eq (h : l.erase = l'.erase) :
    l'.name = l.name ∧ l'.outputs = l.outputs ∧ l'.seed = l.seed ∧
      l.inner.map Linear.erase = l'.inner.map Linear.erase :=
  ⟨(congrArg name h).symm, (congrArg outputs h).symm, (congrArg seed h).symm, congrArg inner h⟩

/-- Twin lazy layers are lazy at the same time; a call gives the same result on both, fixes the
same parameters, and leaves twins. -/
theorem forward_twin (h : l.erase = l'.erase) (hargs : Value.eraseAll args = args) :
    (l'.forward args).1 = (l.forward args).1 ∧
      (l.forward args).1.map Value.erase = (l.forward args).1 ∧
      (l.forward args).2.1.erase = (l'.forward args).2.1.erase ∧
      (l'.forward args).2.2 = (l.forward args).2.2 := by
  obtain ⟨name, outputs, seed, inner⟩ := l
  obtain ⟨name', outputs', seed', inner'⟩ := l'
  obtain ⟨hname, houtputs, hseed, hinner⟩ := inner_erase_eq h
  dsimp only at hname houtputs hseed hinner
  subst hname houtputs hseed
  -- equal up to elements, the two are lazy or have their parameters at the same time
  cases inner with
  | some linear =>
      cases inner' with
      | none => cases hinner
      | some linear' =>
          have hlinear : linear.erase = linear'.erase := Option.some.inj hinner
          exact ⟨(Linear.forward_eq_of_erase_eq hlinear hargs).symm,
            linear.forward_hollow hargs, h, rfl⟩
  | none =>
      cases inner' with
      | some linear' => cases hinner
      | none =>
          -- the parameters are drawn from the seed and the width, which the twins share
          refine ⟨rfl, ?_, rfl, rfl⟩
          unfold forward
          dsimp only
          split
          · rfl
          · split
            · rfl
            · exact Linear.forward_hollow _ hargs

end LazyLinear

namespace Module.Twin

variable {m m' : Module}

theorem erase_eq (h : m.Twin m') : m'.erase = m.erase := by
  cases h with
  | linear h => exact congrArg Module.linear h.symm
  | lazyLinear h => exact congrArg Module.lazyLinear h.symm

theorem name_eq (h : m.Twin m') : m'.name = m.name := by
  cases h with
  | linear h => exact (congrArg Linear.name h).symm
  | lazyLinear h => exact (congrArg LazyLinear.name h).symm

theorem isLazy_eq (h : m.Twin m') (w w' : Workshop) : m'.isLazy w' = m.isLazy w := by
  cases h with
  | linear _ => rfl
  | @lazyLinear l l' h =>
      obtain ⟨-, -, -, hinner⟩ := LazyLinear.inner_erase_eq h
      have hnone := congrArg Option.isNone hinner
      rw [Option.isNone_map, Option.isNone_map] at hnone
      exact hnone.symm

/-- Copies without elements are twins of themselves. -/
theorem erase (h : m.Twin m') : m.erase.Twin m.erase := by
  cases h with
  | linear _ => exact .linear rfl
  | lazyLinear _ => exact .lazyLinear rfl

/-- A call on arguments without elements: the same result, without elements, and twins after
it. -/
theorem forward (h : m.Twin m') {args : List Value} (hargs : Value.eraseAll args = args)
    (kwargs : Named Value) {w w' : Workshop} (hw : w.Twin w') :
    (m'.forward args kwargs w').1 = (m.forward args kwargs w).1 ∧
      (m.forward args kwargs w).1.map Value.erase = (m.forward args kwargs w).1 ∧
      (m.forward args kwargs w).2.1.Twin (m'.forward args kwargs w').2.1 ∧
      (m.forward args kwargs w).2.2.Twin (m'.forward args kwargs w').2.2 := by
  cases h with
  | @linear l l' h =>
      exact ⟨(Linear.forward_eq_of_erase_eq h hargs).symm, l.forward_hollow hargs, .linear h, hw⟩
  | @lazyLinear l l' h =>
      obtain ⟨hresult, hhollow, hlayer, hwidth⟩ := LazyLinear.forward_twin h hargs
      rcases hl : l.forward args with ⟨result, layer, width⟩
      rcases hl' : l'.forward args with ⟨result', layer', width'⟩
      rw [hl, hl'] at hresult hlayer hwidth
      rw [hl] at hhollow
      simp only [Module.forward, hl, hl']
      refine ⟨hresult, hhollow, .lazyLinear hlayer, ?_⟩
      dsimp only at hwidth
      subst hwidth
      -- the first call of a lazy layer leaves a note of its width
      cases width' with
      | none => exact hw
      | some inputs => exact hw.note _ _

end Module.Twin

end TensorCapture
