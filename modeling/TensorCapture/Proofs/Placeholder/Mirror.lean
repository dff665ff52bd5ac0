import TensorCapture.Library.Arguments

set_option autoImplicit false

/-! # Placeholder outcomes that mirror eager ones

Erasing a value forgets the elements of its tensors. This file says what the readers of
arguments make of erased values, and defines when an outcome in placeholder mode mirrors the
eager outcome of the same operation: it is erased, and it is the erased form of the eager
outcome unless the eager run ended. `Kernel.Mirrors` is closed under the sequencing that the
kernels are written with. A step that both runs share carries it over, and so does a step of
the eager run alone, as long as that step reports no error.
-/

namespace TensorCapture

/-! ## Erased values -/

namespace Value

mutual

/-- A value without elements has none to forget. -/
theorem erase_erase : ∀ v : Value, v.erase.erase = v.erase
  | tensor _ => rfl
  | tuple items => by rw [erase, erase, eraseAll_eraseAll items]
  | list items => by rw [erase, erase, eraseAll_eraseAll items]
  | record type items => by rw [erase, erase, eraseAll_eraseAll items]
  | none | bool _ | int _ | float _ | text _ | size _ | elementType _ | device _
  | memoryFormat _ => rfl

theorem eraseAll_eraseAll : ∀ items : List Value, eraseAll (eraseAll items) = eraseAll items
  | [] => rfl
  | item :: rest => by
      rw [eraseAll, eraseAll, erase_erase item, eraseAll_eraseAll rest]

end

@[simp] theorem typeName_erase (v : Value) : v.erase.typeName = v.typeName := by
  cases v <;> rfl

@[simp] theorem toScalar?_erase (v : Value) : v.erase.toScalar? = v.toScalar? := by
  cases v <;> rfl

@[simp] theorem toTensor?_erase (v : Value) : v.erase.toTensor? = v.toTensor?.map Tensor.erase := by
  cases v <;> rfl

@[simp] theorem length_eraseAll (items : List Value) : (eraseAll items).length = items.length := by
  simp [eraseAll_eq_map]

end Value

theorem Named.get?_mapValues {α β : Type} (f : α → β) (name : String) (args : Named α) :
    (args.mapValues f).get? name = (args.get? name).map f := by
  induction args with
  | nil => rfl
  | cons entry rest ih =>
      obtain ⟨key, value⟩ := entry
      by_cases h : name = key
      · simp [Named.mapValues, Named.get?, h]
      · have hne : (name == key) = false := by simpa using h
        simpa [Named.mapValues, Named.get?, List.lookup_cons, hne] using ih

namespace Kernel

/-! ## Reading erased arguments -/

theorem integerOf_erase (v : Value) : integerOf v.erase = integerOf v := by
  cases v <;> rfl

theorem numberOf_erase (v : Value) : numberOf v.erase = numberOf v := by
  rw [numberOf, numberOf, Value.toScalar?_erase, Value.typeName_erase]

theorem mapM_integerOf_eraseAll (items : List Value) :
    (Value.eraseAll items).mapM integerOf = items.mapM integerOf := by
  rw [Value.eraseAll_eq_map]
  induction items with
  | nil => rfl
  | cons item rest ih => simp only [List.map_cons, List.mapM_cons, integerOf_erase, ih]

theorem signedShapeOf_eraseAll (args : List Value) :
    signedShapeOf (Value.eraseAll args) = signedShapeOf args := by
  rcases args with _ | ⟨first, _ | ⟨second, rest⟩⟩
  · rfl
  · cases first with
    | tuple items => exact mapM_integerOf_eraseAll items
    | list items => exact mapM_integerOf_eraseAll items
    | _ => rfl
  · -- several arguments are read one by one, whatever they are
    have separate : ∀ a b cs, signedShapeOf (a :: b :: cs) = (a :: b :: cs).mapM integerOf := by
      intro a b cs
      cases a <;> rfl
    calc signedShapeOf (Value.eraseAll (first :: second :: rest))
        = (Value.eraseAll (first :: second :: rest)).mapM integerOf := separate _ _ _
      _ = (first :: second :: rest).mapM integerOf := mapM_integerOf_eraseAll _
      _ = signedShapeOf (first :: second :: rest) := (separate first second rest).symm

theorem shapeOf_eraseAll (args : List Value) : shapeOf (Value.eraseAll args) = shapeOf args := by
  rw [shapeOf, signedShapeOf_eraseAll, shapeOf]

/-! ## Steps that report no error -/

variable {α β : Type}

/-- A computation that gives a value or ends the run, and never reports an error. -/
def Silent (k : Kernel α) : Prop := ∀ cause, k ≠ .error (.error cause)

theorem silent_ok (a : α) : Silent (.ok a) := by
  intro cause h
  cases h

theorem silent_ofBounded (o : Option α) : Silent (Outcome.ofBounded o) := by
  intro cause h
  cases o <;> cases h

theorem Silent.bind {k : Kernel α} {f : α → Kernel β} (hk : k.Silent) (hf : ∀ a, (f a).Silent) :
    (k >>= f).Silent := by
  cases k with
  | ok a => exact hf a
  | error fault =>
      intro cause h
      cases h
      exact hk cause rfl

theorem Silent.map {k : Kernel α} (hk : k.Silent) (f : α → β) :
    Silent (k.map f) := by
  cases k with
  | ok a => exact silent_ok (f a)
  | error fault =>
      intro cause h
      cases h
      exact hk cause rfl

theorem silent_allocate (count? : Option Nat) : (allocate count?).Silent := silent_ofBounded _

/-- Only the elements of a placeholder cannot be read. -/
theorem silent_elementsOf {t : Tensor} (h : t.isPlaceholder = false) : (elementsOf t).Silent := by
  intro cause hc
  cases hs : t.storage with
  | dense elements => simp [elementsOf, Tensor.elements?, hs, orFail] at hc
  | placeholder => simp [Tensor.isPlaceholder, hs] at h

/-- In eager mode the elements are erased only where an input has none. -/
theorem isPlaceholder_of_not_erases {inputs : List Tensor} (h : ¬ Mode.eager.erases inputs = true)
    {t : Tensor} (ht : t ∈ inputs) : t.isPlaceholder = false := by
  have hany : inputs.any Tensor.isPlaceholder = false := by simpa [Mode.erases] using h
  simpa using List.any_eq_false.mp hany t ht

/-- Elements are computed only where every input has some. -/
theorem silent_storageUnless {inputs : List Tensor} {elements : Kernel (Array Float)}
    (h : (∀ t ∈ inputs, t.isPlaceholder = false) → elements.Silent) :
    (storageUnless (Mode.eager.erases inputs) elements).Silent := by
  unfold storageUnless
  split
  · exact silent_ok _
  · rename_i hdense
    exact Silent.map (h fun t ht => isPlaceholder_of_not_erases hdense ht) _

theorem map_bind {γ : Type} (f : β → γ) (k : Kernel α) (next : α → Kernel β) :
    (k >>= next).map f = k >>= fun a => (next a).map f := by
  cases k <;> rfl

/-! ## Mirrors -/

/-- An outcome in placeholder mode mirrors the eager outcome of the same operation. -/
structure Mirrors (eager placeholder : Kernel Value) : Prop where
  /-- The outcome in placeholder mode holds no elements. -/
  erased : placeholder.map Value.erase = placeholder
  /-- It is the eager outcome without elements, unless the eager run ended. -/
  agrees : eager = .error .abort ∨ placeholder = eager.map Value.erase

namespace Mirrors

theorem ok (v : Value) : Mirrors (.ok v) (.ok v.erase) :=
  ⟨by simp [Except.map, Value.erase_erase], Or.inr rfl⟩

theorem error (fault : Fault LibraryError) : Mirrors (.error fault) (.error fault) :=
  ⟨rfl, Or.inr rfl⟩

/-- Both runs take the same step first. -/
theorem bind (k : Kernel α) {f g : α → Kernel Value} (h : ∀ a, Mirrors (f a) (g a)) :
    Mirrors (k >>= f) (k >>= g) := by
  cases k with
  | error fault => exact error fault
  | ok a => exact h a

/-- Both runs take the same branch. -/
theorem ite (c : Prop) [Decidable c] {e e' p p' : Kernel Value} (h : Mirrors e p)
    (h' : Mirrors e' p') : Mirrors (if c then e else e') (if c then p else p') := by
  by_cases hc : c
  · rw [if_pos hc, if_pos hc]
    exact h
  · rw [if_neg hc, if_neg hc]
    exact h'

/-- The eager run takes a step that the run on placeholders does without. -/
theorem lead {k : Kernel α} (hk : k.Silent) {f : α → Kernel Value} {p : Kernel Value}
    (hp : p.map Value.erase = p) (h : ∀ a, Mirrors (f a) p) : Mirrors (k >>= f) p := by
  cases k with
  | ok a => exact h a
  | error fault =>
      -- the eager run may end here, but it reports no error
      cases fault with
      | abort => exact ⟨hp, Or.inl rfl⟩
      | error cause => exact absurd rfl (hk cause)

/-- The eager run computes elements, and the result differs in them alone. -/
theorem fill {k : Kernel α} (hk : k.Silent) {f : α → Value} {w : Value} (hw : w.erase = w)
    (h : ∀ a, (f a).erase = w) : Mirrors (k >>= fun a => .ok (f a)) (.ok w) := by
  have hok : (Except.ok w : Kernel Value).map Value.erase = .ok w := congrArg Except.ok hw
  refine lead hk hok fun a => ?_
  rw [← h a]
  exact ok (f a)

/-- The same for the elements of one tensor. -/
theorem storage {inputs inputs' : List Tensor} {elements elements' : Kernel (Array Float)}
    (silent : (∀ t ∈ inputs, t.isPlaceholder = false) → elements.Silent)
    {f g : Storage → Tensor} (h : ∀ s, (f s).erase = g .placeholder) :
    Mirrors (storageUnless (Mode.eager.erases inputs) elements >>= fun s => .ok (.tensor (f s)))
      (storageUnless (Mode.placeholder.erases inputs') elements' >>= fun s =>
        .ok (.tensor (g s))) := by
  -- in placeholder mode no elements are computed, whatever the inputs
  show Mirrors _ (.ok (.tensor (g .placeholder)))
  have hg : (g .placeholder).erase = g .placeholder := by
    rw [← h .placeholder, Tensor.erase_erase]
  refine fill (silent_storageUnless silent) ?_ fun s => ?_
  · rw [Value.erase, hg]
  · rw [Value.erase, h s]

theorem mapM_erased {k : β → Kernel Value} (h : ∀ b, (k b).map Value.erase = k b)
    (items : List β) : (items.mapM k).map Value.eraseAll = items.mapM k := by
  induction items with
  | nil => rfl
  | cons b rest ih =>
      have hb := h b
      rw [List.mapM_cons]
      cases hk : k b with
      | error fault => rfl
      | ok v =>
          rw [hk] at hb
          cases hr : rest.mapM k with
          | error fault => rfl
          | ok vs =>
              rw [hr] at ih
              show Except.ok (v.erase :: Value.eraseAll vs) = Except.ok (v :: vs)
              rw [Except.ok.inj hb, Except.ok.inj ih]

theorem mapM_agrees {k k' : β → Kernel Value}
    (h : ∀ b, k b = .error .abort ∨ k' b = (k b).map Value.erase) (items : List β) :
    items.mapM k = .error .abort ∨ items.mapM k' = (items.mapM k).map Value.eraseAll := by
  induction items with
  | nil => exact Or.inr rfl
  | cons b rest ih =>
      -- the first item that ends the eager run, if there is one, ends it for the whole list
      rw [List.mapM_cons, List.mapM_cons]
      rcases h b with hb | hb
      · rw [hb]
        exact Or.inl rfl
      · rw [hb]
        cases k b with
        | error fault => exact Or.inr rfl
        | ok v =>
            rcases ih with hr | hr
            · rw [hr]
              exact Or.inl rfl
            · rw [hr]
              cases rest.mapM k with
              | error fault => exact Or.inr rfl
              | ok vs => exact Or.inr rfl

/-- The items of a tuple, each made by a step of its own. -/
theorem mapM {k k' : β → Kernel Value} (h : ∀ b, Mirrors (k b) (k' b)) (items : List β) :
    Mirrors (items.mapM k >>= fun vs => .ok (.tuple vs))
      (items.mapM k' >>= fun vs => .ok (.tuple vs)) := by
  have herased := mapM_erased (fun b => (h b).erased) items
  constructor
  · cases hk : items.mapM k' with
    | error fault => rfl
    | ok vs =>
        rw [hk] at herased
        show Except.ok (Value.tuple (Value.eraseAll vs)) = Except.ok (Value.tuple vs)
        rw [Except.ok.inj herased]
  · rcases mapM_agrees (fun b => (h b).agrees) items with hk | hk
    · rw [hk]
      exact Or.inl rfl
    · rw [hk]
      cases items.mapM k with
      | error fault => exact Or.inr rfl
      | ok vs => exact Or.inr rfl

end Mirrors

end Kernel

end TensorCapture
