import Mathlib.Data.List.Forall2
import TensorCapture.Proofs.Placeholder.Mirror

set_option autoImplicit false

/-! # Values up to unknown numbers

A run on placeholders can go on with a number that it does not know, by taking another number of
the same class. A value then blurs to another one: elements are dropped, and numbers in it may have
become other numbers of their classes. Only tuples and lists can hold numbers that changed; every
other value is either a number itself, or it has no more than its elements to lose.
-/

namespace TensorCapture.Value

/-- Both are numbers, of one class. -/
def SameClass (v w : Value) : Prop :=
  ∃ a b, v.toScalar? = some a ∧ w.toScalar? = some b ∧ b.runtimeClass = a.runtimeClass

/-- The other value is this one without elements, but that numbers in it may be other numbers of
their classes. -/
inductive BlursTo : Value → Value → Prop where
  | erased {v w : Value} (h : w = v.erase) : BlursTo v w
  | number {v w : Value} (h : v.SameClass w) : BlursTo v w
  | tuple {items items' : List Value} (h : List.Forall₂ BlursTo items items') :
      BlursTo (tuple items) (tuple items')
  | list {items items' : List Value} (h : List.Forall₂ BlursTo items items') :
      BlursTo (list items) (list items')

/-- Neither a number nor a tuple or list. -/
def isFixed (v : Value) : Bool :=
  match v with
  | int _ | bool _ | float _ | tuple _ | list _ => false
  | _ => true

theorem blursTo_erase (v : Value) : v.BlursTo v.erase := .erased rfl

theorem allBlurTo_eraseAll (items : List Value) : List.Forall₂ BlursTo items (eraseAll items) := by
  induction items with
  | nil => exact .nil
  | cons v rest ih => exact .cons v.blursTo_erase ih

namespace BlursTo

variable {v w : Value} {items : List Value}

theorem eq_erase (h : v.BlursTo w) (hv : v.isFixed = true) : w = v.erase := by
  cases h with
  | erased h => exact h
  | number h =>
      obtain ⟨a, -, ha, -⟩ := h
      cases v with
      | int _ | bool _ | float _ => cases hv
      | _ => cases ha
  | tuple _ => cases hv
  | list _ => cases hv

theorem exists_tuple (h : (Value.tuple items).BlursTo w) :
    ∃ items', w = Value.tuple items' ∧ List.Forall₂ BlursTo items items' := by
  cases h with
  | erased h => exact ⟨eraseAll items, h, allBlurTo_eraseAll items⟩
  | number h =>
      obtain ⟨a, -, ha, -⟩ := h
      cases ha
  | tuple h => exact ⟨_, rfl, h⟩

theorem exists_list (h : (Value.list items).BlursTo w) :
    ∃ items', w = Value.list items' ∧ List.Forall₂ BlursTo items items' := by
  cases h with
  | erased h => exact ⟨eraseAll items, h, allBlurTo_eraseAll items⟩
  | number h =>
      obtain ⟨a, -, ha, -⟩ := h
      cases ha
  | list h => exact ⟨_, rfl, h⟩

/-- A number stays a number of its class. -/
theorem exists_scalar (h : v.BlursTo w) {a : Scalar} (hv : v.toScalar? = some a) :
    ∃ b, w.toScalar? = some b ∧ b.runtimeClass = a.runtimeClass := by
  cases h with
  | erased h =>
      rw [h, toScalar?_erase]
      exact ⟨a, hv, rfl⟩
  | number h =>
      obtain ⟨a', b, ha', hb, hclass⟩ := h
      obtain rfl := Option.some.inj (ha'.symm.trans hv)
      exact ⟨b, hb, hclass⟩
  | tuple _ => cases hv
  | list _ => cases hv

/-- What is not a number does not become one. -/
theorem toScalar?_eq_none (h : v.BlursTo w) (hv : v.toScalar? = Option.none) :
    w.toScalar? = Option.none := by
  cases h with
  | erased h => rw [h, toScalar?_erase, hv]
  | number h =>
      obtain ⟨a, -, ha, -⟩ := h
      rw [hv] at ha
      cases ha
  | tuple _ => rfl
  | list _ => rfl

/-- A tensor loses its elements, and what is not a tensor does not become one. -/
theorem toTensor?_eq (h : v.BlursTo w) : w.toTensor? = v.toTensor?.map Tensor.erase := by
  cases h with
  | erased h => rw [h, toTensor?_erase]
  | number h =>
      obtain ⟨a, b, ha, hb, -⟩ := h
      cases v with
      | int _ | bool _ | float _ =>
          cases w with
          | int _ | bool _ | float _ => rfl
          | _ => cases hb
      | _ => cases ha
  | tuple _ => rfl
  | list _ => rfl

theorem typeName_eq (h : v.BlursTo w) : w.typeName = v.typeName := by
  cases h with
  | erased h => rw [h, typeName_erase]
  | number h =>
      obtain ⟨a, b, ha, hb, hclass⟩ := h
      cases v with
      | int _ | bool _ | float _ =>
          cases ha
          cases w with
          | int _ | bool _ | float _ =>
              cases hb
              cases hclass <;> rfl
          | _ => cases hb
      | _ => cases ha
  | tuple _ => rfl
  | list _ => rfl

theorem eq_of_tensor {this : Tensor} (h : (tensor this).BlursTo w) : w = tensor this.erase :=
  h.eq_erase rfl

end BlursTo

mutual

/-- Elements that are dropped once more. -/
theorem BlursTo.erase {v w : Value} (h : v.BlursTo w) : v.BlursTo w.erase := by
  cases h with
  | erased h => exact .erased (by rw [h, erase_erase])
  | number h =>
      obtain ⟨a, b, ha, hb, hclass⟩ := h
      exact .number ⟨a, b, ha, by rw [toScalar?_erase, hb], hclass⟩
  | tuple h => exact .tuple (allBlurTo_erase h)
  | list h => exact .list (allBlurTo_erase h)

theorem allBlurTo_erase {items items' : List Value} (h : List.Forall₂ BlursTo items items') :
    List.Forall₂ BlursTo items (eraseAll items') := by
  cases h with
  | nil => exact .nil
  | cons hitem hrest => exact .cons hitem.erase (allBlurTo_erase hrest)

end

/-! ## Arguments given by name -/

/-- The same names, and values that blur to each other under each. -/
def NamedBlurTo (kwargs kwargs' : Named Value) : Prop :=
  List.Forall₂ (fun entry entry' => entry'.1 = entry.1 ∧ entry.2.BlursTo entry'.2) kwargs kwargs'

theorem NamedBlurTo.get?_rel {kwargs kwargs' : Named Value} (h : NamedBlurTo kwargs kwargs')
    (name : String) : Option.Rel BlursTo (kwargs.get? name) (kwargs'.get? name) := by
  unfold Named.get?
  induction h with
  | nil => exact .none
  | @cons entry entry' _ _ hentry _ ih =>
      obtain ⟨key, v⟩ := entry
      obtain ⟨key', v'⟩ := entry'
      obtain ⟨rfl, hv⟩ := hentry
      rw [List.lookup_cons, List.lookup_cons]
      cases name == key' with
      | true => exact .some hv
      | false => exact ih

end TensorCapture.Value
