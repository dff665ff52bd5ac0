import TensorCapture.Proofs.Placeholder.Abstraction
import TensorCapture.Proofs.Shadow.Plain
import TensorCapture.Proofs.Shadow.Unknown

set_option autoImplicit false

/-! # Operations on unknown numbers

Some operations take a number for an index, an axis, a count or an extent, and which number it is
decides on more than the elements of what they give. All other operations give what they would give
for the right numbers, without elements and up to unknown numbers. A kernel that computes elements
from a number does not get to it on placeholders.
-/

namespace TensorCapture

/-! ## Operands that are counts -/

/-- Whether the first operand is what the operation is applied to, and no count. -/
def Target.hasReceiver : Target → Bool
  | method _ => true
  | builtin b => b = .getItem
  | _ => false

/-- The operands from which an operation may take counts. -/
def Target.countsIn {α : Type} (target : Target) (args : List α) : List α :=
  if target.hasReceiver then args.tail else args

/-- Whether the items of the value differ in no more than elements and numbers: the rows of a
tensor, or the extents of a size. -/
def Value.isUniform : Value → Bool
  | tensor _ | size _ => true
  | _ => false

/-- Whether the operation on these operands takes a number for a count: for an extent of a shape,
for the axis of a maximum, for the number of copies or pieces, or for the index of an item that is
not like the others. -/
def Target.takesCounts (target : Target) (args : List Value) : Bool :=
  match target with
  | builtin b => b = .getItem && !args.head?.any Value.isUniform
  | function name => ["zeros", "ones", "rand", "max"].contains name
  | method name =>
      ["view", "reshape", "new_empty", "new_zeros", "chunk", "repeat", "max"].contains name
  | _ => false

/-- What the operation takes counts from is the same without elements. -/
def Target.SameCounts (target : Target) (args args' : List Value) : Prop :=
  target.takesCounts args = true → target.countsIn args' = Value.eraseAll (target.countsIn args)

namespace Kernel

/-! ## Kernels -/

/-- Where both runs answer, the eager result blurs to what the run on placeholders gives. -/
def Blurs (eager placeholder : Kernel Value) : Prop :=
  ∀ v w, eager = .ok v → placeholder = .ok w → v.BlursTo w

/-- On the same operands without elements, it is the eager result without elements. -/
theorem Abstracts.eq_erase {excused : LibraryError → Prop} {eager placeholder : Kernel Value}
    (h : Abstracts excused eager placeholder) {v w : Value} (hv : eager = .ok v)
    (hw : placeholder = .ok w) : w = v.erase := by
  rcases h.complete v hv with hok | ⟨e, -, herror⟩
  · exact (Except.ok.inj (hok.symm.trans hw)).symm
  · rw [herror] at hw
    cases hw

theorem Mirrors.eq_erase {eager placeholder : Kernel Value} (h : Mirrors eager placeholder)
    {v w : Value} (hv : eager = .ok v) (hw : placeholder = .ok w) : w = v.erase := by
  have habstracts : Abstracts (fun _ => False) eager placeholder := h.abstracts
  exact habstracts.eq_erase hv hw

theorem Mirrors.blurs {eager placeholder : Kernel Value} (h : Mirrors eager placeholder) :
    Blurs eager placeholder :=
  fun _ _ hv hw => .erased (h.eq_erase hv hw)

theorem blurs_error (fault : Fault LibraryError) (placeholder : Kernel Value) :
    Blurs (.error fault) placeholder := by
  intro v w hv
  cases hv

theorem blurs_error_right (eager : Kernel Value) (fault : Fault LibraryError) :
    Blurs eager (.error fault) := by
  intro v w _ hw
  cases hw

theorem blurs_bind {α : Type} (k : Kernel α) {f g : α → Kernel Value} (h : ∀ a, Blurs (f a) (g a)) :
    Blurs (k >>= f) (k >>= g) := by
  cases k with
  | error fault => exact blurs_error _ _
  | ok a => exact h a

variable {a a' b b' : Value}

/-- A number that the elements are computed with is not looked at on placeholders. -/
theorem onTensor_blurs (name : String) (op : Float → Float → Float) (flip : Bool)
    (this : Tensor) (h : a.BlursTo a') :
    Blurs (onTensor .eager name op flip this a)
      (onTensor .placeholder name op flip this.erase a') := by
  have mirrored := (onTensor_mirrors name op flip this a).blurs
  cases h with
  | erased h =>
      rw [h]
      exact mirrored
  | number h =>
      obtain ⟨x, y, hx, hy, -⟩ := h
      cases a with
      | int _ | bool _ | float _ =>
          cases a' with
          | int _ | bool _ | float _ => exact (onScalar_mirrors _ this).blurs
          | _ => cases hy
      | _ => cases hx
  | tuple _ => exact blurs_error _ _
  | list _ => exact blurs_error _ _

theorem elementwise_blurs (name : String) (op : Float → Float → Float) (ha : a.BlursTo a')
    (hb : b.BlursTo b') :
    Blurs (elementwise .eager name op a b) (elementwise .placeholder name op a' b') := by
  cases a with
  | tensor this =>
      rw [ha.eq_of_tensor]
      exact onTensor_blurs name op false this hb
  | _ =>
      cases b with
      | tensor this =>
          rw [hb.eq_of_tensor]
          have second := onTensor_blurs name op true this ha
          cases a' with
          | tensor other => cases ha.toTensor?_eq
          | _ => exact second
      | _ => exact blurs_error _ _

theorem unary_blurs (op : Float → Float) (ha : a.BlursTo a') :
    Blurs (unary .eager op a) (unary .placeholder op a') := by
  cases a with
  | tensor this =>
      rw [ha.eq_of_tensor]
      exact (unary_mirrors op (.tensor this)).blurs
  | _ => exact blurs_error _ _

theorem matmul_blurs (ha : a.BlursTo a') (hb : b.BlursTo b') :
    Blurs (matmul .eager a b) (matmul .placeholder a' b') := by
  cases a with
  | tensor this =>
      rw [ha.eq_of_tensor]
      cases b with
      | tensor other =>
          rw [hb.eq_of_tensor]
          exact (matmul_mirrors (.tensor this) (.tensor other)).blurs
      | _ => exact blurs_error _ _
  | _ => exact blurs_error _ _

theorem nonzero_blurs (ha : a.BlursTo a') :
    Blurs (nonzero .eager a) (nonzero .placeholder a') := by
  cases a with
  | tensor this =>
      rw [ha.eq_of_tensor]
      exact blurs_error_right _ _
  | _ => exact blurs_error _ _

/-- The number of items does not depend on what the items are. -/
theorem length_blurs (ha : a.BlursTo a') : Blurs (length a) (length a') := by
  cases a with
  | tuple items =>
      obtain ⟨items', rfl, hitems⟩ := ha.exists_tuple
      unfold length
      dsimp only
      rw [hitems.length_eq]
      exact (Mirrors.ok _).blurs
  | list items =>
      obtain ⟨items', rfl, hitems⟩ := ha.exists_list
      unfold length
      dsimp only
      rw [hitems.length_eq]
      exact (Mirrors.ok _).blurs
  | int _ | bool _ | float _ => exact blurs_error _ _
  | _ =>
      rw [ha.eq_erase rfl]
      exact (length_mirrors _).blurs

/-- A computation that goes on from a number, whichever of its class the number is. -/
theorem numberOf_blurs (ha : a.BlursTo a') {f g : Scalar → Kernel Value}
    (h : ∀ x y, Blurs (f x) (g y)) : Blurs (numberOf a >>= f) (numberOf a' >>= g) := by
  unfold numberOf
  cases hx : a.toScalar? with
  | none => exact blurs_error _ _
  | some x =>
      obtain ⟨y, hy, -⟩ := ha.exists_scalar hx
      rw [hy]
      exact h x y

theorem blurs_float (x y : Float) : Blurs (.ok (.float x)) (.ok (.float y)) := by
  intro v w hv hw
  cases hv
  cases hw
  exact .number ⟨.float x, .float y, rfl, rfl, rfl⟩

/-! ## Subscripts -/

theorem itemOf_blurs {items items' : List Value} (h : List.Forall₂ Value.BlursTo items items')
    (index : Int64) : Blurs (itemOf items index) (itemOf items' index) := by
  unfold itemOf
  rw [← h.length_eq]
  refine blurs_bind _ fun position => ?_
  induction h generalizing position with
  | nil => exact blurs_error _ _
  | cons hitem _ ih =>
      cases position with
      | zero =>
          intro v w hv hw
          cases hv
          cases hw
          exact hitem
      | succ position => exact ih position

/-- Every row of a tensor is the same but for its elements. -/
theorem subscript_gives_row (mode : Mode) (this : Tensor) (index : Value) :
    Gives (fun v => ∃ storage, v = .tensor (this.derive this.size.tail storage) ∧
      (mode = .placeholder → storage = .placeholder)) (subscript mode (.tensor this) index) := by
  refine gives_then fun i => ?_
  dsimp only
  cases this.size with
  | nil => exact gives_error _
  | cons first rest =>
      refine gives_then fun position => ?_
      by_cases herases : mode.erases [this] = true
      · rw [if_pos herases]
        exact gives_ok ⟨_, rfl, fun _ => rfl⟩
      · rw [if_neg herases]
        refine gives_then fun row => gives_then fun storage => gives_ok ⟨storage, rfl, ?_⟩
        rintro rfl
        exact absurd rfl herases

theorem subscript_gives_extent (mode : Mode) (extents : List Nat) (index : Value) :
    Gives (fun v => ∃ n, v = .int n) (subscript mode (.size extents) index) := by
  refine gives_then fun i => gives_then fun position => gives_then fun extent => ?_
  exact gives_ok ⟨_, rfl⟩

/-- Nothing is selected from a number. -/
theorem subscript_of_scalar {x : Scalar} (ha : a.toScalar? = some x) (mode : Mode) (index : Value) :
    Gives (fun _ => False) (subscript mode a index) := by
  refine gives_then fun i => ?_
  cases a with
  | int _ | bool _ | float _ => exact gives_error _
  | _ => cases ha

/-- The item at an index, or at any index where one is like the others. -/
theorem subscript_blurs (ha : a.BlursTo a')
    (hindex : a.isUniform = false → b' = b.erase) :
    Blurs (subscript .eager a b) (subscript .placeholder a' b') := by
  cases a with
  | tensor this =>
      intro v w hv hw
      rw [ha.eq_of_tensor] at hw
      obtain ⟨storage, rfl, -⟩ := subscript_gives_row .eager this b v hv
      obtain ⟨storage', rfl, hplaceholder⟩ := subscript_gives_row .placeholder this.erase b' w hw
      rw [hplaceholder rfl]
      exact .erased rfl
  | size extents =>
      intro v w hv hw
      rw [ha.eq_erase rfl] at hw
      obtain ⟨n, rfl⟩ := subscript_gives_extent .eager extents b v hv
      obtain ⟨m, rfl⟩ := subscript_gives_extent .placeholder extents b' w hw
      exact .number ⟨.int n, .int m, rfl, rfl, rfl⟩
  | tuple items =>
      obtain ⟨items', rfl, hitems⟩ := ha.exists_tuple
      rw [hindex rfl]
      unfold subscript
      rw [integerOf_erase]
      exact blurs_bind _ fun index => itemOf_blurs hitems index
  | list items =>
      obtain ⟨items', rfl, hitems⟩ := ha.exists_list
      rw [hindex rfl]
      unfold subscript
      rw [integerOf_erase]
      exact blurs_bind _ fun index => itemOf_blurs hitems index
  | int _ | bool _ | float _ => exact fun v _ hv => (subscript_of_scalar rfl .eager b v hv).elim
  | _ =>
      rw [ha.eq_erase rfl, hindex rfl]
      exact (subscript_mirrors _ _).blurs

/-! ## Creation -/

theorem elementTypeOf_eq {kwargs kwargs' : Named Value} (h : Value.NamedBlurTo kwargs kwargs') :
    elementTypeOf kwargs' = elementTypeOf kwargs := by
  have hdtype := h.get?_rel "dtype"
  unfold elementTypeOf
  generalize kwargs.get? "dtype" = found at hdtype ⊢
  generalize kwargs'.get? "dtype" = found' at hdtype ⊢
  cases hdtype with
  | none => rfl
  | @some v w hv =>
      cases hv with
      | erased h =>
          subst h
          cases v <;> rfl
      | number h =>
          have hname := (Value.BlursTo.number h).typeName_eq
          obtain ⟨x, y, hx, hy, -⟩ := h
          cases v with
          | int _ | bool _ | float _ =>
              cases w with
              | int _ | bool _ | float _ =>
                  exact congrArg (fun name => fail (.notAnElementType name)) hname
              | _ => cases hy
          | _ => cases hx
      | tuple _ => rfl
      | list _ => rfl

/-- Only the element type is asked for by name. -/
theorem filled_blurs (value : Float) (args : List Value) {kwargs kwargs' : Named Value}
    (h : Value.NamedBlurTo kwargs kwargs') :
    Blurs (filled .eager value args kwargs)
      (filled .placeholder value (Value.eraseAll args) kwargs') := by
  have hfilled : filled .placeholder value (Value.eraseAll args) kwargs' =
      filled .placeholder value (Value.eraseAll args) (kwargs.mapValues Value.erase) := by
    unfold filled
    rw [elementTypeOf_eq h, elementTypeOf_erase]
  rw [hfilled]
  exact (filled_mirrors value args kwargs).blurs

theorem uniform_blurs (args : List Value) {kwargs kwargs' : Named Value}
    (h : Value.NamedBlurTo kwargs kwargs') (g : Generator) :
    Blurs ((uniform .eager args kwargs g).map Prod.fst)
      ((uniform .placeholder (Value.eraseAll args) kwargs' g).map Prod.fst) := by
  have huniform : uniform .placeholder (Value.eraseAll args) kwargs' g =
      uniform .placeholder (Value.eraseAll args) (kwargs.mapValues Value.erase) g := by
    unfold uniform
    rw [elementTypeOf_eq h, elementTypeOf_erase]
  rw [huniform]
  exact (uniform_mirrors args kwargs g).blurs

end Kernel

namespace Library

open Kernel

variable {a a' b b' : Value} {args args' : List Value}

/-! ## Operators -/

theorem exists_int_of_class {x : Scalar} (ha : a.toScalar? = some x)
    (hx : x.runtimeClass = .int) : ∃ i, a = .int i := by
  cases a with
  | int i => exact ⟨i, rfl⟩
  | bool _ | float _ =>
      cases ha
      cases hx
  | _ => cases ha

/-- The remainder of two integers is an integer, that of other numbers is not. -/
theorem class_of_modulo {mode : Mode} {x y : Scalar} {v : Value} (ha : a.toScalar? = some x)
    (hb : b.toScalar? = some y) (h : modulo mode a b = .ok v) :
    ∃ c, v.toScalar? = some c ∧ c.runtimeClass =
      if x.runtimeClass = .int ∧ y.runtimeClass = .int then .int else .float := by
  unfold modulo at h
  split at h
  · rename_i i j
    cases ha
    cases hb
    cases hr : integerMod i j with
    | error fault =>
        rw [hr] at h
        cases h
    | ok r =>
        rw [hr] at h
        cases h
        exact ⟨.int r, rfl, rfl⟩
  · rename_i hnot
    rw [ha, hb] at h
    cases h
    refine ⟨.float _, rfl, ?_⟩
    rw [if_neg]
    · rfl
    · rintro ⟨hx, hy⟩
      obtain ⟨i, hi⟩ := exists_int_of_class ha hx
      obtain ⟨j, hj⟩ := exists_int_of_class hb hy
      exact hnot i j hi hj

/-- Unless both operands are numbers, the remainder is formed element by element. -/
theorem modulo_eq_elementwise (mode : Mode)
    (h : a.toScalar? = none ∨ b.toScalar? = none) :
    modulo mode a b = elementwise mode "mod" floatMod a b := by
  unfold modulo
  split
  · rcases h with h | h <;> cases h
  · split
    · rename_i ha hb
      rcases h with h | h
      · rw [ha] at h
        cases h
      · rw [hb] at h
        cases h
    · rfl

theorem modulo_blurs (ha : a.BlursTo a') (hb : b.BlursTo b') :
    Blurs (modulo .eager a b) (modulo .placeholder a' b') := by
  have apart (h : a.toScalar? = none ∨ b.toScalar? = none)
      (h' : a'.toScalar? = none ∨ b'.toScalar? = none) :
      Blurs (modulo .eager a b) (modulo .placeholder a' b') := by
    rw [modulo_eq_elementwise _ h, modulo_eq_elementwise _ h']
    exact elementwise_blurs "mod" floatMod ha hb
  cases hx : a.toScalar? with
  | none => exact apart (.inl hx) (.inl (ha.toScalar?_eq_none hx))
  | some x =>
      cases hy : b.toScalar? with
      | none => exact apart (.inr hy) (.inr (hb.toScalar?_eq_none hy))
      | some y =>
          obtain ⟨x', hx', hxclass⟩ := ha.exists_scalar hx
          obtain ⟨y', hy', hyclass⟩ := hb.exists_scalar hy
          intro v w hv hw
          obtain ⟨c, hc, hcclass⟩ := class_of_modulo hx hy hv
          obtain ⟨c', hc', hcclass'⟩ := class_of_modulo hx' hy' hw
          refine .number ⟨c, c', hc, hc', ?_⟩
          rw [hcclass, hcclass', hxclass, hyclass]

theorem squareRoot_blurs (ha : a.BlursTo a') : Blurs (squareRoot a) (squareRoot a') := by
  refine numberOf_blurs ha fun x y => ?_
  by_cases hx : x.toFloat < 0.0
  · rw [if_pos hx]
    exact blurs_error _ _
  · rw [if_neg hx]
    by_cases hy : y.toFloat < 0.0
    · rw [if_pos hy]
      exact blurs_error_right _ _
    · rw [if_neg hy]
      exact blurs_float _ _

theorem power_blurs (ha : a.BlursTo a') (hb : b.BlursTo b') :
    Blurs (power a b) (power a' b') :=
  numberOf_blurs ha fun _ _ => numberOf_blurs hb fun _ _ => blurs_float _ _

theorem manyArguments_blurs (b : Builtin) {x y z u : Value} (rest : List Value)
    (placeholder : Kernel Value) :
    Blurs (builtin .eager b (x :: y :: z :: u :: rest)) placeholder := by
  rw [builtin_of_many]
  exact blurs_error _ _

theorem builtin_blurs (b : Builtin) (h : List.Forall₂ Value.BlursTo args args')
    (hcounts : (Target.builtin b).SameCounts args args') :
    Blurs (builtin .eager b args) (builtin .placeholder b args') := by
  cases h with
  | nil =>
      cases b with
      | getRank | getWorldSize => exact (Mirrors.ok _).blurs
      | _ => exact blurs_error _ _
  | @cons x x' rest rest' hx h =>
      cases h with
      | nil =>
          cases b with
          | len => exact length_blurs hx
          | mathSqrt => exact squareRoot_blurs hx
          | elementSize =>
              cases x with
              | elementType t =>
                  rw [hx.eq_erase rfl]
                  exact (Mirrors.ok _).blurs
              | _ => exact blurs_error _ _
          | setItem => cases x <;> exact blurs_error _ _
          | _ => exact blurs_error _ _
      | @cons y y' rest rest' hy h =>
          cases h with
          | nil =>
              cases b with
              | getItem =>
                  refine subscript_blurs hx fun hother => ?_
                  have htakes : (Target.builtin .getItem).takesCounts [x, y] = true := by
                    rw [Target.takesCounts, List.head?_cons, Option.any_some, hother]
                    rfl
                  exact (List.cons.inj (hcounts htakes)).1
              | mod => exact modulo_blurs hx hy
              | mathPow => exact power_blurs hx hy
              | setItem | elementSize => cases x <;> exact blurs_error _ _
              | _ => exact blurs_error _ _
          | @cons z z' rest rest' hz h =>
              cases h with
              | nil =>
                  cases b with
                  | setItem =>
                      cases x with
                      | tensor t =>
                          rw [hx.eq_of_tensor]
                          exact (Mirrors.ok .none).blurs
                      | _ => exact blurs_error _ _
                  | elementSize => cases x <;> exact blurs_error _ _
                  | _ => exact blurs_error _ _
              | cons _ _ => exact manyArguments_blurs b _ _

/-! ## Functions -/

variable {kwargs kwargs' : Named Value}

theorem function_blurs (name : String) (h : List.Forall₂ Value.BlursTo args args')
    (hkwargs : Value.NamedBlurTo kwargs kwargs')
    (hcounts : (Target.function name).SameCounts args args') :
    Blurs (function .eager name args kwargs) (function .placeholder name args' kwargs') := by
  fun_cases function .eager name args kwargs
  case case12 => exact blurs_error _ _
  case case7 | case8 =>
    obtain rfl : args' = Value.eraseAll args := hcounts rfl
    exact filled_blurs _ args hkwargs
  case case11 a b =>
    obtain rfl : args' = Value.eraseAll [a, b] := hcounts rfl
    exact (maxAlong_mirrors a b).blurs
  case case5 | case6 =>
    obtain _ | ⟨ha, _ | _⟩ := h
    exact unary_blurs _ ha
  case case10 =>
    obtain _ | ⟨ha, _ | _⟩ := h
    exact nonzero_blurs ha
  case case9 =>
    obtain _ | ⟨ha, _ | ⟨hb, _ | _⟩⟩ := h
    exact matmul_blurs ha hb
  all_goals
    obtain _ | ⟨ha, _ | ⟨hb, _ | _⟩⟩ := h
    exact elementwise_blurs _ _ ha hb

/-- The seed that is set does not show in the result. -/
theorem manualSeed_blurs (lib lib' : Library) (x x' : Value) :
    Blurs (callBuiltin lib .manualSeed [x]).1 (callBuiltin lib' .manualSeed [x']).1 := by
  simp only [callBuiltin]
  cases integerOf x with
  | error fault => exact blurs_error _ _
  | ok seed =>
      cases integerOf x' with
      | error fault => exact blurs_error_right _ _
      | ok seed' => exact (Mirrors.ok .none).blurs

theorem callBuiltin_blurs (g : Generator) (depth : Nat) (b : Builtin)
    (h : List.Forall₂ Value.BlursTo args args')
    (hcounts : (Target.builtin b).SameCounts args args') :
    Blurs (callBuiltin ⟨g, 0⟩ b args).1 (callBuiltin ⟨g, depth + 1⟩ b args').1 := by
  have plain := builtin_blurs b h hcounts
  cases h with
  | nil =>
      cases b with
      | seed => exact (Mirrors.ok _).blurs
      | _ => exact plain
  | @cons x x' rest rest' hx h =>
      cases h with
      | nil =>
          cases b with
          | manualSeed => exact manualSeed_blurs _ _ x x'
          | _ => exact plain
      | cons _ _ => cases b <;> exact plain

/-- A function or operator that gets the right counts. -/
theorem callFunction_blurs (g : Generator) (depth : Nat) {target : Target}
    (h : List.Forall₂ Value.BlursTo args args') (hkwargs : Value.NamedBlurTo kwargs kwargs')
    (hcounts : target.SameCounts args args') :
    Blurs (callFunction ⟨g, 0⟩ target args kwargs).1
      (callFunction ⟨g, depth + 1⟩ target args' kwargs').1 := by
  cases target with
  | builtin b => exact callBuiltin_blurs g depth b h hcounts
  | function name =>
      by_cases hrand : name = "rand"
      · subst hrand
        obtain rfl : args' = Value.eraseAll args := hcounts rfl
        rw [callFunction_rand, callFunction_rand]
        exact uniform_blurs args hkwargs g
      · rw [callFunction_of_ne_rand _ hrand, callFunction_of_ne_rand _ hrand]
        exact function_blurs name h hkwargs hcounts
  | _ => exact blurs_error _ _

/-! ## Methods -/

/-- A method that takes one operand and refuses any other number of them. -/
theorem oneOperand_blurs {f g : Value → Kernel Value} (fault : Fault LibraryError)
    (args args' : List Value) :
    (∀ v w, v.BlursTo w → Blurs (f v) (g w)) → List.Forall₂ Value.BlursTo args args' →
      Blurs (match args with | [v] => f v | _ => .error fault)
        (match args' with | [v] => g v | _ => .error fault) := by
  intro hfg h
  cases h with
  | nil => exact blurs_error _ _
  | @cons x x' rest rest' hx h =>
      cases h with
      | nil => exact hfg x x' hx
      | cons _ _ => exact blurs_error _ _

/-- Along any axis there is a number. -/
theorem axisQuery_gives_int (name : String) (this : Tensor) (numbers : List Nat)
    (all axis : Value) :
    Gives (fun v => ∃ n, v = .int n) (axisQuery name this numbers all [axis]) := by
  refine gives_then fun i => gives_then fun position => gives_then fun n => ?_
  exact gives_ok ⟨_, rfl⟩

theorem axisQuery_blurs (name : String) (this : Tensor) (numbers : List Nat) {all : Value}
    (hall : all.erase = all) (h : List.Forall₂ Value.BlursTo args args') :
    Blurs (axisQuery name this numbers all args)
      (axisQuery name this.erase numbers all args') := by
  cases h with
  | nil => exact (axisQuery_mirrors name this numbers all hall []).blurs
  | @cons x x' rest rest' _ h =>
      cases h with
      | nil =>
          intro v w hv hw
          obtain ⟨n, rfl⟩ := axisQuery_gives_int name this numbers all x v hv
          obtain ⟨m, rfl⟩ := axisQuery_gives_int name this.erase numbers all x' w hw
          exact .number ⟨.int n, .int m, rfl, rfl, rfl⟩
      | cons _ _ => exact blurs_error _ _

theorem method_blurs (name : String) (this : Tensor) (h : List.Forall₂ Value.BlursTo args args')
    (hcounts : (Target.method name).takesCounts [] = true → args' = Value.eraseAll args) :
    Blurs (method .eager name this args kwargs)
      (method .placeholder name this.erase args' kwargs') := by
  have operands (op : String) (f : Float → Float → Float) (v w : Value) (hvw : v.BlursTo w) :
      Blurs (elementwise .eager op f (.tensor this) v)
        (elementwise .placeholder op f (.tensor this.erase) w) :=
    elementwise_blurs op f (Value.blursTo_erase (.tensor this)) hvw
  unfold method
  split
  · exact blurs_error_right _ _
  · exact axisQuery_blurs _ this this.size rfl h
  · exact axisQuery_blurs _ this this.stride (eraseAll_map_int _) h
  · exact (Mirrors.ok _).blurs
  · exact (Mirrors.ok _).blurs
  · exact (Mirrors.bind (Outcome.ofBounded this.numel?) fun n => Mirrors.ok _).blurs
  · exact (Mirrors.ok _).blurs
  · exact (Mirrors.ok _).blurs
  · obtain rfl := hcounts rfl
    exact (view_mirrors this args).blurs
  · obtain rfl := hcounts rfl
    exact (view_mirrors this args).blurs
  · exact (transpose_mirrors this).blurs
  · exact (Mirrors.ok _).blurs
  · exact oneOperand_blurs _ args args' (operands "add" _) h
  · exact oneOperand_blurs _ args args' (operands "sub" _) h
  · exact oneOperand_blurs _ args args' (operands "mul" _) h
  · exact oneOperand_blurs _ args args' (operands "div" _) h
  · exact (unary_mirrors _ (.tensor this)).blurs
  · exact (unary_mirrors _ (.tensor this)).blurs
  · exact blurs_error_right _ _
  · obtain rfl := hcounts rfl
    exact (oneOperand_mirrors _ (maxAlong_mirrors (.tensor this)) args).blurs
  · obtain rfl := hcounts rfl
    exact (zerosLike_mirrors this args).blurs
  · obtain rfl := hcounts rfl
    exact (zerosLike_mirrors this args).blurs
  · exact (total_mirrors this).blurs
  · exact (Mirrors.ok _).blurs
  · obtain rfl := hcounts rfl
    refine (oneOperand_mirrors _ (fun count => ?_) args).blurs
    rw [integerOf_erase]
    exact Mirrors.bind _ fun count => pieces_mirrors this count
  · obtain rfl := hcounts rfl
    rw [shapeOf_eraseAll]
    exact (Mirrors.bind _ fun counts => tile_mirrors this counts).blurs
  · exact blurs_error _ _

/-- A method that gets the right counts. -/
theorem callMethod_blurs (lib lib' : Library) (hlib : lib.mode = .eager)
    (hlib' : lib'.mode = .placeholder) (name : String) {receiver receiver' : Value}
    (hreceiver : receiver.BlursTo receiver') (h : List.Forall₂ Value.BlursTo args args')
    (hcounts : (Target.method name).SameCounts (receiver :: args) (receiver' :: args')) :
    Blurs (lib.callMethod name receiver args kwargs)
      (lib'.callMethod name receiver' args' kwargs') := by
  cases receiver with
  | tensor this =>
      rw [hreceiver.eq_of_tensor]
      unfold callMethod
      rw [hlib, hlib']
      exact method_blurs name this h hcounts
  | _ => exact blurs_error _ _

end Library

end TensorCapture
