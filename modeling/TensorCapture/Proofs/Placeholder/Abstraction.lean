import TensorCapture.Module.Linear
import TensorCapture.Proofs.Placeholder.Kernels

set_option autoImplicit false

/-! # Placeholder execution abstracts eager execution

The same call is made twice: eagerly, and in placeholder mode on its operands without their
elements. Where the eager call gives a value, the call on placeholders gives the value without
elements, or refuses because the result depends on elements; the latter happens to `item` and
`nonzero` only. Where the call on placeholders gives a value, so does the eager call, unless an
index or a word leaves its range there.
-/

namespace TensorCapture

/-- The errors by which an operation on placeholders may part from the eager one: `item` needs
the one element, `nonzero` needs to know which elements are zero. -/
def LibraryError.NeedsElements (isItem isNonzero : Prop) : LibraryError → Prop
  | .dataDependentOutput _ => isItem
  | .dynamicOutputShape _ => isNonzero
  | _ => False

namespace Kernel

/-- A call in placeholder mode abstracts the eager call, up to the excused errors. -/
structure Abstracts (excused : LibraryError → Prop) (eager placeholder : Kernel Value) : Prop where
  /-- What the call in placeholder mode gives holds no elements. -/
  erased : placeholder.map Value.erase = placeholder
  complete : ∀ v, eager = .ok v →
    placeholder = .ok v.erase ∨ ∃ e, excused e ∧ placeholder = .error (.error e)
  sound : ∀ w, placeholder = .ok w → eager ≠ .error .abort →
    ∃ v, eager = .ok v ∧ w = v.erase

variable {excused : LibraryError → Prop}

theorem Mirrors.abstracts {eager placeholder : Kernel Value} (h : Mirrors eager placeholder) :
    Abstracts excused eager placeholder := by
  obtain ⟨herased, hagrees⟩ := h
  refine ⟨herased, ?_, ?_⟩
  · -- an eager run that gave a value did not end early
    intro v hv
    rcases hagrees with habort | heq
    · rw [hv] at habort
      cases habort
    · rw [heq, hv]
      exact Or.inl rfl
  · intro w hw hne
    rcases hagrees with habort | heq
    · exact absurd habort hne
    · cases he : eager with
      | error fault =>
          rw [heq, he] at hw
          cases hw
      | ok v =>
          rw [heq, he] at hw
          exact ⟨v, rfl, (Except.ok.inj hw).symm⟩

/-- A call that is refused on placeholders for an excused reason. -/
theorem Abstracts.refused {e : LibraryError} (he : excused e) (eager : Kernel Value) :
    Abstracts excused eager (.error (.error e)) := by
  refine ⟨rfl, fun v _ => Or.inr ⟨e, he, rfl⟩, ?_⟩
  intro w hw
  cases hw

variable {isItem isNonzero : Prop}

theorem item_abstracts (h : isItem) (this : Tensor) :
    Abstracts (LibraryError.NeedsElements isItem isNonzero) (item .eager this)
      (item .placeholder this.erase) :=
  .refused h _

theorem nonzero_abstracts (h : isNonzero) (input : Value) :
    Abstracts (LibraryError.NeedsElements isItem isNonzero) (nonzero .eager input)
      (nonzero .placeholder input.erase) := by
  cases input with
  | tensor this => exact .refused h _
  | _ => exact (Mirrors.error _).abstracts

end Kernel

namespace Library

open Kernel

theorem function_abstracts (name : String) (args : List Value) (kwargs : Named Value) :
    Abstracts (LibraryError.NeedsElements False (name = "nonzero"))
      (function .eager name args kwargs)
      (function .placeholder name (Value.eraseAll args) (kwargs.mapValues Value.erase)) := by
  fun_cases function .eager name args kwargs
  -- the last case is every name or number of arguments without a function
  case case12 hzeros hones hadd hsub hmul hdiv hrelu hneg hmatmul hnonzero hmax =>
    -- the function is refused for its name or the number of arguments, which erasing keeps
    have hrefused : function .placeholder name (Value.eraseAll args) (kwargs.mapValues Value.erase)
        = Kernel.refuse (.function name args.length) := by
      rcases args with _ | ⟨a, _ | ⟨b, _ | ⟨c, rest⟩⟩⟩ <;> simp_all [function, Value.eraseAll]
    rw [hrefused]
    exact (Mirrors.error _).abstracts
  all_goals simp only [Value.eraseAll, function]
  · exact (elementwise_mirrors "add" _ _ _).abstracts
  · exact (elementwise_mirrors "sub" _ _ _).abstracts
  · exact (elementwise_mirrors "mul" _ _ _).abstracts
  · exact (elementwise_mirrors "div" _ _ _).abstracts
  · exact (unary_mirrors _ _).abstracts
  · exact (unary_mirrors _ _).abstracts
  · exact (filled_mirrors _ _ _).abstracts
  · exact (filled_mirrors _ _ _).abstracts
  · exact (matmul_mirrors _ _).abstracts
  · exact nonzero_abstracts trivial _
  · exact (maxAlong_mirrors _ _).abstracts

theorem modulo_mirrors (a b : Value) :
    Mirrors (modulo .eager a b) (modulo .placeholder a.erase b.erase) := by
  have tensors := elementwise_mirrors "mod" floatMod a b
  -- two integers, two numbers, or else tensors
  cases a with
  | int a =>
      cases b with
      | int b =>
          show Mirrors ((integerMod a b).map Value.int) ((integerMod a b).map Value.int)
          cases integerMod a b with
          | error fault => exact Mirrors.error fault
          | ok r => exact Mirrors.ok _
      | bool _ | float _ => exact Mirrors.ok _
      | _ => exact tensors
  | bool _ | float _ =>
      cases b with
      | int _ | bool _ | float _ => exact Mirrors.ok _
      | _ => exact tensors
  | _ => exact tensors

theorem squareRoot_mirrors (v : Value) : Mirrors (squareRoot v) (squareRoot v.erase) := by
  unfold squareRoot
  rw [numberOf_erase]
  exact Mirrors.bind _ fun x => Mirrors.ite _ (Mirrors.error _) (Mirrors.ok _)

theorem power_mirrors (base exponent : Value) :
    Mirrors (power base exponent) (power base.erase exponent.erase) := by
  unfold power
  rw [numberOf_erase, numberOf_erase]
  exact Mirrors.bind _ fun x => Mirrors.bind _ fun y => Mirrors.ok _

/-- No builtin operator takes more than three arguments. -/
theorem builtin_of_many (mode : Mode) (b : Builtin) (x y z u : Value) (rest : List Value) :
    builtin mode b (x :: y :: z :: u :: rest) =
      Kernel.fail (.argumentCount b.name (rest.length + 4)) := by
  cases b <;> cases x <;> rfl

theorem builtin_mirrors (b : Builtin) (args : List Value) :
    Mirrors (builtin .eager b args) (builtin .placeholder b (Value.eraseAll args)) := by
  -- each operator takes a fixed number of arguments and refuses any other
  rcases args with _ | ⟨x, _ | ⟨y, _ | ⟨z, _ | ⟨u, rest⟩⟩⟩⟩
  · cases b with
    | getRank | getWorldSize => exact Mirrors.ok _
    | _ => exact Mirrors.error _
  · cases b with
    | len => exact length_mirrors x
    | mathSqrt => exact squareRoot_mirrors x
    | elementSize =>
        cases x with
        | elementType t => exact Mirrors.ok _
        | _ => exact Mirrors.error _
    | setItem => cases x <;> exact Mirrors.error _
    | _ => exact Mirrors.error _
  · cases b with
    | getItem => exact subscript_mirrors x y
    | mod => exact modulo_mirrors x y
    | mathPow => exact power_mirrors x y
    | setItem | elementSize => cases x <;> exact Mirrors.error _
    | _ => exact Mirrors.error _
  · cases b with
    | setItem =>
        cases x with
        | tensor t => exact Mirrors.ok _
        | _ => exact Mirrors.error _
    | elementSize => cases x <;> exact Mirrors.error _
    | _ => exact Mirrors.error _
  · simp only [Value.eraseAll, builtin_of_many, Value.length_eraseAll]
    exact Mirrors.error _

/-! ## Functions and builtin operators -/

/-- `seed` and `manual_seed` do the same in both modes. -/
theorem callBuiltin_mirrors (g : Generator) (depth : Nat) (b : Builtin) (args : List Value) :
    Mirrors (callBuiltin ⟨g, 0⟩ b args).1
      (callBuiltin ⟨g, depth + 1⟩ b (Value.eraseAll args)).1 := by
  have plain := builtin_mirrors b args
  rcases args with _ | ⟨x, _ | ⟨y, rest⟩⟩
  · cases b with
    | seed => exact Mirrors.ok _
    | _ => exact plain
  · cases b with
    | manualSeed =>
        simp only [callBuiltin, Value.eraseAll, integerOf_erase]
        cases integerOf x with
        | error fault => exact Mirrors.error fault
        | ok seed => exact Mirrors.ok _
    | _ => exact plain
  · cases b <;> exact plain

theorem callFunction_rand (lib : Library) (args : List Value) (kwargs : Named Value) :
    (callFunction lib (.function "rand") args kwargs).1 =
      (uniform lib.mode args kwargs lib.generator).map Prod.fst := by
  simp only [callFunction]
  cases uniform lib.mode args kwargs lib.generator <;> rfl

theorem callFunction_of_ne_rand (lib : Library) {name : String} (h : name ≠ "rand")
    (args : List Value) (kwargs : Named Value) :
    callFunction lib (.function name) args kwargs = (function lib.mode name args kwargs, lib) := by
  unfold callFunction
  split
  · rename_i heq
    exact absurd (Target.function.inj heq) h
  · rename_i heq
    rw [Target.function.inj heq]
  · rename_i heq
    cases heq
  · rename_i hother _
    exact absurd rfl (hother name)

theorem callFunction_abstracts (g : Generator) (depth : Nat) (target : Target)
    (args : List Value) (kwargs : Named Value) :
    Abstracts (LibraryError.NeedsElements False (target = .function "nonzero"))
      (callFunction ⟨g, 0⟩ target args kwargs).1
      (callFunction ⟨g, depth + 1⟩ target (Value.eraseAll args)
        (kwargs.mapValues Value.erase)).1 := by
  cases target with
  | builtin b => exact (callBuiltin_mirrors g depth b args).abstracts
  | placeholder _ | method _ | module _ => exact (Mirrors.error _).abstracts
  | function name =>
      by_cases hrand : name = "rand"
      · subst hrand
        rw [callFunction_rand, callFunction_rand]
        exact (uniform_mirrors args kwargs g).abstracts
      · rw [callFunction_of_ne_rand _ hrand, callFunction_of_ne_rand _ hrand, Target.function.injEq]
        exact function_abstracts name args kwargs

/-! ## Methods -/

theorem axisQuery_mirrors (name : String) (this : Tensor) (numbers : List Nat) (all : Value)
    (hall : all.erase = all) (args : List Value) :
    Mirrors (axisQuery name this numbers all args)
      (axisQuery name this.erase numbers all (Value.eraseAll args)) := by
  rcases args with _ | ⟨axis, _ | ⟨second, rest⟩⟩
  · -- without an axis, all numbers
    have h := Mirrors.ok all
    rw [hall] at h
    exact h
  · show Mirrors (integerOf axis >>= _) (integerOf axis.erase >>= _)
    rw [integerOf_erase]
    refine Mirrors.bind _ fun axis => Mirrors.bind _ fun axis => ?_
    exact Mirrors.bind _ fun n => Mirrors.ok _
  · exact Mirrors.error _

theorem eraseAll_map_int (numbers : List Nat) :
    (Value.tuple (numbers.map fun n => .int (Word.signed n))).erase =
      .tuple (numbers.map fun n => .int (Word.signed n)) := by
  rw [Value.erase, Value.eraseAll_eq_map, List.map_map]
  rfl

/-- A method that takes one operand and refuses any other number of them. -/
theorem oneOperand_mirrors {f g : Value → Kernel Value} (fault : Fault LibraryError)
    (h : ∀ v, Mirrors (f v) (g v.erase)) (args : List Value) :
    Mirrors (match args with | [v] => f v | _ => .error fault)
      (match Value.eraseAll args with | [v] => g v | _ => .error fault) := by
  rcases args with _ | ⟨x, _ | ⟨y, rest⟩⟩
  · exact Mirrors.error fault
  · exact h x
  · exact Mirrors.error fault

theorem method_abstracts (name : String) (this : Tensor) (args : List Value)
    (kwargs : Named Value) :
    Abstracts (LibraryError.NeedsElements (name = "item") (name = "nonzero"))
      (method .eager name this args kwargs)
      (method .placeholder name this.erase (Value.eraseAll args)
        (kwargs.mapValues Value.erase)) := by
  unfold method
  split
  · exact item_abstracts rfl this
  · exact (axisQuery_mirrors _ this this.size _ rfl args).abstracts
  · exact (axisQuery_mirrors _ this this.stride _ (eraseAll_map_int _) args).abstracts
  · exact (Mirrors.ok _).abstracts
  · exact (Mirrors.ok _).abstracts
  · exact (Mirrors.bind (Outcome.ofBounded this.numel?) fun n => Mirrors.ok _).abstracts
  · exact (Mirrors.ok _).abstracts
  · exact (Mirrors.ok _).abstracts
  · exact (view_mirrors this args).abstracts
  · exact (view_mirrors this args).abstracts
  · exact (transpose_mirrors this).abstracts
  · exact (Mirrors.ok _).abstracts
  · exact (oneOperand_mirrors _ (elementwise_mirrors "add" _ (.tensor this)) args).abstracts
  · exact (oneOperand_mirrors _ (elementwise_mirrors "sub" _ (.tensor this)) args).abstracts
  · exact (oneOperand_mirrors _ (elementwise_mirrors "mul" _ (.tensor this)) args).abstracts
  · exact (oneOperand_mirrors _ (elementwise_mirrors "div" _ (.tensor this)) args).abstracts
  · exact (unary_mirrors _ (.tensor this)).abstracts
  · exact (unary_mirrors _ (.tensor this)).abstracts
  · exact nonzero_abstracts rfl (.tensor this)
  · exact (oneOperand_mirrors _ (maxAlong_mirrors (.tensor this)) args).abstracts
  · exact (zerosLike_mirrors this args).abstracts
  · exact (zerosLike_mirrors this args).abstracts
  · exact (total_mirrors this).abstracts
  · exact (Mirrors.ok _).abstracts
  · refine (oneOperand_mirrors _ (fun count => ?_) args).abstracts
    rw [integerOf_erase]
    exact Mirrors.bind _ fun count => pieces_mirrors this count
  · rw [shapeOf_eraseAll]
    exact (Mirrors.bind _ fun counts => tile_mirrors this counts).abstracts
  · exact (Mirrors.error _).abstracts

theorem callMethod_abstracts (g : Generator) (depth : Nat) (name : String) (receiver : Value)
    (args : List Value) (kwargs : Named Value) :
    Abstracts (LibraryError.NeedsElements (name = "item") (name = "nonzero"))
      (callMethod ⟨g, 0⟩ name receiver args kwargs)
      (callMethod ⟨g, depth + 1⟩ name receiver.erase (Value.eraseAll args)
        (kwargs.mapValues Value.erase)) := by
  cases receiver with
  | tensor this => exact method_abstracts name this args kwargs
  | _ => exact (Mirrors.error _).abstracts

end Library

/-! ## Linear layers -/

namespace Linear

open Kernel

theorem apply_mirrors (l : Linear) (input : Tensor) :
    Mirrors ((l.apply input).map Value.tensor) ((l.erase.apply input.erase).map Value.tensor) := by
  obtain ⟨layer, ⟨tw, dw, size, strideW, storageW, gradW, classW⟩, bias⟩ := l
  rcases size with _ | ⟨outputs, _ | ⟨inputs, _ | ⟨_, _⟩⟩⟩
  case cons.cons.nil =>
    unfold apply
    simp only [erase, Tensor.erase]
    cases input.size.getLast? with
    | none => exact Mirrors.error _
    | some last =>
        by_cases hlast : last ≠ inputs
        · simp only [if_pos hlast]
          exact Mirrors.error _
        · simp only [if_neg hlast]
          -- the outputs are computed only where the input and the weight both have elements
          obtain ⟨t, device, size, stride, storage, grad, cls⟩ := input
          cases storage with
          | placeholder => exact Mirrors.ok _
          | dense x =>
              cases storageW with
              | placeholder => exact Mirrors.ok _
              | dense w =>
                  simp only [Tensor.elements?, map_bind]
                  exact Mirrors.fill (silent_ofBounded _) rfl fun elements => rfl
  all_goals exact Mirrors.error _

theorem forward_mirrors (l : Linear) (args : List Value) :
    Mirrors (l.forward args) (l.erase.forward (Value.eraseAll args)) := by
  rcases args with _ | ⟨x, _ | ⟨y, rest⟩⟩
  · exact Mirrors.error _
  · cases x with
    | tensor input => exact apply_mirrors l input
    | _ => exact Mirrors.error _
  · cases x <;> exact Mirrors.error _

end Linear

/-- **Placeholder execution is a sound abstraction of eager execution.** For every function,
builtin operator and method of the library, at every state of the generator, the call on
placeholders abstracts the eager call; `item` may refuse for its data dependent output,
`nonzero` for its dynamic output shape, and nothing else may. A linear layer and its copy
without elements are related in the same way, with no refusal excused. -/
theorem placeholder_abstracts_eager :
    (∀ (g : Generator) (depth : Nat) (target : Target) (args : List Value) (kwargs : Named Value),
      Kernel.Abstracts (LibraryError.NeedsElements False (target = .function "nonzero"))
        (Library.callFunction ⟨g, 0⟩ target args kwargs).1
        (Library.callFunction ⟨g, depth + 1⟩ target (Value.eraseAll args)
          (kwargs.mapValues Value.erase)).1) ∧
    (∀ (g : Generator) (depth : Nat) (name : String) (receiver : Value) (args : List Value)
        (kwargs : Named Value),
      Kernel.Abstracts (LibraryError.NeedsElements (name = "item") (name = "nonzero"))
        (Library.callMethod ⟨g, 0⟩ name receiver args kwargs)
        (Library.callMethod ⟨g, depth + 1⟩ name receiver.erase (Value.eraseAll args)
          (kwargs.mapValues Value.erase))) ∧
    (∀ (l : Linear) (args : List Value),
      Kernel.Abstracts (LibraryError.NeedsElements False False) (l.forward args)
        (l.erase.forward (Value.eraseAll args))) :=
  ⟨Library.callFunction_abstracts, Library.callMethod_abstracts,
    fun l args => (l.forward_mirrors args).abstracts⟩

end TensorCapture
