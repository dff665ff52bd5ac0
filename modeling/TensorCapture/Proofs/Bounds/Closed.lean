import TensorCapture.Proofs.Bounds.Moving

set_option autoImplicit false

/-! # The library is closed under well-formed tensors

Calls on well-formed operands give well-formed results, in both modes, and never ask a placeholder
for its elements. A call ends the run only where an integer that it counts with is out of range,
or where it is about an axis of a tensor that has none: no read of an element is out of range.
-/

namespace TensorCapture

namespace Library

open Kernel

variable {mode : Mode}

/-! ## Functions -/

/-- An integer that the function counts with is out of range. -/
def FunctionOverflows (mode : Mode) (name : String) (args : List Value) (kwargs : Named Value) :
    Prop :=
  match name, args with
  | "add", [a, b] => ElementwiseOverflows a b
  | "sub", [a, b] => ElementwiseOverflows a b
  | "mul", [a, b] => ElementwiseOverflows a b
  | "div", [a, b] => ElementwiseOverflows a b
  | "zeros", args => FilledOverflows mode args kwargs
  | "ones", args => FilledOverflows mode args kwargs
  | "matmul", [a, b] => MatmulOverflows mode a b
  | "max", [a, axis] =>
      ∃ this, a = .tensor this ∧ (integerOf axis).LeadsTo (MaxOverflows mode this)
  | _, _ => False

/-- A maximum is asked for along an axis of a tensor that has none. -/
def FunctionAxisOfScalar (name : String) (args : List Value) : Prop :=
  name = "max" ∧ ∃ this axis, args = [.tensor this, axis] ∧
    (integerOf axis).LeadsTo (AxisOfScalar this)

theorem conforms_function (name : String) {args : List Value} (h : ∀ v ∈ args, v.WellFormed)
    (kwargs : Named Value) :
    Conforms (FunctionOverflows mode name args kwargs ∨ FunctionAxisOfScalar name args)
      Value.WellFormed (function mode name args kwargs) := by
  unfold function
  split
  · exact (conforms_elementwise "add" _ (h _ (by simp)) (h _ (by simp))).iff
      (by simp [FunctionOverflows, FunctionAxisOfScalar])
  · exact (conforms_elementwise "sub" _ (h _ (by simp)) (h _ (by simp))).iff
      (by simp [FunctionOverflows, FunctionAxisOfScalar])
  · exact (conforms_elementwise "mul" _ (h _ (by simp)) (h _ (by simp))).iff
      (by simp [FunctionOverflows, FunctionAxisOfScalar])
  · exact (conforms_elementwise "div" _ (h _ (by simp)) (h _ (by simp))).iff
      (by simp [FunctionOverflows, FunctionAxisOfScalar])
  · exact (conforms_unary _ (h _ (by simp))).iff (by simp [FunctionOverflows, FunctionAxisOfScalar])
  · exact (conforms_unary _ (h _ (by simp))).iff (by simp [FunctionOverflows, FunctionAxisOfScalar])
  · exact (conforms_filled _ _ kwargs).iff (by simp [FunctionOverflows, FunctionAxisOfScalar])
  · exact (conforms_filled _ _ kwargs).iff (by simp [FunctionOverflows, FunctionAxisOfScalar])
  · exact (conforms_matmul (h _ (by simp)) (h _ (by simp))).iff
      (by simp [FunctionOverflows, FunctionAxisOfScalar])
  · exact (conforms_nonzero (h _ (by simp))).iff
      (by simp [FunctionOverflows, FunctionAxisOfScalar])
  · refine (conforms_maxAlong (h _ (by simp))).iff ?_
    simp [FunctionOverflows, FunctionAxisOfScalar, leadsTo_or, and_or_left, exists_or]
  · -- no function has this name and takes so many arguments
    refine (conforms_refuse _).iff ?_
    unfold FunctionOverflows FunctionAxisOfScalar
    split <;> simp_all

/-! ## Builtin operators -/

/-- A remainder, or the sum that brings it to the sign of the divisor, is no signed word. -/
def IntegerModOverflows (a b : Int64) : Prop :=
  b ≠ 0 ∧
    (Word.remSigned? a b = none ∨
      ∃ r, Word.remSigned? a b = some r ∧
        (Word.addSigned? r b = none ∨
          ∃ s, Word.addSigned? r b = some s ∧ Word.remSigned? s b = none))

theorem conforms_integerMod (a b : Int64) :
    Conforms (IntegerModOverflows a b) (fun _ => True) (integerMod a b) := by
  unfold integerMod IntegerModOverflows
  by_cases hzero : b = 0
  · rw [if_pos hzero]
    exact (conforms_fail (by simp)).iff (by simp [hzero])
  · rw [if_neg hzero, and_iff_right hzero]
    refine ((conforms_ofBounded _).imp fun _ _ => trivial).iff ?_
    -- the sequence has no value where one of its steps has none
    cases hremainder : Word.remSigned? a b with
    | none => simp
    | some r =>
        cases hsum : Word.addSigned? r b with
        | none => simp [hsum]
        | some s => simp [hsum]

/-- An integer that the remainder counts with is out of range. -/
def ModuloOverflows (a b : Value) : Prop :=
  match a, b with
  | .int a, .int b => IntegerModOverflows a b
  | a, b => ElementwiseOverflows a b

theorem conforms_modulo {a b : Value} (ha : a.WellFormed) (hb : b.WellFormed) :
    Conforms (ModuloOverflows a b) Value.WellFormed (modulo mode a b) := by
  unfold modulo
  split
  · rename_i m n
    exact (conforms_integerMod m n).map fun r _ => by simp
  · rename_i hintegers
    have hends : ModuloOverflows a b = ElementwiseOverflows a b := by
      unfold ModuloOverflows
      split
      · exact absurd rfl (hintegers _ _ rfl)
      · rfl
    rw [hends]
    split
    · rename_i hnumber _
      refine (conforms_ok (by simp)).iff ?_
      simp only [false_iff]
      rintro ⟨this, rfl, -⟩
      cases hnumber
    · exact conforms_elementwise "mod" _ ha hb

theorem conforms_numberOf (v : Value) : Conforms False (fun _ => True) (numberOf v) :=
  (conforms_orFail (by simp) _).imp fun _ _ => trivial

theorem conforms_squareRoot (v : Value) : Conforms False Value.WellFormed (squareRoot v) := by
  refine (conforms_numberOf v).after fun x _ _ => ?_
  by_cases hnegative : x.toFloat < 0.0
  · rw [if_pos hnegative]
    exact conforms_fail (by simp)
  · rw [if_neg hnegative]
    exact conforms_ok (by simp)

theorem conforms_power (base exponent : Value) :
    Conforms False Value.WellFormed (power base exponent) :=
  (conforms_numberOf base).after fun _ _ _ =>
    (conforms_numberOf exponent).after fun _ _ _ => conforms_ok (by simp)

/-- An integer that the operator counts with is out of range. -/
def BuiltinOverflows (mode : Mode) (b : Builtin) (args : List Value) : Prop :=
  match b, args with
  | .getItem, [container, index] => (integerOf index).LeadsTo (SubscriptOverflows mode container)
  | .mod, [a, b] => ModuloOverflows a b
  | _, _ => False

theorem conforms_builtin (b : Builtin) {args : List Value} (h : ∀ v ∈ args, v.WellFormed) :
    Conforms (BuiltinOverflows mode b args) Value.WellFormed (builtin mode b args) := by
  unfold builtin
  split
  · exact conforms_subscript (h _ (by simp)) _
  · exact (conforms_ok (by simp)).iff (by simp [BuiltinOverflows])
  · exact (conforms_length _).iff (by simp [BuiltinOverflows])
  · exact conforms_modulo (h _ (by simp)) (h _ (by simp))
  · exact (conforms_ok (by simp)).iff (by simp [BuiltinOverflows])
  · exact (conforms_ok (by simp)).iff (by simp [BuiltinOverflows])
  · exact (conforms_ok (by simp)).iff (by simp [BuiltinOverflows])
  · exact (conforms_squareRoot _).iff (by simp [BuiltinOverflows])
  · exact (conforms_power _ _).iff (by simp [BuiltinOverflows])
  · -- the operator does not take so many arguments
    refine (conforms_fail (by simp)).iff ?_
    unfold BuiltinOverflows
    split <;> simp_all

theorem conforms_callBuiltin (lib : Library) (b : Builtin) {args : List Value}
    (h : ∀ v ∈ args, v.WellFormed) :
    Conforms (BuiltinOverflows lib.mode b args) Value.WellFormed (lib.callBuiltin b args).1 := by
  unfold callBuiltin
  split
  · exact (conforms_ok (by simp)).iff (by simp [BuiltinOverflows])
  · rename_i seed
    have hseed : Conforms (BuiltinOverflows lib.mode .manualSeed [seed]) Value.WellFormed
        ((integerOf seed).map fun _ => Value.none) :=
      ((conforms_integerOf seed).map fun _ _ => by simp).iff (by simp [BuiltinOverflows])
    cases hinteger : integerOf seed <;> simpa [hinteger, Except.map] using hseed
  · exact conforms_builtin b h

/-! ## Calls -/

/-- An integer that the call counts with is out of range. -/
def CallOverflows (mode : Mode) (target : Target) (args : List Value) (kwargs : Named Value) :
    Prop :=
  match target with
  | .function "rand" => FilledOverflows mode args kwargs
  | .function name => FunctionOverflows mode name args kwargs
  | .builtin b => BuiltinOverflows mode b args
  | _ => False

/-- A call that asks for a maximum along an axis of a tensor that has none. -/
def CallAxisOfScalar (target : Target) (args : List Value) : Prop :=
  ∃ name, target = .function name ∧ FunctionAxisOfScalar name args

theorem conforms_callFunction (lib : Library) (target : Target) {args : List Value}
    (h : ∀ v ∈ args, v.WellFormed) (kwargs : Named Value) :
    Conforms (CallOverflows lib.mode target args kwargs ∨ CallAxisOfScalar target args)
      Value.WellFormed (lib.callFunction target args kwargs).1 := by
  cases target with
  | builtin b =>
      exact (conforms_callBuiltin lib b h).iff (by simp [CallOverflows, CallAxisOfScalar])
  | placeholder _ | method _ | module _ =>
      exact (conforms_fail (by simp)).iff (by simp [CallOverflows, CallAxisOfScalar])
  | function name =>
      by_cases hrand : name = "rand"
      · subst hrand
        rw [callFunction_rand]
        have hdrawn : Conforms (FilledOverflows lib.mode args kwargs) Value.WellFormed
            ((uniform lib.mode args kwargs lib.generator).map Prod.fst) :=
          (conforms_uniform args kwargs lib.generator).map fun _ hdrawn => hdrawn
        exact hdrawn.iff (by simp [CallOverflows, CallAxisOfScalar, FunctionAxisOfScalar])
      · rw [callFunction_of_ne_rand _ hrand]
        refine (conforms_function name h kwargs).iff ?_
        simp [CallOverflows, CallAxisOfScalar]

/-! ## Methods -/

/-- An integer that the method counts with is out of range. -/
def MethodOverflows (mode : Mode) (name : String) (this : Tensor) (args : List Value) : Prop :=
  match name with
  | "size" | "stride" =>
      ∃ axis, args = [axis] ∧
        (integerOf axis).LeadsTo fun index => IndexOverflows index (max this.ndim 1)
  | "numel" => this.numel? = none
  | "view" | "reshape" => ViewOverflows this args
  | "t" => TransposeOverflows this
  | "add" | "sub" | "mul" | "div" =>
      ∃ other, args = [other] ∧ ElementwiseOverflows (.tensor this) other
  | "max" => ∃ axis, args = [axis] ∧ (integerOf axis).LeadsTo (MaxOverflows mode this)
  | "new_empty" | "new_zeros" => ZerosLikeOverflows mode this args
  | "chunk" => ∃ count, args = [count] ∧ (integerOf count).LeadsTo (PiecesOverflow this)
  | "repeat" => (shapeOf args).LeadsTo (TileOverflows mode this)
  | _ => False

/-- An extent, a stride or a maximum is asked for along an axis of a tensor that has none. -/
def MethodAxisOfScalar (name : String) (this : Tensor) (args : List Value) : Prop :=
  name ∈ ["size", "stride", "max"] ∧
    ∃ axis, args = [axis] ∧ (integerOf axis).LeadsTo (AxisOfScalar this)

theorem conforms_axisQuery {this : Tensor} (name : String) {numbers : List Nat} {all : Value}
    (hlength : numbers.length = this.size.length) (hall : all.WellFormed) (args : List Value) :
    Conforms
      ((∃ axis, args = [axis] ∧
          (integerOf axis).LeadsTo fun index => IndexOverflows index (max this.ndim 1)) ∨
        ∃ axis, args = [axis] ∧ (integerOf axis).LeadsTo (AxisOfScalar this))
      Value.WellFormed (axisQuery name this numbers all args) := by
  unfold axisQuery
  split
  · exact (conforms_ok hall).iff (by simp)
  · rename_i axis
    have haxis : Conforms ((integerOf axis).LeadsTo fun index =>
        (IndexOverflows index (max this.ndim 1) ∨
          (resolveAxis index this.ndim).LeadsTo fun _ => this.size ≠ [] ∧ False) ∨
        AxisOfScalar this index) Value.WellFormed (axisQuery name this numbers all [axis]) := by
      refine (conforms_integerOf axis).before fun index _ _ => ?_
      refine conforms_alongAxis index (fun hscalar => ?_) fun axis hlt => ?_
      · have hnone : numbers = [] := List.length_eq_zero_iff.mp (by rw [hlength, hscalar]; rfl)
        rw [hnone]
        rfl
      · have hfound := conforms_found (P := fun _ => True)
          ⟨numbers[axis], List.getElem?_eq_getElem (hlength ▸ hlt), trivial⟩
        exact hfound.after fun n _ _ => conforms_ok (by simp)
    refine haxis.iff ?_
    simp [leadsTo_or]
  · rename_i hnone hone
    have hmany : ∀ axis, args ≠ [axis] := hone
    exact (conforms_fail (by simp)).iff (by simp [hmany])

/-- A method that takes one argument and refuses any other number of them. -/
theorem conforms_oneArgument {f : Value → Kernel Value} {N : Value → Prop}
    {fault : Fault LibraryError}
    (hfault : Conforms False Value.WellFormed (.error fault : Kernel Value))
    (h : ∀ v, v.WellFormed → Conforms (N v) Value.WellFormed (f v)) (args : List Value) :
    (∀ v ∈ args, v.WellFormed) →
      Conforms (∃ v, args = [v] ∧ N v) Value.WellFormed
        (match args with | [v] => f v | _ => .error fault) := by
  intro hargs
  split
  · exact (h _ (hargs _ (by simp))).iff (by simp)
  · rename_i hone
    have hmany : ∀ v, args ≠ [v] := hone
    exact hfault.iff (by simp [hmany])

/-- A method that is a function of the tensor and one argument. -/
theorem conforms_operator (mode : Mode) (name : String) (op : Float → Float → Float)
    {this : Tensor} (h : this.WellFormed) (args : List Value) :
    (∀ v ∈ args, v.WellFormed) →
      Conforms (∃ other, args = [other] ∧ ElementwiseOverflows (.tensor this) other)
        Value.WellFormed
        (match args with
        | [other] => elementwise mode name op (.tensor this) other
        | _ => Kernel.fail (.operandCount name)) := by
  refine conforms_oneArgument (conforms_fail (by simp)) (fun other hother => ?_) args
  exact conforms_elementwise name op (Value.wellFormed_tensor.mpr h) hother

theorem conforms_method (name : String) {this : Tensor} {args : List Value} (h : this.WellFormed)
    (hargs : ∀ v ∈ args, v.WellFormed) (kwargs : Named Value) :
    Conforms (MethodOverflows mode name this args ∨ MethodAxisOfScalar name this args)
      Value.WellFormed (method mode name this args kwargs) := by
  have hfills : this.storage.Fills this.size := (Tensor.wellFormed_iff.mp h).2
  have hstride : this.stride.length = this.size.length := (Tensor.wellFormed_iff.mp h).1
  have hthis : (Value.tensor this).WellFormed := Value.wellFormed_tensor.mpr h
  unfold method
  split
  · exact (conforms_item h).iff (by simp [MethodOverflows, MethodAxisOfScalar])
  · exact (conforms_axisQuery _ rfl (by simp) args).iff
      (by simp [MethodOverflows, MethodAxisOfScalar])
  · exact (conforms_axisQuery _ hstride (by simp) args).iff
      (by simp [MethodOverflows, MethodAxisOfScalar])
  · exact (conforms_ok (by simp)).iff (by simp [MethodOverflows, MethodAxisOfScalar])
  · exact (conforms_ok (by simp)).iff (by simp [MethodOverflows, MethodAxisOfScalar])
  · refine ((conforms_ofBounded this.numel?).map fun n _ => ?_).iff
      (by simp [MethodOverflows, MethodAxisOfScalar])
    simp
  · exact (conforms_ok (by simp)).iff (by simp [MethodOverflows, MethodAxisOfScalar])
  · exact (conforms_ok (by simp)).iff (by simp [MethodOverflows, MethodAxisOfScalar])
  · exact (conforms_view h args).iff (by simp [MethodOverflows, MethodAxisOfScalar])
  · exact (conforms_view h args).iff (by simp [MethodOverflows, MethodAxisOfScalar])
  · exact (conforms_transpose h).iff (by simp [MethodOverflows, MethodAxisOfScalar])
  · refine (conforms_ok (Value.wellFormed_tensor.mpr ?_)).iff
      (by simp [MethodOverflows, MethodAxisOfScalar])
    exact Tensor.wellFormed_derive this hfills
  · exact (conforms_operator mode "add" _ h args hargs).iff
      (by simp [MethodOverflows, MethodAxisOfScalar])
  · exact (conforms_operator mode "sub" _ h args hargs).iff
      (by simp [MethodOverflows, MethodAxisOfScalar])
  · exact (conforms_operator mode "mul" _ h args hargs).iff
      (by simp [MethodOverflows, MethodAxisOfScalar])
  · exact (conforms_operator mode "div" _ h args hargs).iff
      (by simp [MethodOverflows, MethodAxisOfScalar])
  · exact (conforms_unary _ hthis).iff (by simp [MethodOverflows, MethodAxisOfScalar])
  · exact (conforms_unary _ hthis).iff (by simp [MethodOverflows, MethodAxisOfScalar])
  · exact (conforms_nonzero hthis).iff (by simp [MethodOverflows, MethodAxisOfScalar])
  · refine (conforms_oneArgument (conforms_refuse .maxWithoutAxis)
      (fun axis _ => conforms_maxAlong hthis) args hargs).iff ?_
    simp [MethodOverflows, MethodAxisOfScalar, leadsTo_or, and_or_left, exists_or]
  · exact (conforms_zerosLike this args).iff (by simp [MethodOverflows, MethodAxisOfScalar])
  · exact (conforms_zerosLike this args).iff (by simp [MethodOverflows, MethodAxisOfScalar])
  · exact (conforms_total h).iff (by simp [MethodOverflows, MethodAxisOfScalar])
  · refine (conforms_ok (Value.wellFormed_tensor.mpr ?_)).iff
      (by simp [MethodOverflows, MethodAxisOfScalar])
    exact Tensor.wellFormed_derive this hfills
  · have hmissing : Failure.pieceCountMissing ≠ .elementsOfPlaceholder := by simp
    refine (conforms_oneArgument (conforms_fail hmissing) (fun count _ =>
      (conforms_integerOf count).before fun count _ _ => conforms_pieces h count) args hargs).iff ?_
    simp [MethodOverflows, MethodAxisOfScalar]
  · refine ((conforms_shapeOf args).before fun counts _ _ => conforms_tile h counts).iff ?_
    simp [MethodOverflows, MethodAxisOfScalar]
  · -- no method has this name
    refine (conforms_refuse _).iff ?_
    unfold MethodOverflows MethodAxisOfScalar
    split <;> simp_all

theorem conforms_callMethod (lib : Library) (name : String) {receiver : Value} {args : List Value}
    (h : receiver.WellFormed) (hargs : ∀ v ∈ args, v.WellFormed) (kwargs : Named Value) :
    Conforms
      (∃ this, receiver = .tensor this ∧
        (MethodOverflows lib.mode name this args ∨ MethodAxisOfScalar name this args))
      Value.WellFormed (lib.callMethod name receiver args kwargs) := by
  cases receiver with
  | tensor this =>
      exact (conforms_method name (Value.wellFormed_tensor.mp h) hargs kwargs).iff (by simp)
  | _ => exact (conforms_fail (by simp)).iff (by simp)

end Library

open Kernel Library

/-- **The library is closed under well-formed tensors.** On well-formed operands, dense and
placeholder ones mixed freely and in either mode, every call of a function, of a builtin operator
and of a method ends the run exactly where an integer that it counts with is out of range, or where
it asks for an extent, a stride or a maximum along an axis of a tensor that has none. It never asks
a placeholder for its elements, and every tensor in its result is well formed. -/
theorem library_closed (lib : Library) {args : List Value} (hargs : ∀ v ∈ args, v.WellFormed)
    (kwargs : Named Value) :
    (∀ target : Target,
      Conforms (CallOverflows lib.mode target args kwargs ∨ CallAxisOfScalar target args)
        Value.WellFormed (lib.callFunction target args kwargs).1) ∧
    (∀ (name : String) (receiver : Value), receiver.WellFormed →
      Conforms
        (∃ this, receiver = .tensor this ∧
          (MethodOverflows lib.mode name this args ∨ MethodAxisOfScalar name this args))
        Value.WellFormed (lib.callMethod name receiver args kwargs)) :=
  ⟨fun target => conforms_callFunction lib target hargs kwargs,
    fun name _ hreceiver => conforms_callMethod lib name hreceiver hargs kwargs⟩

/-- A matrix without elements for want of columns, times a placeholder. -/
theorem library_closed_matmul :
    (∀ v ∈ [Value.tensor (Tensor.ofElements [2, 0] #[] .f32),
      .tensor (Tensor.placeholder [0, 3] .f32)], v.WellFormed) ∧
    (Value.tensor (Tensor.ofElements [2] #[1.0, 2.0] .f32)).WellFormed ∧
    ∃ v, ((ofSeed 0).callFunction (.function "matmul")
      [.tensor (Tensor.ofElements [2, 0] #[] .f32), .tensor (Tensor.placeholder [0, 3] .f32)]
      []).1 = .ok v ∧ v.WellFormed := by
  have hargs : ∀ v ∈ [Value.tensor (Tensor.ofElements [2, 0] #[] .f32),
      .tensor (Tensor.placeholder [0, 3] .f32)], v.WellFormed := by
    rw [List.forall_mem_cons, List.forall_mem_singleton]
    exact ⟨Value.wellFormed_tensor.mpr ⟨rfl, rfl⟩, Value.wellFormed_tensor.mpr ⟨rfl, trivial⟩⟩
  have hreceiver : (Value.tensor (Tensor.ofElements [2] #[1.0, 2.0] .f32)).WellFormed :=
    Value.wellFormed_tensor.mpr ⟨rfl, rfl⟩
  obtain ⟨hfunctions, -⟩ := library_closed (ofSeed 0) hargs []
  exact ⟨hargs, hreceiver, _, rfl, (hfunctions (.function "matmul")).gives _ rfl⟩

/-- A tensor without axes lets its last axis be named, and the read of its extent ends the run. -/
example : (ofSeed 0).callMethod "size" (.tensor (Tensor.scalar (.int 1))) [.int (-1)] [] =
    .error .abort := by
  rfl

end TensorCapture
