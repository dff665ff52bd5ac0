import TensorCapture.Library.Basic
import TensorCapture.Proofs.Placeholder.Layers

set_option autoImplicit false

/-! # The classes of results

What a kernel computes is of the plain tensor class, and what it selects from a container was in
the container. Operations on plain tensors and parameters therefore give plain tensors and
parameters only, in both modes. No subclass and no typed class comes in by running an operation.
-/

namespace TensorCapture

/-- Every tensor in the value is of the plain class or a parameter. -/
def Value.Plain (v : Value) : Prop :=
  ∀ t, v.Holds t → t.runtimeClass = .tensor ∨ t.runtimeClass = .parameter

namespace Value

theorem plain_tensor {t : Tensor} (h : t.runtimeClass = .tensor) : (tensor t).Plain := by
  intro t' ht'
  cases ht'
  exact .inl h

theorem plain_none : none.Plain := by
  intro t ht
  cases ht

theorem plain_size (extents : List Nat) : (size extents).Plain := by
  intro t ht
  cases ht

theorem plain_ofScalar (number : Scalar) : (ofScalar number).Plain := by
  intro t ht
  cases number <;> cases ht

theorem plain_tuple {items : List Value} (h : ∀ v ∈ items, v.Plain) : (tuple items).Plain := by
  intro t ht
  cases ht with
  | tuple hmem hholds => exact h _ hmem t hholds

theorem plain_list {items : List Value} (h : ∀ v ∈ items, v.Plain) : (list items).Plain := by
  intro t ht
  cases ht with
  | list hmem hholds => exact h _ hmem t hholds

theorem plain_record {type : RecordType} {items : List Value} (h : ∀ v ∈ items, v.Plain) :
    (record type items).Plain := by
  intro t ht
  cases ht with
  | record hmem hholds => exact h _ hmem t hholds

variable {items : List Value} {v : Value}

theorem Plain.of_mem_tuple (h : (tuple items).Plain) (hv : v ∈ items) : v.Plain :=
  fun t ht => h t (.tuple hv ht)

theorem Plain.of_mem_list (h : (list items).Plain) (hv : v ∈ items) : v.Plain :=
  fun t ht => h t (.list hv ht)

theorem Plain.of_mem_record {type : RecordType} (h : (record type items).Plain) (hv : v ∈ items) :
    v.Plain :=
  fun t ht => h t (.record hv ht)

end Value

namespace Kernel

variable {α β : Type} {P : α → Prop} {Q : β → Prop}

/-! ## What a kernel gives -/

/-- Every value that the computation gives has the property. -/
def Gives (P : α → Prop) (k : Kernel α) : Prop := ∀ a, k = .ok a → P a

theorem gives_ok {a : α} (h : P a) : Gives P (.ok a) := by
  intro b hb
  cases hb
  exact h

theorem gives_error (fault : Fault LibraryError) : Gives P (.error fault) := nofun

theorem gives_bind {k : Kernel α} {f : α → Kernel β} (h : Gives P k)
    (hf : ∀ a, P a → Gives Q (f a)) : Gives Q (k >>= f) := by
  cases k with
  | ok a => exact hf a (h a rfl)
  | error fault => exact gives_error fault

/-- Whatever the first step gives. -/
theorem gives_then {k : Kernel α} {f : α → Kernel β} (hf : ∀ a, Gives Q (f a)) :
    Gives Q (k >>= f) :=
  gives_bind (P := fun _ => True) (fun _ _ => trivial) fun a _ => hf a

theorem gives_map {k : Kernel α} {f : α → β} (h : ∀ a, Q (f a)) : Gives Q (k.map f) := by
  cases k with
  | ok a => exact gives_ok (h a)
  | error fault => exact gives_error fault

theorem gives_ite (c : Prop) [Decidable c] {k k' : Kernel α} (h : Gives P k) (h' : Gives P k') :
    Gives P (if c then k else k') := by
  by_cases hc : c
  · rw [if_pos hc]
    exact h
  · rw [if_neg hc]
    exact h'

theorem gives_mapM {k : α → Kernel β} (h : ∀ a, Gives Q (k a)) (items : List α) :
    Gives (fun bs => ∀ b ∈ bs, Q b) (items.mapM k) := by
  induction items with
  | nil => exact gives_ok nofun
  | cons a rest ih =>
      rw [List.mapM_cons]
      refine gives_bind (h a) fun b hb => gives_bind ih fun bs hbs => gives_ok ?_
      intro b' hb'
      rcases List.mem_cons.mp hb' with rfl | hmem
      · exact hb
      · exact hbs b' hmem

/-! ## Kernels -/

variable (mode : Mode) (this : Tensor)

theorem onScalar_plain (op : Float → Float) : Gives Value.Plain (onScalar mode op this) :=
  gives_then fun _ => gives_ok (Value.plain_tensor rfl)

theorem onTensors_plain (name : String) (op : Float → Float → Float) (other : Tensor) :
    Gives Value.Plain (onTensors mode name op this other) := by
  unfold onTensors
  refine gives_ite _ (gives_then fun count => gives_ite _ (gives_then fun _ => ?_) ?_) ?_
  all_goals exact gives_then fun _ => gives_ok (Value.plain_tensor rfl)

theorem onTensor_plain (name : String) (op : Float → Float → Float) (flip : Bool)
    (other : Value) : Gives Value.Plain (onTensor mode name op flip this other) := by
  cases other with
  | tensor other => exact onTensors_plain mode this name _ other
  | _ => exact gives_then fun _ => onScalar_plain mode this _

theorem elementwise_plain (name : String) (op : Float → Float → Float) (lhs rhs : Value) :
    Gives Value.Plain (elementwise mode name op lhs rhs) := by
  unfold elementwise
  split
  · exact onTensor_plain mode _ name op false _
  · exact onTensor_plain mode _ name op true _
  · exact gives_error _

theorem unary_plain (op : Float → Float) (input : Value) :
    Gives Value.Plain (unary mode op input) :=
  gives_then fun this => onScalar_plain mode this op

theorem filled_plain (value : Float) (args : List Value) (kwargs : Named Value) :
    Gives Value.Plain (filled mode value args kwargs) := by
  refine gives_then fun size => gives_then fun elementType => ?_
  cases mode with
  | placeholder => exact gives_ok (Value.plain_tensor rfl)
  | eager => exact gives_then fun count => gives_ok (Value.plain_tensor rfl)

theorem uniform_plain (args : List Value) (kwargs : Named Value) (g : Generator) :
    Gives (fun drawn => drawn.1.Plain) (uniform mode args kwargs g) := by
  refine gives_then fun size => gives_then fun elementType => ?_
  cases mode with
  | placeholder => exact gives_ok (Value.plain_tensor rfl)
  | eager => exact gives_then fun count => gives_ok (Value.plain_tensor rfl)

theorem zerosLike_plain (args : List Value) : Gives Value.Plain (zerosLike mode this args) :=
  gives_then fun _ => gives_then fun _ => gives_ok (Value.plain_tensor rfl)

theorem view_plain (args : List Value) : Gives Value.Plain (view this args) :=
  gives_then fun _ => gives_then fun _ => gives_then fun _ => gives_ok (Value.plain_tensor rfl)

theorem transpose_plain : Gives Value.Plain (transpose this) := by
  unfold transpose
  split
  · -- the strides are read after the elements
    split
    · exact gives_then fun _ => gives_then fun _ => gives_then fun _ =>
        gives_ok (Value.plain_tensor rfl)
    · refine gives_then fun _ => gives_then fun _ => ?_
      exact gives_then fun _ => gives_then fun _ => gives_then fun _ =>
        gives_ok (Value.plain_tensor rfl)
  · exact gives_error _

theorem tile_plain (counts : List Nat) : Gives Value.Plain (tile mode this counts) := by
  refine gives_ite _ (gives_error _) ?_
  exact gives_then fun _ => gives_then fun _ => gives_ok (Value.plain_tensor rfl)

theorem total_plain : Gives Value.Plain (total mode this) :=
  gives_then fun _ => gives_ok (Value.plain_tensor rfl)

theorem matmul_plain (lhs rhs : Value) : Gives Value.Plain (matmul mode lhs rhs) := by
  refine gives_then fun a => gives_then fun b => ?_
  split
  · refine gives_ite _ (gives_error _) ?_
    exact gives_then fun _ => gives_ok (Value.plain_tensor rfl)
  · exact gives_error _

theorem maxAlong_plain (input axis : Value) : Gives Value.Plain (maxAlong mode input axis) := by
  refine gives_then fun this => gives_then fun axis => gives_then fun axis => ?_
  refine gives_then fun outer => gives_then fun extent => gives_then fun inner => ?_
  have result (values indices : Storage) : Gives Value.Plain (.ok <| .record maxResult
      [.tensor (this.derive (this.size.eraseIdx axis) values),
        .tensor { this.derive (this.size.eraseIdx axis) indices with
          elementType := .i64, requiresGrad := false }]) := by
    refine gives_ok (Value.plain_record fun v hv => ?_)
    rcases List.mem_cons.mp hv with rfl | hv
    · exact Value.plain_tensor rfl
    · rw [List.mem_singleton.mp hv]
      exact Value.plain_tensor rfl
  refine gives_ite _ (result _ _) ?_
  exact gives_then fun _ => gives_then fun _ => gives_then fun _ => result _ _

/-- An item of a sequence is one of the items. -/
theorem itemOf_plain {items : List Value} (h : ∀ v ∈ items, v.Plain) (index : Int64) :
    Gives Value.Plain (itemOf items index) := by
  refine gives_then fun position => ?_
  cases hitem : items[position]? with
  | none => exact gives_error _
  | some v => exact gives_ok (h v (List.mem_of_getElem? hitem))

theorem subscript_plain {container : Value} (h : container.Plain) (index : Value) :
    Gives Value.Plain (subscript mode container index) := by
  refine gives_then fun index => ?_
  cases container with
  | tuple items => exact itemOf_plain (fun _ hv => h.of_mem_tuple hv) index
  | list items => exact itemOf_plain (fun _ hv => h.of_mem_list hv) index
  | record type items => exact itemOf_plain (fun _ hv => h.of_mem_record hv) index
  | size extents =>
      exact gives_then fun _ => gives_then fun _ => gives_ok (Value.plain_ofScalar (.int _))
  | tensor this =>
      dsimp only
      split
      · exact gives_error _
      · refine gives_then fun _ => gives_ite _ (gives_ok (Value.plain_tensor rfl)) ?_
        exact gives_then fun _ => gives_then fun _ => gives_ok (Value.plain_tensor rfl)
  | _ => exact gives_error _

theorem length_plain (v : Value) : Gives Value.Plain (length v) := by
  unfold length
  split
  · split
    · exact gives_error _
    · exact gives_ok (Value.plain_ofScalar (.int _))
  · exact gives_ok (Value.plain_ofScalar (.int _))
  · exact gives_ok (Value.plain_ofScalar (.int _))
  · exact gives_ok (Value.plain_ofScalar (.int _))
  · exact gives_error _

theorem item_plain : Gives Value.Plain (item mode this) := by
  refine gives_ite _ (gives_error _) (gives_then fun a => ?_)
  split
  · exact gives_ok (Value.plain_ofScalar _)
  · exact gives_error _

theorem pieces_plain (count : Int64) : Gives Value.Plain (pieces mode this count) := by
  unfold pieces
  split
  · exact gives_error _
  · refine gives_ite _ (gives_error _) ?_
    refine gives_then fun row => gives_then fun parts => ?_
    refine gives_bind (gives_mapM (Q := Value.Plain) (fun part => ?_) parts) fun vs hvs =>
      gives_ok (Value.plain_tuple hvs)
    exact gives_then fun _ => gives_ok (Value.plain_tensor rfl)

theorem nonzero_plain (input : Value) : Gives Value.Plain (nonzero mode input) := by
  refine gives_then fun this => gives_ite _ (gives_error _) ?_
  exact gives_then fun a => gives_ok (Value.plain_tensor rfl)

end Kernel

/-! ## The library -/

namespace Library

open Kernel

theorem function_plain (mode : Mode) (name : String) (args : List Value) (kwargs : Named Value) :
    Gives Value.Plain (function mode name args kwargs) := by
  unfold function
  split
  · exact elementwise_plain mode "add" _ _ _
  · exact elementwise_plain mode "sub" _ _ _
  · exact elementwise_plain mode "mul" _ _ _
  · exact elementwise_plain mode "div" _ _ _
  · exact unary_plain mode _ _
  · exact unary_plain mode _ _
  · exact filled_plain mode _ _ _
  · exact filled_plain mode _ _ _
  · exact matmul_plain mode _ _
  · exact nonzero_plain mode _
  · exact maxAlong_plain mode _ _
  · exact gives_error _

theorem modulo_plain (mode : Mode) (a b : Value) : Gives Value.Plain (modulo mode a b) := by
  unfold modulo
  split
  · exact gives_map fun _ => Value.plain_ofScalar (.int _)
  · split
    · exact gives_ok (Value.plain_ofScalar (.float _))
    · exact elementwise_plain mode "mod" _ _ _

theorem squareRoot_plain (v : Value) : Gives Value.Plain (squareRoot v) :=
  gives_then fun _ => gives_ite _ (gives_error _) (gives_ok (Value.plain_ofScalar (.float _)))

theorem power_plain (base exponent : Value) : Gives Value.Plain (power base exponent) :=
  gives_then fun _ => gives_then fun _ => gives_ok (Value.plain_ofScalar (.float _))

theorem builtin_plain (mode : Mode) (b : Builtin) {args : List Value}
    (h : ∀ v ∈ args, v.Plain) : Gives Value.Plain (builtin mode b args) := by
  unfold builtin
  split
  · exact subscript_plain mode (h _ List.mem_cons_self) _
  · exact gives_ok Value.plain_none
  · exact length_plain _
  · exact modulo_plain mode _ _
  · exact gives_ok (Value.plain_ofScalar (.int _))
  · exact gives_ok (Value.plain_ofScalar (.int _))
  · exact gives_ok (Value.plain_ofScalar (.int _))
  · exact squareRoot_plain _
  · exact power_plain _ _
  · exact gives_error _

theorem callBuiltin_plain (lib : Library) (b : Builtin) {args : List Value}
    (h : ∀ v ∈ args, v.Plain) : Gives Value.Plain (lib.callBuiltin b args).1 := by
  unfold callBuiltin
  split
  · exact gives_ok (Value.plain_ofScalar (.int _))
  · split
    · exact gives_ok Value.plain_none
    · exact gives_error _
  · exact builtin_plain lib.mode b h

/-- A function or a builtin operator gives plain tensors and parameters only, where it gets no
others. -/
theorem callFunction_plain (lib : Library) (target : Target) {args : List Value}
    (kwargs : Named Value) (h : ∀ v ∈ args, v.Plain) :
    Gives Value.Plain (lib.callFunction target args kwargs).1 := by
  unfold callFunction
  split
  · have huniform := uniform_plain lib.mode args kwargs lib.generator
    split
    · rename_i value g hdrawn
      exact gives_ok (huniform (value, g) hdrawn)
    · exact gives_error _
  · exact function_plain lib.mode _ args kwargs
  · exact callBuiltin_plain lib _ h
  · exact gives_error _

theorem axisQuery_plain (name : String) (this : Tensor) (numbers : List Nat) {all : Value}
    (hall : all.Plain) (args : List Value) :
    Gives Value.Plain (axisQuery name this numbers all args) := by
  unfold axisQuery
  split
  · exact gives_ok hall
  · exact gives_then fun _ => gives_then fun _ => gives_then fun _ =>
      gives_ok (Value.plain_ofScalar (.int _))
  · exact gives_error _

theorem method_plain (mode : Mode) (name : String) (this : Tensor) (args : List Value)
    (kwargs : Named Value) : Gives Value.Plain (method mode name this args kwargs) := by
  have strides : (Value.tuple (this.stride.map fun s => .int (Word.signed s))).Plain := by
    refine Value.plain_tuple fun v hv => ?_
    obtain ⟨s, -, rfl⟩ := List.mem_map.mp hv
    exact Value.plain_ofScalar (.int _)
  unfold method
  split
  · exact item_plain mode this
  · exact axisQuery_plain _ this _ (Value.plain_size _) args
  · exact axisQuery_plain _ this _ strides args
  · exact gives_ok (Value.plain_ofScalar (.int _))
  · exact gives_ok (Value.plain_ofScalar (.int _))
  · exact gives_map fun _ => Value.plain_ofScalar (.int _)
  · exact gives_ok (Value.plain_ofScalar (.bool _))
  · exact gives_ok (Value.plain_ofScalar (.bool _))
  · exact view_plain this args
  · exact view_plain this args
  · exact transpose_plain this
  · exact gives_ok (Value.plain_tensor rfl)
  iterate 4
    · split
      · exact function_plain mode _ _ kwargs
      · exact gives_error _
  · exact function_plain mode _ _ kwargs
  · exact function_plain mode _ _ kwargs
  · exact nonzero_plain mode _
  · split
    · exact maxAlong_plain mode _ _
    · exact gives_error _
  · exact zerosLike_plain mode this args
  · exact zerosLike_plain mode this args
  · exact total_plain mode this
  · exact gives_ok (Value.plain_tensor rfl)
  · split
    · exact gives_then fun count => pieces_plain mode this count
    · exact gives_error _
  · exact gives_then fun counts => tile_plain mode this counts
  · exact gives_error _

/-- A method gives plain tensors only. -/
theorem callMethod_plain (lib : Library) (name : String) (receiver : Value) (args : List Value)
    (kwargs : Named Value) : Gives Value.Plain (lib.callMethod name receiver args kwargs) := by
  cases receiver with
  | tensor this => exact method_plain lib.mode name this args kwargs
  | _ => exact gives_error _

end Library

/-! ## Layers -/

theorem Linear.forward_plain (l : Linear) (args : List Value) :
    Kernel.Gives Value.Plain (l.forward args) := by
  unfold Linear.forward
  split
  · unfold Linear.apply
    split
    · split
      · exact Kernel.gives_error _
      · split
        · exact Kernel.gives_error _
        · split
          · rw [Kernel.map_bind]
            exact Kernel.gives_then fun _ => Kernel.gives_ok (Value.plain_tensor rfl)
          · exact Kernel.gives_ok (Value.plain_tensor rfl)
    · exact Kernel.gives_error _
  · exact Kernel.gives_error _

end TensorCapture
