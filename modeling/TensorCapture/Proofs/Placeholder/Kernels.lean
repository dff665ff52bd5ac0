import TensorCapture.Library.Basic
import TensorCapture.Proofs.Placeholder.Mirror

set_option autoImplicit false

/-! # Every kernel on placeholders mirrors its eager run

One lemma for each kernel of the library, on the same arguments with their elements forgotten.
The steps before the elements are the same in both runs, since they read metadata and numbers
only. Two kernels have no mirror, `item` and `nonzero`: what they give depends on elements.
-/

namespace TensorCapture.Kernel

/-! ## Elementwise -/

theorem onScalar_mirrors (op : Float → Float) (this : Tensor) :
    Mirrors (onScalar .eager op this) (onScalar .placeholder op this.erase) := by
  refine Mirrors.storage (fun h => ?_) (fun s => rfl)
  exact (silent_elementsOf (h this (by simp))).bind fun a => silent_ok _

theorem onTensors_mirrors (name : String) (op : Float → Float → Float) (this other : Tensor) :
    Mirrors (onTensors .eager name op this other)
      (onTensors .placeholder name op this.erase other.erase) := by
  unfold onTensors
  -- the shapes are compared alike; what is left on each path is one and the same computation
  refine Mirrors.ite _ (Mirrors.bind _ fun count => Mirrors.ite _
    (Mirrors.bind (fail (.shapesDiffer name other.size this.size)) fun _ => ?_) ?_) ?_
  all_goals
    refine Mirrors.storage (fun h => ?_) (fun s => rfl)
    refine (silent_elementsOf (h this (by simp))).bind fun a => ?_
    exact (silent_elementsOf (h other (by simp))).bind fun b => silent_ofBounded _

theorem onTensor_mirrors (name : String) (op : Float → Float → Float) (flip : Bool)
    (this : Tensor) (other : Value) :
    Mirrors (onTensor .eager name op flip this other)
      (onTensor .placeholder name op flip this.erase other.erase) := by
  cases other with
  | tensor other => exact onTensors_mirrors name _ this other
  | none | text _ | size _ | tuple _ | list _ | record _ _ | elementType _ | device _
  | memoryFormat _ => exact Mirrors.error _
  | int value => exact onScalar_mirrors _ this
  | bool value => exact onScalar_mirrors _ this
  | float value => exact onScalar_mirrors _ this

theorem elementwise_mirrors (name : String) (op : Float → Float → Float) (lhs rhs : Value) :
    Mirrors (elementwise .eager name op lhs rhs)
      (elementwise .placeholder name op lhs.erase rhs.erase) := by
  have second := fun this => onTensor_mirrors name op true this lhs
  cases lhs with
  | tensor this => exact onTensor_mirrors name op false this rhs
  | _ =>
      cases rhs with
      | tensor this => exact second this
      | _ => exact Mirrors.error _

theorem unary_mirrors (op : Float → Float) (input : Value) :
    Mirrors (unary .eager op input) (unary .placeholder op input.erase) := by
  cases input with
  | tensor this => exact onScalar_mirrors op this
  | _ => exact Mirrors.error _

/-! ## Creation -/

theorem elementTypeOf_erase (kwargs : Named Value) :
    elementTypeOf (kwargs.mapValues Value.erase) = elementTypeOf kwargs := by
  unfold elementTypeOf
  rw [Named.get?_mapValues]
  cases kwargs.get? "dtype" with
  | none => rfl
  | some v => cases v <;> rfl

theorem filled_mirrors (value : Float) (args : List Value) (kwargs : Named Value) :
    Mirrors (filled .eager value args kwargs)
      (filled .placeholder value (Value.eraseAll args) (kwargs.mapValues Value.erase)) := by
  unfold filled
  rw [shapeOf_eraseAll, elementTypeOf_erase]
  refine Mirrors.bind _ fun size => Mirrors.bind _ fun t => ?_
  exact Mirrors.fill (silent_allocate _) rfl fun count => rfl

/-- The random numbers are the elements that a placeholder does without. -/
theorem uniform_mirrors (args : List Value) (kwargs : Named Value) (g : Generator) :
    Mirrors ((uniform .eager args kwargs g).map Prod.fst)
      ((uniform .placeholder (Value.eraseAll args) (kwargs.mapValues Value.erase) g).map
        Prod.fst) := by
  unfold uniform
  rw [shapeOf_eraseAll, elementTypeOf_erase]
  -- the size and the element type are read alike, and only then is the mode looked at
  rw [map_bind, map_bind]
  refine Mirrors.bind _ fun size => ?_
  rw [map_bind, map_bind]
  refine Mirrors.bind _ fun t => ?_
  show Mirrors (Except.map Prod.fst (allocate (Shape.size? size) >>= _)) (.ok _)
  rw [map_bind]
  exact Mirrors.fill (silent_allocate _) rfl fun count => rfl

theorem zerosLike_mirrors (this : Tensor) (args : List Value) :
    Mirrors (zerosLike .eager this args)
      (zerosLike .placeholder this.erase (Value.eraseAll args)) := by
  unfold zerosLike
  rw [shapeOf_eraseAll]
  refine Mirrors.bind _ fun size => Mirrors.storage (fun _ => ?_) fun s => rfl
  exact (silent_allocate _).bind fun count => silent_ok _

/-! ## Rearrangement -/

theorem view_mirrors (this : Tensor) (args : List Value) :
    Mirrors (view this args) (view this.erase (Value.eraseAll args)) := by
  unfold view
  rw [signedShapeOf_eraseAll]
  refine Mirrors.bind _ fun shape => ?_
  refine Mirrors.bind (Outcome.ofBounded this.numel?) fun count => ?_
  exact Mirrors.bind (viewShape shape count) fun size => Mirrors.ok _

theorem transpose_mirrors (this : Tensor) :
    Mirrors (transpose this) (transpose this.erase) := by
  obtain ⟨t, device, size, stride, storage, grad, cls⟩ := this
  rcases size with _ | ⟨r, _ | ⟨c, _ | ⟨d, rest⟩⟩⟩
  · exact Mirrors.error _
  · exact Mirrors.error _
  · -- the strides are read after the elements, alike in both runs
    have strides : ∀ s : Storage, Mirrors
        (Outcome.ofBounded stride[0]? >>= fun outer =>
          Outcome.ofBounded stride[1]? >>= fun inner =>
            .ok <| .tensor ⟨t, device, [c, r], [inner, outer], s, grad, .tensor⟩)
        (Outcome.ofBounded stride[0]? >>= fun outer =>
          Outcome.ofBounded stride[1]? >>= fun inner =>
            .ok <| .tensor ⟨t, device, [c, r], [inner, outer], .placeholder, grad, .tensor⟩) :=
      fun s => Mirrors.bind _ fun outer => Mirrors.bind _ fun inner => Mirrors.ok _
    have hp := (strides .placeholder).erased
    cases storage with
    | placeholder => exact strides .placeholder
    | dense a =>
        refine Mirrors.lead (silent_ofBounded _) hp fun count => ?_
        exact Mirrors.lead (silent_ofBounded _) hp fun elements => strides (.dense elements)
  · exact Mirrors.error _

theorem tile_mirrors (this : Tensor) (counts : List Nat) :
    Mirrors (tile .eager this counts) (tile .placeholder this.erase counts) := by
  unfold tile
  refine Mirrors.ite _ (Mirrors.error _) ?_
  refine Mirrors.bind _ fun tiled => Mirrors.storage (fun h => ?_) fun s => rfl
  refine (silent_elementsOf (h this (by simp))).bind fun a => ?_
  exact (silent_allocate _).bind fun count => silent_ofBounded _

/-! ## Reduction -/

theorem total_mirrors (this : Tensor) :
    Mirrors (total .eager this) (total .placeholder this.erase) := by
  refine Mirrors.storage (fun h => ?_) fun s => rfl
  exact (silent_elementsOf (h this (by simp))).bind fun a => silent_ok _

theorem matmul_mirrors (lhs rhs : Value) :
    Mirrors (matmul .eager lhs rhs) (matmul .placeholder lhs.erase rhs.erase) := by
  cases lhs with
  | tensor a =>
      cases rhs with
      | tensor b =>
          obtain ⟨ta, da, sizeA, strideA, storageA, gradA, classA⟩ := a
          obtain ⟨tb, db, sizeB, strideB, storageB, gradB, classB⟩ := b
          -- tensors that are not both matrices are refused for their sizes
          rcases sizeA with _ | ⟨m, _ | ⟨k, _ | ⟨_, _⟩⟩⟩
          case cons.cons.nil =>
            rcases sizeB with _ | ⟨k', _ | ⟨n, _ | ⟨_, _⟩⟩⟩
            case cons.cons.nil =>
              refine Mirrors.ite _ (Mirrors.error _) (Mirrors.storage (fun h => ?_) fun s => rfl)
              refine (silent_elementsOf (h _ (by simp))).bind fun x => ?_
              refine (silent_elementsOf (h _ (by simp))).bind fun y => ?_
              exact (silent_allocate _).bind fun count => silent_ofBounded _
            all_goals exact Mirrors.error _
          all_goals exact Mirrors.error _
      | _ => exact Mirrors.error _
  | _ =>
      cases rhs <;> exact Mirrors.error _

theorem maxAlong_mirrors (input axis : Value) :
    Mirrors (maxAlong .eager input axis) (maxAlong .placeholder input.erase axis.erase) := by
  cases input with
  | tensor this =>
      show Mirrors (integerOf axis >>= _) (integerOf axis.erase >>= _)
      rw [integerOf_erase]
      refine Mirrors.bind _ fun axis => Mirrors.bind _ fun axis => ?_
      refine Mirrors.bind _ fun outer => Mirrors.bind _ fun extent => Mirrors.bind _ fun inner => ?_
      have result : ∀ pair : Storage × Storage, Mirrors
          (.ok <| .record maxResult
            [.tensor (this.derive (this.size.eraseIdx axis) pair.1),
              .tensor { this.derive (this.size.eraseIdx axis) pair.2 with
                elementType := .i64, requiresGrad := false }])
          (.ok <| .record maxResult
            [.tensor (this.derive (this.size.eraseIdx axis) .placeholder),
              .tensor { this.derive (this.size.eraseIdx axis) .placeholder with
                elementType := .i64, requiresGrad := false }]) :=
        fun pair => Mirrors.ok _
      have hp := (result (.placeholder, .placeholder)).erased
      by_cases hdense : Mode.eager.erases [this] = true
      · -- a placeholder in eager mode
        simp only [hdense, if_true]
        exact result (.placeholder, .placeholder)
      · simp only [hdense]
        have hthis := isPlaceholder_of_not_erases hdense (List.mem_singleton_self this)
        refine Mirrors.lead (silent_elementsOf hthis) hp fun data => ?_
        refine Mirrors.lead (silent_allocate _) hp fun count => ?_
        exact Mirrors.lead (silent_ofBounded _) hp fun tops => result _
  | _ => exact Mirrors.error _

/-! ## Selection -/

theorem rows_silent (this : Tensor) (row start stop : Nat) :
    (rows .eager this row start stop).Silent := by
  refine silent_storageUnless fun h => ?_
  exact (silent_elementsOf (h this (by simp))).bind fun a => silent_ofBounded _

theorem itemOf_mirrors (items : List Value) (index : Int64) :
    Mirrors (itemOf items index) (itemOf (Value.eraseAll items) index) := by
  unfold itemOf
  rw [Value.length_eraseAll]
  refine Mirrors.bind _ fun position => ?_
  rw [Value.eraseAll_eq_map, List.getElem?_map]
  cases items[position]? with
  | none => exact Mirrors.error _
  | some v => exact Mirrors.ok v

theorem subscript_mirrors (container index : Value) :
    Mirrors (subscript .eager container index)
      (subscript .placeholder container.erase index.erase) := by
  unfold subscript
  rw [integerOf_erase]
  refine Mirrors.bind _ fun index => ?_
  cases container with
  | tuple items => exact itemOf_mirrors items index
  | list items => exact itemOf_mirrors items index
  | record type items => exact itemOf_mirrors items index
  | size extents =>
      refine Mirrors.bind _ fun position => ?_
      exact Mirrors.bind _ fun extent => Mirrors.ok _
  | tensor this =>
      obtain ⟨t, device, size, stride, storage, grad, cls⟩ := this
      rcases size with _ | ⟨first, rest⟩
      · exact Mirrors.error _
      · refine Mirrors.bind _ fun position => ?_
        have result : ∀ s : Storage, Mirrors
            (.ok (.tensor (Tensor.derive ⟨t, device, first :: rest, stride, storage, grad, cls⟩
              rest s)))
            (.ok (.tensor (Tensor.derive ⟨t, device, first :: rest, stride, .placeholder, grad, cls⟩
              rest .placeholder))) :=
          fun s => Mirrors.ok _
        have hp := (result .placeholder).erased
        -- the rows of a placeholder are not computed, in eager mode neither
        split
        · exact result .placeholder
        · refine Mirrors.lead (silent_ofBounded _) hp fun row => ?_
          exact Mirrors.lead (rows_silent _ _ _ _) hp result
  | _ => exact Mirrors.error _

theorem length_mirrors (v : Value) : Mirrors (length v) (length v.erase) := by
  cases v with
  | tensor this =>
      obtain ⟨t, device, size, stride, storage, grad, cls⟩ := this
      cases size with
      | nil => exact Mirrors.error _
      | cons first rest => exact Mirrors.ok _
  | tuple items =>
      show Mirrors _ (.ok (.int (Word.signed (Value.eraseAll items).length)))
      rw [Value.length_eraseAll]
      exact Mirrors.ok _
  | list items =>
      show Mirrors _ (.ok (.int (Word.signed (Value.eraseAll items).length)))
      rw [Value.length_eraseAll]
      exact Mirrors.ok _
  | size extents => exact Mirrors.ok _
  | _ => exact Mirrors.error _

theorem pieces_mirrors (this : Tensor) (count : Int64) :
    Mirrors (pieces .eager this count) (pieces .placeholder this.erase count) := by
  obtain ⟨t, device, size, stride, storage, grad, cls⟩ := this
  rcases size with _ | ⟨first, rest⟩
  · exact Mirrors.error _
  · refine Mirrors.ite _ (Mirrors.error _) ?_
    refine Mirrors.bind _ fun row => Mirrors.bind _ fun parts => ?_
    -- each piece is made alone, from the same range of rows in both runs
    refine Mirrors.mapM (fun part => ?_) parts
    refine Mirrors.storage (fun h => ?_) fun s => rfl
    exact (silent_elementsOf (h _ (by simp))).bind fun a => silent_ofBounded _

end TensorCapture.Kernel
