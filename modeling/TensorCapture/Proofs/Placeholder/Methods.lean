import TensorCapture.Capture.Execution
import TensorCapture.Proofs.Placeholder.Classifying

set_option autoImplicit false

/-! # Methods and attributes on twins

The arguments of a method enter by their guards, literals and operands, none of which tells the
elements of a supplied tensor. Called on the same tensor with arguments that are equal up to such
elements, a method therefore comes to the same on twins. The same holds of attributes, of
unpacking, and of making a scalar a literal.
-/

namespace TensorCapture

namespace Capture

/-! ## What a method makes of its arguments -/

section Arguments

variable {args args' : List Variable} {kwargs kwargs' : Named Variable}

theorem propagate_congr {vars vars' : List Variable} (h : Variable.SameAll vars vars') :
    Provenance.propagate vars = Provenance.propagate vars' :=
  h.congr Provenance.propagate Provenance.propagate_eraseAll

theorem toOperands_congr {vars vars' : List Variable} (h : Variable.SameAll vars vars') :
    Variable.toOperands vars = Variable.toOperands vars' :=
  h.congr Variable.toOperands Variable.toOperands_eraseAll

theorem names_congr (h : Variable.SameNamed kwargs kwargs') :
    kwargs.map Prod.fst = kwargs'.map Prod.fst :=
  h.congr (List.map Prod.fst) Variable.names_eraseNamed

theorem values_congr (h : Variable.SameNamed kwargs kwargs') :
    Variable.SameAll kwargs.values kwargs'.values := by
  unfold Variable.SameAll
  calc Variable.eraseAll kwargs.values
      = Named.values (Variable.eraseNamed kwargs) := (Variable.values_eraseNamed kwargs).symm
    _ = Named.values (Variable.eraseNamed kwargs') := congrArg Named.values h
    _ = Variable.eraseAll kwargs'.values := Variable.values_eraseNamed kwargs'

theorem append_congr (hargs : Variable.SameAll args args')
    (hkwargs : Variable.SameNamed kwargs kwargs') :
    Variable.SameAll (args ++ kwargs.values) (args' ++ kwargs'.values) := by
  have hvalues := values_congr hkwargs
  unfold Variable.SameAll at *
  rw [Variable.eraseAll_append, Variable.eraseAll_append, hargs, hvalues]

theorem callOperands_congr (t : SymbolicTensor) (hargs : Variable.SameAll args args')
    (hkwargs : Variable.SameNamed kwargs kwargs') :
    callOperands t args kwargs = callOperands t args' kwargs' := by
  have hself : Variable.SameAll (.tensor t :: args) (.tensor t :: args') :=
    .cons (Variable.same_of_eq rfl) hargs
  have hnames := names_congr hkwargs
  unfold callOperands
  rw [toOperands_congr hself, toOperands_congr (values_congr hkwargs), hnames]

theorem areOneSize_eraseAll (args : List Variable) :
    areOneSize (Variable.eraseAll args) = areOneSize args := by
  rcases args with _ | ⟨first, _ | ⟨second, rest⟩⟩
  · rfl
  · cases first <;> rfl
  · cases first <;> rfl

theorem recordedName_congr (name : String) (dynamicShapes : Bool)
    (hargs : Variable.SameAll args args') :
    recordedName name dynamicShapes args = recordedName name dynamicShapes args' := by
  unfold recordedName
  rw [hargs.congr areOneSize areOneSize_eraseAll]

theorem all_isConstant_eraseAll (vars : List Variable) :
    (Variable.eraseAll vars).all Variable.isConstant = vars.all Variable.isConstant := by
  rw [Variable.eraseAll_eq_map, List.all_map]
  simp only [Function.comp_def, Variable.isConstant_erase]

theorem refusalOf?_congr (config : Config) (name : String) (hargs : Variable.SameAll args args')
    (hkwargs : Variable.SameNamed kwargs kwargs') :
    refusalOf? config name args kwargs = refusalOf? config name args' kwargs' := by
  have hall : (args ++ kwargs.values).all Variable.isConstant =
      (args' ++ kwargs'.values).all Variable.isConstant :=
    (append_congr hargs hkwargs).congr (List.all · Variable.isConstant) all_isConstant_eraseAll
  unfold refusalOf?
  rw [hall]

theorem isEmpty_unansweredKeywords_eraseNamed (name : String) (kwargs : Named Variable) :
    (Variable.unansweredKeywords name (Variable.eraseNamed kwargs)).isEmpty =
      (Variable.unansweredKeywords name kwargs).isEmpty := by
  rw [Variable.unansweredKeywords_eraseNamed]
  cases Variable.unansweredKeywords name kwargs <;> rfl

theorem isEmpty_unansweredKeywords_congr (name : String)
    (hkwargs : Variable.SameNamed kwargs kwargs') :
    (Variable.unansweredKeywords name kwargs).isEmpty =
      (Variable.unansweredKeywords name kwargs').isEmpty :=
  hkwargs.congr (fun kwargs => (Variable.unansweredKeywords name kwargs).isEmpty)
    (isEmpty_unansweredKeywords_eraseNamed name)

theorem recordMethod_congr (t : SymbolicTensor) (name : String) (p : Provenance)
    (hargs : Variable.SameAll args args')
    (hkwargs : Variable.SameNamed kwargs kwargs') :
    recordMethod t name args kwargs p = recordMethod t name args' kwargs' p := by
  unfold recordMethod
  rw [callOperands_congr t hargs hkwargs]
  refine bind_congr fun config => ?_
  rw [recordedName_congr name config.dynamicShapes hargs]

theorem recordAssignment_congr (t : SymbolicTensor) (p : Provenance)
    (hargs : Variable.SameAll args args')
    (hkwargs : Variable.SameNamed kwargs kwargs') :
    recordAssignment t args kwargs p = recordAssignment t args' kwargs' p := by
  unfold recordAssignment
  rw [callOperands_congr t hargs hkwargs]

theorem indexed_congr (answer : Variable) (hargs : Variable.SameAll args args')
    (p : Provenance) :
    (answer.indexed args p).map Variable.erase = (answer.indexed args' p).map Variable.erase := by
  rw [← Variable.indexed_erase, ← Variable.indexed_erase, hargs]

end Arguments

theorem agree_indexed (answer : Variable) {args args' : List Variable}
    (hargs : Variable.SameAll args args') (p : Provenance) :
    Agree Variable.Same (ofExcept (answer.indexed args p)) (ofExcept (answer.indexed args' p)) :=
  agree_ofExcept_map (indexed_congr answer hargs p)

/-! ## Methods and attributes -/

section Methods

variable (t : SymbolicTensor)

theorem agree_createDerived (id : NodeId) (p : Provenance) :
    Agree Variable.Same (createDerived t id p) (createDerived t id p) :=
  agree_create id rfl none t.role.derived p

theorem agree_recordMethod (name : String) (args : List Variable) (kwargs : Named Variable)
    (p : Provenance) :
    Agree Variable.Same (recordMethod t name args kwargs p)
      (recordMethod t name args kwargs p) := by
  refine agree_bind agree_config ?_
  rintro _ config ⟨rfl, -⟩
  refine agree_bind (agree_ofExcept_self (E := Eq) _ fun _ _ => rfl) ?_
  rintro operands _ rfl
  refine agree_bind (agree_record _ _ _) ?_
  rintro id _ rfl
  exact agree_createDerived t id p

theorem agree_recordAssignment (args : List Variable) (kwargs : Named Variable)
    (p : Provenance) :
    Agree Variable.Same (recordAssignment t args kwargs p)
      (recordAssignment t args kwargs p) := by
  refine agree_bind (agree_addGuards p.guards) fun _ _ _ => ?_
  refine agree_bind (agree_ofExcept_self (E := Eq) _ fun _ _ => rfl) ?_
  rintro operands _ rfl
  exact agree_bind (agree_record _ _ _) fun _ _ _ => agree_pure rfl

theorem agree_length (p : Provenance) :
    Agree Variable.Same (length t p) (length t p) := by
  unfold length
  split
  · exact agree_pure rfl
  · refine agree_bind (agree_record _ _ _) ?_
    rintro id _ rfl
    exact agree_createDerived t id p

/-- What a supplied parameter holds is not looked at. -/
theorem callMethod_erase (name : String) (args : List Variable) (kwargs : Named Variable) :
    callMethod t.erase name args kwargs = callMethod t name args kwargs := rfl

theorem agree_callMethod (name : String) {args args' : List Variable}
    {kwargs kwargs' : Named Variable} (hargs : Variable.SameAll args args')
    (hkwargs : Variable.SameNamed kwargs kwargs') :
    Agree Variable.Same (callMethod t name args kwargs) (callMethod t name args' kwargs') := by
  have hguards : Provenance.propagate (.tensor t :: args ++ kwargs.values) =
      Provenance.propagate (.tensor t :: args' ++ kwargs'.values) :=
    propagate_congr (.cons (Variable.same_of_eq rfl) (append_congr hargs hkwargs))
  unfold callMethod
  dsimp only
  rw [hguards, isEmpty_unansweredKeywords_congr name hkwargs]
  generalize Provenance.propagate (.tensor t :: args' ++ kwargs'.values) = p
  -- a query of metadata is answered at once, everything else is recorded
  cases t.query? name p with
  | some answer =>
      cases answer with
      | error fault => exact agree_throw fault
      | ok answer => exact agree_ite _ (agree_indexed answer hargs p) (agree_breach _)
  | none =>
      refine agree_bind agree_config ?_
      rintro _ config ⟨rfl, -⟩
      rw [refusalOf?_congr config name hargs hkwargs]
      cases refusalOf? config name args' kwargs' with
      | some reason => exact agree_refuse reason
      | none =>
          -- the arguments enter by their operands, and these are the same
          simp only [recordAssignment_congr t p hargs hkwargs,
            recordMethod_congr t _ p hargs hkwargs]
          split
          · refine agree_bind (agree_record _ _ _) ?_
            rintro id _ rfl
            exact agree_createDerived t id p
          · exact agree_length t p
          · exact agree_recordAssignment t args' kwargs' p
          · exact agree_recordMethod t _ args' kwargs' p

theorem agree_memberOf (name : String) :
    Agree Variable.Same (memberOf t name) (memberOf t name) := by
  unfold memberOf
  dsimp only
  split
  · exact agree_pure rfl
  · exact agree_callMethod t "dim" rfl rfl
  · exact agree_pure rfl
  · exact agree_pure rfl
  · exact agree_pure rfl
  · split
    · exact agree_pure rfl
    · exact agree_callMethod t "size" rfl rfl
  · exact agree_pure rfl
  · exact agree_pure rfl
  · exact agree_pure rfl
  · exact agree_fail _

theorem readMember_erase (name : String) : readMember t.erase name = readMember t name := rfl

theorem agree_readMember (name : String) :
    Agree Variable.Same (readMember t name) (readMember t name) := by
  refine agree_ite _ (agree_pure rfl) ?_
  refine agree_bind (agree_memberOf t name) fun v v' hv => ?_
  split
  · refine agree_pure ?_
    unfold Variable.Same at *
    rw [Variable.erase_addGuard, Variable.erase_addGuard, hv]
  · exact agree_pure hv

theorem unpackFrom_erase (index count : Nat) :
    unpackFrom t.erase index count = unpackFrom t index count := by
  induction count generalizing index with
  | zero => rfl
  | succ count ih =>
      rw [unpackFrom, unpackFrom, ih]
      rfl

theorem unpack_erase : unpack t.erase = unpack t := by
  unfold unpack
  simp only [unpackFrom_erase]
  rfl

theorem agree_unpackFrom (index count : Nat) :
    Agree Variable.SameAll (unpackFrom t index count) (unpackFrom t index count) := by
  induction count generalizing index with
  | zero => exact agree_pure rfl
  | succ count ih =>
      refine agree_bind (agree_recordItem _ _) ?_
      rintro id _ rfl
      refine agree_bind (agree_create id rfl none .plain _) fun v v' hv => ?_
      refine agree_bind (ih (index + 1)) fun vs vs' hvs => ?_
      exact agree_pure (Variable.SameAll.cons hv hvs)

theorem agree_unpack : Agree Variable.SameAll (unpack t) (unpack t) := by
  unfold unpack
  split
  · exact agree_fail _
  · exact agree_unpackFrom t 0 _
  · exact agree_fail _

theorem literalize_erase : literalize t.erase = literalize t := rfl

theorem agree_literalize : Agree Variable.Same (literalize t) (literalize t) := by
  refine agree_ite _ (agree_breach _) ?_
  cases t.role.raw? with
  | none => exact agree_breach _
  | some raw =>
      refine agree_bind agree_get fun u u' hu => ?_
      rw [hu.graph_eq]
      refine agree_ite _ (agree_breach _) ?_
      have hgraph : ∀ g : Graph, g.Hollow → (g.literalize t.node t.provenance).Hollow :=
        fun g hg => hg.literalize t.node t.provenance
      refine agree_bind (agree_modifyGraph hgraph) fun _ _ _ => ?_
      exact agree_bind (agree_say _ _ _) fun _ _ _ => agree_pure rfl

end Methods

end Capture

end TensorCapture
