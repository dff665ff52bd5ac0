import TensorCapture.Proofs.Placeholder.Methods

set_option autoImplicit false

/-! # Performing operations on twins

The same operation up to elements comes to the same on twins. Where it inlines user functions,
the bodies do the same up to elements, so this goes by induction on them: an operation of a body
inlines smaller bodies, and a smaller one goes on after it.
-/

namespace TensorCapture.Capture

/-- The two inline functions come to the same on twins. -/
def AgreeInline (inline inline' : FunctionCall → Capture Variable) : Prop :=
  ∀ call call', FunctionCall.Same call call' → Agree Variable.Same (inline call) (inline' call')

/-! ## Method calls -/

section Calls

variable {inline inline' : FunctionCall → Capture Variable}
variable {args args' : List Variable} {kwargs kwargs' : Named Variable}

theorem agree_callTensor {t t' : SymbolicTensor} (h : t.erase = t'.erase) (name : String)
    (hargs : Variable.SameAll args args') (hkwargs : Variable.SameNamed kwargs kwargs') :
    Agree Variable.Same (callMethod t name args kwargs) (callMethod t' name args' kwargs') := by
  rw [← callMethod_erase t, ← callMethod_erase t', h]
  exact agree_callMethod t'.erase name hargs hkwargs

theorem agree_inlineHook (hinline : AgreeInline inline inline') {function function' : Variable}
    (hfunction : function.Same function') (origin : Source) (hook : String)
    (subclass : RuntimeClass) (p : Provenance) (hargs : Variable.SameAll args args')
    (hkwargs : Variable.SameNamed kwargs kwargs') :
    Agree Variable.Same (inlineHook inline function origin hook subclass p args kwargs)
      (inlineHook inline' function' origin hook subclass p args' kwargs') := by
  have hcall := FunctionCall.same_ofHook hfunction origin hook subclass p hargs hkwargs
  exact agree_withoutDispatch (hinline _ _ hcall)

theorem agree_callOverride (hinline : AgreeInline inline inline') {wrapped wrapped' : Variable}
    (hwrapped : wrapped.Same wrapped') (origin : Source) (hook : String)
    (subclass : RuntimeClass) (p : Provenance) (name : String)
    (hargs : Variable.SameAll args args') (hkwargs : Variable.SameNamed kwargs kwargs') :
    Agree Variable.Same (callOverride inline wrapped origin hook subclass p name args kwargs)
      (callOverride inline' wrapped' origin hook subclass p name args' kwargs') := by
  have hguards : Provenance.propagate
        (.override wrapped origin hook subclass p :: args ++ kwargs.values) =
      Provenance.propagate
        (.override wrapped' origin hook subclass p :: args' ++ kwargs'.values) :=
    propagate_congr (.cons (hwrapped.override origin hook subclass p) (append_congr hargs hkwargs))
  refine agree_bind agree_get fun t t' ht => ?_
  rw [ht.dispatching_eq]
  refine agree_ite _ ?_ ?_
  · -- the hook is called with the wrapped variable in front of the arguments
    have hmember : (Variable.member wrapped name .none).Same (.member wrapped' name .none) :=
      congrArg (Variable.member · name .none) hwrapped
    dsimp only
    rw [hguards]
    refine agree_bind (agree_inlineHook hinline hmember origin hook subclass _
      (.cons hwrapped hargs) hkwargs) fun result result' hresult => agree_pure ?_
    rw [hresult.guards_eq]
    exact hresult.override origin hook subclass _
  · cases wrapped with
    | tensor t =>
        cases wrapped' with
        | tensor t' => exact agree_callTensor (Variable.tensor.inj hwrapped) name hargs hkwargs
        | _ => cases hwrapped
    | _ =>
        cases wrapped' with
        | tensor _ => cases hwrapped
        | _ => exact agree_breach _

theorem agree_callOn (hinline : AgreeInline inline inline') {self self' : Variable}
    (hself : self.Same self') (name : String) (hargs : Variable.SameAll args args')
    (hkwargs : Variable.SameNamed kwargs kwargs') :
    Agree Variable.Same (callOn inline self name args kwargs)
      (callOn inline' self' name args' kwargs') := by
  -- erasing keeps the kind of a variable, so both calls go the same way
  cases self with
  | tensor t =>
      cases self' with
      | tensor t' => exact agree_callTensor (Variable.tensor.inj hself) name hargs hkwargs
      | _ => cases hself
  | override wrapped origin hook subclass p =>
      cases self' with
      | override wrapped' origin' hook' subclass' p' =>
          obtain ⟨hwrapped, rfl, rfl, rfl, rfl⟩ := Variable.override.inj hself
          exact agree_callOverride hinline hwrapped origin hook subclass p name hargs hkwargs
      | _ => cases hself
  | _ =>
      cases self' with
      | tensor _ | override _ _ _ _ _ => cases hself
      | _ => exact agree_breach _

end Calls

/-! ## Operations -/

theorem agree_value {act act' : Capture Variable} (h : Agree Variable.Same act act') :
    Agree Answer.Same (Answer.value <$> act) (Answer.value <$> act') :=
  agree_map h fun _ _ hv => congrArg Answer.value hv

theorem agree_nodeId {act : Capture NodeId} (h : Agree Eq act act) :
    Agree Answer.Same (Answer.node <$> act) (Answer.node <$> act) :=
  agree_map h fun _ _ hid => congrArg Answer.node hid

/-- The same operation up to elements comes to the same on twins. -/
theorem agree_performWith {inline inline' : FunctionCall → Capture Variable}
    (hinline : AgreeInline inline inline') {operation operation' : Operation}
    (h : operation.Same operation') :
    Agree Answer.Same (operation.perform inline) (operation'.perform inline') := by
  cases operation with
  | callMethod self name args kwargs =>
      cases operation' with
      | callMethod self' name' args' kwargs' =>
          obtain ⟨hself, rfl, hargs, hkwargs⟩ := Operation.callMethod.inj h
          exact agree_value (agree_callOn hinline hself name hargs hkwargs)
      | _ => cases h
  | readMember t name =>
      cases operation' with
      | readMember t' name' =>
          obtain ⟨ht, rfl⟩ := Operation.readMember.inj h
          refine agree_value ?_
          rw [← readMember_erase t, ← readMember_erase t', ht]
          exact agree_readMember t'.erase name
      | _ => cases h
  | unpack t =>
      cases operation' with
      | unpack t' =>
          have ht := Operation.unpack.inj h
          show Agree Answer.Same (Answer.values <$> Capture.unpack t)
            (Answer.values <$> Capture.unpack t')
          rw [← unpack_erase t, ← unpack_erase t', ht]
          exact agree_map (agree_unpack t'.erase) fun _ _ hvs => congrArg Answer.values hvs
      | _ => cases h
  | literalize t =>
      cases operation' with
      | literalize t' =>
          have ht := Operation.literalize.inj h
          refine agree_value ?_
          rw [← literalize_erase t, ← literalize_erase t', ht]
          exact agree_literalize t'.erase
      | _ => cases h
  | addInput name source =>
      cases operation' with
      | addInput name' source' =>
          obtain ⟨rfl, rfl⟩ := Operation.addInput.inj h
          exact agree_nodeId (agree_addInput name source)
      | _ => cases h
  | record target args kwargs =>
      cases operation' with
      | record target' args' kwargs' =>
          obtain ⟨rfl, rfl, rfl⟩ := Operation.record.inj h
          exact agree_nodeId (agree_record target args kwargs)
      | _ => cases h
  | recordItem node index =>
      cases operation' with
      | recordItem node' index' =>
          obtain ⟨rfl, rfl⟩ := Operation.recordItem.inj h
          exact agree_nodeId (agree_recordItem node index)
      | _ => cases h
  | create node supplied module? role p =>
      cases operation' with
      | create node' supplied' module?' role' p' =>
          obtain ⟨rfl, hsupplied, rfl, rfl, rfl⟩ := Operation.create.inj h
          exact agree_value (agree_create node hsupplied module? role p)
      | _ => cases h
  | inline call =>
      cases operation' with
      | inline call' => exact agree_value (hinline call call' (Operation.inline.inj h))
      | _ => cases h
  | inlineHook function origin hook subclass p args kwargs =>
      cases operation' with
      | inlineHook function' origin' hook' subclass' p' args' kwargs' =>
          obtain ⟨hfunction, rfl, rfl, rfl, rfl, hargs, hkwargs⟩ := Operation.inlineHook.inj h
          exact agree_value
            (agree_inlineHook hinline hfunction origin hook subclass p hargs hkwargs)
      | _ => cases h

/-! ## Inlined bodies -/

/-- Bodies that do the same up to elements come to the same on twins. -/
theorem agree_run {body body' : Body} (h : body.Same body') :
    Agree Variable.Same body.run body'.run := by
  induction h with
  | finish h => exact agree_ofExcept_map h
  | perform h hnested hnext ihnested ihnext =>
      refine agree_bind (agree_attempt (agree_performWith ?_ h)) ihnext
      intro call call' hcall
      exact agree_bind (agree_noteCall call call') fun _ _ _ => ihnested call call' hcall

/-- The inliners of twins give bodies that do the same. -/
theorem agree_inlined : AgreeInline inlined inlined := by
  intro call call' hcall
  refine agree_bind agree_get fun t t' ht => ?_
  have hinliner := ht.inliner
  generalize t.inliner = inliner at hinliner ⊢
  generalize t'.inliner = inliner' at hinliner ⊢
  cases hinliner with
  | none => exact agree_refuse _
  | some hsame =>
      refine agree_bind (agree_noteCall call call') fun _ _ _ => ?_
      exact agree_run (hsame call call' hcall)

theorem agree_perform {operation operation' : Operation} (h : operation.Same operation') :
    Agree Answer.Same (perform operation) (perform operation') :=
  agree_performWith agree_inlined h

end TensorCapture.Capture
