import TensorCapture.Proofs.Capture.Operations

set_option autoImplicit false

/-! # What an operation inlines

An operation is performed with a way to inline user functions, and what it does with it shows in
what it comes to. It inlines a call in a trace if a fault of the call, inlined in this trace, is
always a fault of the operation, if nothing else that the inliner does has a bearing on it, and if
it leaves the trace that the call leaves. An operation inlines one call at most, and in one trace
only.

Some operations hand a call over to the inliner. They inline this call in the trace that they are
performed in, but for whether method calls go to hooks: while a hook is inlined, they do not.
-/

namespace TensorCapture

namespace Capture

variable {α β : Type}

/-! ## States after steps -/

theorem state_map (f : α → β) (act : Capture α) (t : Trace) :
    ((f <$> act).outcome t).2 = (act.outcome t).2 := by
  rw [map_eq_pure_bind, outcome_bind]
  rcases act.outcome t with ⟨_ | _, _⟩ <;> rfl

theorem state_attempt (act : Capture α) (t : Trace) :
    ((attempt act).outcome t).2 = (act.outcome t).2 := by
  unfold attempt
  rw [outcome_ofFunction]
  rcases act.outcome t with ⟨(_ | _) | _, _⟩ <;> rfl

theorem state_ofExcept (r : Except CaptureError α) (t : Trace) :
    ((ofExcept r).outcome t).2 = t := by
  cases r <;> rfl

section Override

variable {t : Trace} {inline : FunctionCall → Capture Variable} {wrapped : Variable}
  {origin : Source} {hook : String} {subclass : RuntimeClass} {p : Provenance} {name : String}
  {args : List Variable} {kwargs : Named Variable}

/-- Where calls go to hooks, a method call on an instance of a subclass inlines the hook. -/
theorem outcome_callOverride (h : t.dispatching = true) :
    (callOverride inline wrapped origin hook subclass p name args kwargs).outcome t =
      (do
        let guards := Provenance.propagate <|
          .override wrapped origin hook subclass p :: args ++ kwargs.values
        let result ← inlineHook inline (.member wrapped name .none) origin hook subclass guards
          (wrapped :: args) kwargs
        return .override result origin hook subclass (.ofGuards result.guards) :
          Capture Variable).outcome t := by
  unfold callOverride
  rw [outcome_bind_ok (outcome_get t), if_pos h]

/-- Where calls do not go to hooks, the method runs on the wrapped tensor. -/
theorem outcome_callOverride_of_not (h : t.dispatching = false) :
    (callOverride inline wrapped origin hook subclass p name args kwargs).outcome t =
      (match wrapped with
        | .tensor t => callMethod t name args kwargs
        | _ => breach .overrideWithoutTensor : Capture Variable).outcome t := by
  have hnot : ¬t.dispatching = true := by
    rw [h]
    exact Bool.false_ne_true
  refine (outcome_bind_ok (outcome_get t) _).trans ?_
  cases wrapped <;> exact congrArg (fun act : Capture Variable => act.outcome t) (if_neg hnot)

end Override

/-! ## Steps that inline a call -/

variable {act act' : (FunctionCall → Capture Variable) → Capture α} {t u u' : Trace}
  {call call' : FunctionCall}

/-- From `t` on the step inlines the call in the trace `u`, and it inlines nothing else. -/
structure Inlines (act : (FunctionCall → Capture Variable) → Capture α) (t : Trace)
    (call : FunctionCall) (u : Trace) : Prop where
  /-- A fault of the call is a fault of the step. -/
  raised (inline : FunctionCall → Capture Variable) {fault : Fault CaptureError}
    (hfault : ((inline call).outcome u).1 = .error fault) :
    ((act inline).outcome t).1 = .error fault
  /-- What the call comes to decides what the step comes to. -/
  decided {inline inline' : FunctionCall → Capture Variable}
    (hsame : (inline call).outcome u = (inline' call).outcome u) :
    (act inline).outcome t = (act inline').outcome t
  /-- The step leaves the trace that the call leaves, but for whether calls go to hooks. -/
  left (inline : FunctionCall → Capture Variable) :
    ∃ after, ((act inline).outcome t).2 =
      { ((inline call).outcome u).2 with dispatching := after }

theorem inlines_call (call : FunctionCall) (t : Trace) :
    Inlines (fun inline => inline call) t call t where
  raised _ _ hfault := hfault
  decided hsame := hsame
  left inline := ⟨((inline call).outcome t).2.dispatching, rfl⟩

namespace Inlines

theorem congr (h : Inlines act t call u)
    (hsame : ∀ inline, (act' inline).outcome t = (act inline).outcome t) :
    Inlines act' t call u where
  raised inline _ hfault := by
    rw [hsame]
    exact h.raised inline hfault
  decided hcalls := by
    rw [hsame, hsame]
    exact h.decided hcalls
  left inline := by
    rw [hsame]
    exact h.left inline

theorem map (h : Inlines act t call u) (f : α → β) :
    Inlines (fun inline => f <$> act inline) t call u where
  raised inline _ hfault := by
    have hact := h.raised inline hfault
    rw [map_eq_pure_bind, outcome_bind]
    rcases hout : (act inline).outcome t with ⟨result, v⟩
    rw [hout] at hact
    cases hact
    rfl
  decided hcalls := by
    rw [map_eq_pure_bind, map_eq_pure_bind, outcome_bind, outcome_bind, h.decided hcalls]
  left inline := by
    rw [state_map]
    exact h.left inline

/-- While it inlines the call, method calls go to no hooks. -/
theorem withoutDispatch (h : Inlines act { t with dispatching := false } call u) :
    Inlines (fun inline => Capture.withoutDispatch (act inline)) t call u where
  raised inline _ hfault := h.raised inline hfault
  decided hcalls := by
    unfold Capture.withoutDispatch
    rw [outcome_ofFunction, outcome_ofFunction, h.decided hcalls]
  left inline := by
    obtain ⟨after, hleft⟩ := h.left inline
    exact ⟨t.dispatching, congrArg (fun v : Trace => { v with dispatching := t.dispatching }) hleft⟩

/-- A step inlines one call at most, in one trace. -/
theorem unique (h : Inlines act t call u) (h' : Inlines act t call' u') :
    call' = call ∧ u' = u := by
  classical
  by_cases hsame : call' = call ∧ u' = u
  · exact hsame
  · -- where the one call ends the run and the other one reports an error, the step does both
    obtain ⟨inline, habort, herror⟩ : ∃ inline : FunctionCall → Capture Variable,
        ((inline call).outcome u).1 = .error .abort ∧
          ((inline call').outcome u').1 = .error (.error (.unsupported .noInliner)) := by
      refine ⟨fun c => ofFunction fun v =>
        (.error (if c = call ∧ v = u then .abort else .error (.unsupported .noInliner)), v), ?_, ?_⟩
      · exact congrArg Except.error (if_pos ⟨rfl, rfl⟩)
      · exact congrArg Except.error (if_neg hsame)
    cases (h.raised inline habort).symm.trans (h'.raised inline herror)

end Inlines

/-! ## Hooks -/

theorem inlines_inlineHook (function : Variable) (origin : Source) (hook : String)
    (subclass : RuntimeClass) (p : Provenance) (args : List Variable) (kwargs : Named Variable)
    (t : Trace) :
    Inlines (fun inline => inlineHook inline function origin hook subclass p args kwargs) t
      (.ofHook function origin hook subclass p args kwargs) { t with dispatching := false } :=
  (inlines_call _ _).withoutDispatch

/-- Where calls go to hooks, a method call on an instance of a subclass inlines the hook. -/
theorem inlines_callOverride (h : t.dispatching = true) (wrapped : Variable) (origin : Source)
    (hook : String) (subclass : RuntimeClass) (p : Provenance) (name : String)
    (args : List Variable) (kwargs : Named Variable) :
    Inlines (fun inline => callOverride inline wrapped origin hook subclass p name args kwargs) t
      (.ofHook (.member wrapped name .none) origin hook subclass
        (.propagate (.override wrapped origin hook subclass p :: args ++ kwargs.values))
        (wrapped :: args) kwargs) { t with dispatching := false } := by
  have hhook := inlines_inlineHook (.member wrapped name .none) origin hook subclass
    (.propagate (.override wrapped origin hook subclass p :: args ++ kwargs.values))
    (wrapped :: args) kwargs t
  have hwrapped := hhook.map fun result =>
    Variable.override result origin hook subclass (.ofGuards result.guards)
  refine hwrapped.congr fun inline => ?_
  rw [outcome_callOverride h, map_eq_pure_bind]

end Capture

open Capture

/-! ## Operations that hand a call over -/

/-- The call that an operation hands over to the inliner, and whether method calls go to hooks
while it is inlined. -/
def Operation.handedOver? (dispatching : Bool) : Operation → Option (FunctionCall × Bool)
  | .inline call => some (call, dispatching)
  | .inlineHook function origin hook subclass p args kwargs =>
      some (.ofHook function origin hook subclass p args kwargs, false)
  | .callMethod (.override wrapped origin hook subclass p) name args kwargs =>
      if dispatching then
        let guards := Provenance.propagate <|
          .override wrapped origin hook subclass p :: args ++ kwargs.values
        some (.ofHook (.member wrapped name .none) origin hook subclass guards (wrapped :: args)
          kwargs, false)
      else none
  | _ => none

/-- Performed in `t`, the operation inlines the call in the trace `u`, and nothing else. -/
def Operation.Inlines (operation : Operation) (t : Trace) (call : FunctionCall) (u : Trace) :
    Prop :=
  Capture.Inlines (fun inline => operation.perform inline) t call u

namespace Operation

variable {operation : Operation} {t u : Trace} {call : FunctionCall}

/-- What an operation hands over it inlines. -/
theorem inlines_of_handedOver {dispatching : Bool}
    (h : operation.handedOver? t.dispatching = some (call, dispatching)) :
    operation.Inlines t call { t with dispatching } := by
  cases operation with
  | inline call' =>
      obtain ⟨rfl, rfl⟩ := Prod.mk.inj (Option.some.inj h)
      exact (inlines_call call' t).map _
  | inlineHook function origin hook subclass p args kwargs =>
      obtain ⟨rfl, rfl⟩ := Prod.mk.inj (Option.some.inj h)
      exact (inlines_inlineHook function origin hook subclass p args kwargs t).map _
  | callMethod self name args kwargs =>
      cases self with
      | override wrapped origin hook subclass p =>
          cases hdispatching : t.dispatching with
          | false =>
              rw [hdispatching] at h
              cases h
          | true =>
              rw [hdispatching] at h
              obtain ⟨rfl, rfl⟩ := Prod.mk.inj (Option.some.inj h)
              exact (inlines_callOverride hdispatching _ _ _ _ _ name args kwargs).map _
      | _ => cases h
  | _ => cases h

/-- An operation that hands nothing over does not depend on how calls are inlined. -/
theorem outcome_perform_of_not_handedOver (h : operation.handedOver? t.dispatching = none)
    (inline inline' : FunctionCall → Capture Variable) :
    (operation.perform inline).outcome t = (operation.perform inline').outcome t := by
  cases operation with
  | inline call => cases h
  | inlineHook function origin hook subclass p args kwargs => cases h
  | callMethod self name args kwargs =>
      cases self with
      | override wrapped origin hook subclass p =>
          cases hdispatching : t.dispatching with
          | true =>
              rw [hdispatching] at h
              cases h
          | false =>
              show (Answer.value <$> callOverride inline _ _ _ _ _ _ _ _).outcome t =
                (Answer.value <$> callOverride inline' _ _ _ _ _ _ _ _).outcome t
              rw [map_eq_pure_bind, map_eq_pure_bind, outcome_bind, outcome_bind,
                outcome_callOverride_of_not hdispatching,
                outcome_callOverride_of_not hdispatching]
      | _ => rfl
  | _ => rfl

/-- The trace in which a call is inlined is the one before the operation, but for whether method
calls go to hooks. -/
theorem inlines_iff :
    operation.Inlines t call u ↔
      ∃ dispatching, operation.handedOver? t.dispatching = some (call, dispatching) ∧
        u = { t with dispatching } := by
  constructor
  · intro h
    cases hover : operation.handedOver? t.dispatching with
    | none =>
        -- the operation cannot both end the run and report an error
        have habort := h.raised (fun _ => throw .abort) rfl
        have herror := h.raised (fun _ => refuse .noInliner) rfl
        rw [outcome_perform_of_not_handedOver hover _ fun _ => throw .abort, habort] at herror
        cases herror
    | some handed =>
        obtain ⟨rfl, rfl⟩ := (inlines_of_handedOver hover).unique h
        exact ⟨handed.2, rfl, rfl⟩
  · rintro ⟨dispatching, hover, rfl⟩
    exact inlines_of_handedOver hover

/-- An operation inlines a call, or it does not depend on the inliner. -/
theorem exists_inlines_or (operation : Operation) (t : Trace) :
    (∃ call u, operation.Inlines t call u) ∨
      ∀ inline inline' : FunctionCall → Capture Variable,
        (operation.perform inline).outcome t = (operation.perform inline').outcome t := by
  cases hover : operation.handedOver? t.dispatching with
  | none => exact .inr (outcome_perform_of_not_handedOver hover)
  | some handed => exact .inl ⟨_, _, inlines_of_handedOver hover⟩

end Operation

end TensorCapture
