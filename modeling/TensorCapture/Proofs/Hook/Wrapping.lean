import TensorCapture.Proofs.Capture.Reports
import TensorCapture.Proofs.Created.Made
import TensorCapture.Proofs.Hook.Reentry

set_option autoImplicit false

/-! # What instances wrap

An instance of a tensor subclass is made to wrap a tensor. A method call that goes to the hook
wraps whatever the hook returns, so the new instance wraps a tensor exactly where the hook returned
one. A method call that goes to no hook reports an instance that wraps no tensor, and such an
instance alone.

So instances wrap tensors along any chain of calls in which hooks return tensors. One hook that
returns something else ends this.
-/

namespace TensorCapture

open Capture Trace

/-! ## Plain results -/

/-- The variable stands for a tensor. -/
def Variable.IsTensor (v : Variable) : Prop := ∃ x, v = .tensor x

/-- If the variable is an instance of a tensor subclass, it wraps a tensor. -/
def Variable.WrapsTensor : Variable → Prop
  | .override wrapped _ _ _ _ => wrapped.IsTensor
  | _ => True

/-- What positional arguments select from an answer is no instance. -/
theorem SymbolicTensor.wrapsTensor_indexed {x : SymbolicTensor} {name : String} {p : Provenance}
    {answer v : Variable} (h : x.query? name p = some (.ok answer)) {indices : List Variable}
    (hv : answer.indexed indices p = .ok v) : v.WrapsTensor := by
  unfold Variable.indexed at hv
  split at hv
  · cases hv
    rcases query?_cases h with ⟨literal, rfl⟩ | ⟨extents, rfl⟩
    · exact trivial
    · exact trivial
  · rcases Variable.itemAt_cases hv with ⟨literals, q, literal, -, rfl⟩ |
      ⟨kind, items, node, q, found, hfound, rfl, rfl⟩
    · exact trivial
    · -- the item of a size is an extent
      rcases query?_cases h with ⟨literal, hanswer⟩ | ⟨extents, hanswer⟩
      · cases hanswer
      · cases hanswer
        obtain ⟨n, -, rfl⟩ := List.mem_map.mp hfound
        exact trivial
  · obtain ⟨items, -, rfl⟩ := Except.exists_of_map_eq_ok hv
    exact trivial

namespace Capture

/-- Methods of tensors give no instances. -/
theorem wrapsTensor_callMethod (x : SymbolicTensor) (name : String) (args : List Variable)
    (kwargs : Named Variable) :
    Ensures (fun _ v => v.WrapsTensor) (callMethod x name args kwargs) := by
  refine ensures_callMethod (fun answer v hquery hselected => ?_) fun known v hmade => ?_
  · exact SymbolicTensor.wrapsTensor_indexed hquery hselected
  · cases hmade <;> exact trivial

/-! ## One call -/

/-- The call of the hook that a method call on an instance asks for. -/
def hookCall (wrapped : Variable) (origin : Source) (hook : String) (subclass : RuntimeClass)
    (p : Provenance) (name : String) (args : List Variable) (kwargs : Named Variable) :
    FunctionCall :=
  .ofHook (.member wrapped name .none) origin hook subclass
    (.propagate (.override wrapped origin hook subclass p :: args ++ kwargs.values))
    (wrapped :: args) kwargs

section Override

variable {inline : FunctionCall → Capture Variable} {wrapped : Variable} {origin : Source}
  {hook : String} {subclass : RuntimeClass} {p : Provenance} {name : String}
  {args : List Variable} {kwargs : Named Variable} {t : Trace}

/-- Where calls go to hooks, a method call answers with what the hook returned, wrapped anew. -/
theorem callOverride_eq_ok (h : t.dispatching = true) {v : Variable} {u : Trace}
    (hout : (callOverride inline wrapped origin hook subclass p name args kwargs).outcome t =
      (.ok v, u)) :
    ∃ result s,
      (inline (hookCall wrapped origin hook subclass p name args kwargs)).outcome
        { t with dispatching := false } = (.ok result, s) ∧
      v = .override result origin hook subclass (.ofGuards result.guards) := by
  rw [outcome_callOverride h] at hout
  obtain ⟨result, t', hinlined, hpure⟩ := outcome_bind_eq_ok hout
  cases hpure
  have hanswer : ((inline (hookCall wrapped origin hook subclass p name args kwargs)).outcome
      { t with dispatching := false }).1 = .ok result := congrArg Prod.fst hinlined
  exact ⟨result, _, Prod.ext hanswer rfl, rfl⟩

/-- Where calls go to no hooks, a method call reports an instance that wraps no tensor, and no
other. -/
theorem callOverride_breach_iff (h : t.dispatching = false) :
    ((callOverride inline wrapped origin hook subclass p name args kwargs).outcome t).1 =
      .error (.error (.internal .overrideWithoutTensor)) ↔ ¬wrapped.IsTensor := by
  rw [outcome_callOverride_of_not h]
  cases wrapped with
  | tensor x =>
      refine ⟨fun hreported => ?_, fun hnot => absurd ⟨x, rfl⟩ hnot⟩
      have hother := reports_callMethod x name args kwargs t _ hreported
      cases hother
  | _ =>
      refine ⟨fun _ hwraps => ?_, fun _ => rfl⟩
      obtain ⟨x, hx⟩ := hwraps
      cases hx

end Override

end Capture

/-! ## Chains of calls -/

section Chain

variable {among : Trace → Prop} {inline : FunctionCall → Capture Variable}

/-- From a variable, method calls on the instance at hand lead to another variable. They may be
made in any of these traces. -/
inductive Variable.LeadsTo (among : Trace → Prop) (inline : FunctionCall → Capture Variable)
    (start : Variable) : Variable → Prop where
  | start : LeadsTo among inline start start
  | call {wrapped : Variable} {origin : Source} {hook : String} {subclass : RuntimeClass}
      {p : Provenance} (h : LeadsTo among inline start (.override wrapped origin hook subclass p))
      {name : String} {args : List Variable} {kwargs : Named Variable} {t u : Trace} {v : Variable}
      (ht : among t)
      (hcall : (callOverride inline wrapped origin hook subclass p name args kwargs).outcome t =
        (.ok v, u)) : LeadsTo among inline start v

/-- Wherever in these traces a hook answers, it answers with a tensor. -/
def HooksGiveTensors (among : Trace → Prop) (inline : FunctionCall → Capture Variable) : Prop :=
  ∀ t : Trace, among t → ∀ function origin hook subclass p args kwargs v u,
    (inline (.ofHook function origin hook subclass p args kwargs)).outcome
      { t with dispatching := false } = (.ok v, u) → v.IsTensor

/-- One call keeps that instances wrap tensors. -/
theorem Capture.wrapsTensor_callOverride (hhooks : HooksGiveTensors among inline)
    {wrapped : Variable} {origin : Source} {hook : String} {subclass : RuntimeClass}
    {p : Provenance} {name : String} {args : List Variable} {kwargs : Named Variable}
    {t u : Trace} {v : Variable} (ht : among t)
    (hout : (callOverride inline wrapped origin hook subclass p name args kwargs).outcome t =
      (.ok v, u)) : v.WrapsTensor := by
  cases hdispatching : t.dispatching with
  | true =>
      obtain ⟨result, s, hinlined, rfl⟩ := callOverride_eq_ok hdispatching hout
      exact hhooks t ht _ _ _ _ _ _ _ _ _ hinlined
  | false =>
      rw [outcome_callOverride_of_not hdispatching] at hout
      cases wrapped with
      | tensor x => exact wrapsTensor_callMethod x name args kwargs hout
      | _ => cases hout

theorem Variable.LeadsTo.wrapsTensor {start v : Variable} (h : LeadsTo among inline start v)
    (hhooks : HooksGiveTensors among inline) (hstart : start.WrapsTensor) : v.WrapsTensor := by
  induction h with
  | start => exact hstart
  | call _ ht hcall _ => exact wrapsTensor_callOverride hhooks ht hcall

end Chain

/-! ## The theorem -/

/-- A method call that goes to the hook gives an instance that wraps what the hook returned; one
that goes to no hook reports exactly the instances that wrap no tensor. Along chains of calls in
which hooks return tensors, instances wrap tensors, and none is reported. -/
theorem instance_wraps_hook_result (inline : FunctionCall → Capture Variable) (wrapped : Variable)
    (origin : Source) (hook : String) (subclass : RuntimeClass) (p : Provenance) :
    (∀ name args kwargs t v u, t.dispatching = true →
      (callOverride inline wrapped origin hook subclass p name args kwargs).outcome t = (.ok v, u) →
        ∃ result s,
          (inline (hookCall wrapped origin hook subclass p name args kwargs)).outcome
            { t with dispatching := false } = (.ok result, s) ∧
          v = .override result origin hook subclass (.ofGuards result.guards) ∧
          (v.WrapsTensor ↔ result.IsTensor)) ∧
    (∀ name args kwargs t, t.dispatching = false →
      (((callOverride inline wrapped origin hook subclass p name args kwargs).outcome t).1 =
        .error (.error (.internal .overrideWithoutTensor)) ↔ ¬wrapped.IsTensor)) ∧
    ∀ among, HooksGiveTensors among inline → wrapped.IsTensor →
      ∀ wrapped' origin' hook' subclass' p',
        Variable.LeadsTo among inline (.override wrapped origin hook subclass p)
          (.override wrapped' origin' hook' subclass' p') →
        wrapped'.IsTensor ∧ ∀ name args kwargs t, t.dispatching = false →
          ((callOverride inline wrapped' origin' hook' subclass' p' name args kwargs).outcome t).1 ≠
            .error (.error (.internal .overrideWithoutTensor)) := by
  refine ⟨?_, ?_, ?_⟩
  · intro name args kwargs t v u hdispatching hout
    obtain ⟨result, s, hinlined, rfl⟩ := callOverride_eq_ok hdispatching hout
    exact ⟨result, s, hinlined, rfl, Iff.rfl⟩
  · intro name args kwargs t hdispatching
    exact callOverride_breach_iff hdispatching
  · intro among hhooks hwrapped wrapped' origin' hook' subclass' p' hleads
    have hwraps : wrapped'.IsTensor := hleads.wrapsTensor hhooks hwrapped
    refine ⟨hwraps, fun name args kwargs t hdispatching hreported => ?_⟩
    exact (callOverride_breach_iff hdispatching).mp hreported hwraps

/-- Every function returns the input. -/
def Inliner.returnInput : Inliner := fun _ => .finish (.ok (.tensor .input))

/-- Where every function returns the input, two calls in a row give an instance that wraps it, and
a method call on that instance that goes to no hook does not report it. -/
theorem instance_wraps_hook_result_input :
    ∃ u u', (callOn inlined .hooked "relu" [] []).outcome (.inlining .returnInput) =
        (.ok .hooked, u) ∧
      (callOn inlined .hooked "neg" [] []).outcome u = (.ok .hooked, u') ∧
      (Variable.tensor .input).IsTensor ∧
      ((callOn inlined .hooked "dim" [] []).outcome { u' with dispatching := false }).1 ≠
        .error (.error (.internal .overrideWithoutTensor)) := by
  obtain ⟨u, u', hinliner, hfirst, hsecond⟩ : ∃ u u' : Trace, u.inliner = some .returnInput ∧
      (callOn inlined .hooked "relu" [] []).outcome (.inlining .returnInput) = (.ok .hooked, u) ∧
      (callOn inlined .hooked "neg" [] []).outcome u = (.ok .hooked, u') :=
    ⟨_, _, rfl, rfl, rfl⟩
  have hstart : (Trace.inlining .returnInput).inliner = some .returnInput := rfl
  have hhooks : HooksGiveTensors (fun t => t.inliner = some .returnInput) inlined := by
    rintro ⟨config, name, graph, workshop, inliner, dispatching⟩ ht _ _ _ _ _ _ _ v u hout
    obtain rfl : inliner = some .returnInput := ht
    cases hout
    exact ⟨_, rfl⟩
  obtain ⟨-, -, hchain⟩ := instance_wraps_hook_result inlined (.tensor .input) (.local "x")
    "S.__torch_function__" (.subclass "S") .none
  have hleads : Variable.LeadsTo (fun t => t.inliner = some .returnInput) inlined .hooked .hooked :=
    .call (.call .start hstart hfirst) hinliner hsecond
  obtain ⟨hwraps, hunreported⟩ := hchain _ hhooks ⟨_, rfl⟩ _ _ _ _ _ hleads
  exact ⟨u, u', hfirst, hsecond, hwraps, hunreported _ _ _ _ rfl⟩

/-- A hook that returns a number gives an instance that wraps a number. A method call on it that
goes to no hook fails. -/
theorem exists_instance_without_tensor :
    ∃ v u, (perform (.callMethod .hooked "relu" [] [])).outcome (.scripted (.constant (.int 1))) =
        (.ok (.value v), u) ∧
      ¬v.WrapsTensor ∧
      ((perform (.callMethod v "relu" [] [])).outcome { u with dispatching := false }).1 =
        .error (.error (.internal .overrideWithoutTensor)) := by
  refine ⟨_, _, rfl, ?_, rfl⟩
  rintro ⟨x, hx⟩
  cases hx

end TensorCapture
