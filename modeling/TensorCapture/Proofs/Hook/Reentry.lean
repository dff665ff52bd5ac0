import TensorCapture.Capture.Script
import TensorCapture.Proofs.Graph.WellFormed
import TensorCapture.Proofs.Hook.Moments

set_option autoImplicit false

/-! # Hooks are not entered again

A method call on an instance inlines its hook in a trace in which method calls go to no hooks. They
go to none while the hook is inlined, however deep the functions nest and whatever they come to. A
method call on an instance that wraps a tensor runs the method of the tensor then, and its result is
not wrapped. So no two of the hooks that method calls went to are ever inlined at once, and every
operation leaves calls going where they went before.
-/

namespace TensorCapture

open Capture Trace

/-! ## Entering a function -/

/-- A function that is no hook is entered with calls going where they went. A hook is entered with
calls going to no hooks, and a method call goes to one only where calls go to hooks. -/
theorem Operation.handedOver?_cases {operation : Operation} {before after : Bool}
    {call : FunctionCall} (h : operation.handedOver? before = some (call, after)) :
    operation.asksForHook = false ∧ after = before ∨
      operation.asksForHook = true ∧ after = false ∧
        (operation.namesHook = true ∨ before = true) := by
  cases operation with
  | inline call' =>
      obtain ⟨-, rfl⟩ := Prod.mk.inj (Option.some.inj h)
      exact .inl ⟨rfl, rfl⟩
  | inlineHook function origin hook subclass p args kwargs =>
      obtain ⟨-, rfl⟩ := Prod.mk.inj (Option.some.inj h)
      exact .inr ⟨rfl, rfl, .inl rfl⟩
  | callMethod self name args kwargs =>
      cases self with
      | override wrapped origin hook subclass p =>
          cases before with
          | false => cases h
          | true =>
              obtain ⟨-, rfl⟩ := Prod.mk.inj (Option.some.inj h)
              exact .inr ⟨rfl, rfl, .inr rfl⟩
      | _ => cases h
  | _ => cases h

/-- A function that is no hook is inlined in the trace that its operation is performed in. A hook is
inlined with calls going to no hooks. -/
theorem Operation.Inlines.cases {operation : Operation} {t u : Trace} {call : FunctionCall}
    (h : operation.Inlines t call u) :
    operation.asksForHook = false ∧ u = t ∨
      operation.asksForHook = true ∧ u = { t with dispatching := false } ∧
        (operation.namesHook = true ∨ t.dispatching = true) := by
  obtain ⟨after, hover, rfl⟩ := Operation.inlines_iff.mp h
  rcases Operation.handedOver?_cases hover with ⟨hplain, rfl⟩ | ⟨hhook, rfl, hreason⟩
  · exact .inl ⟨hplain, rfl⟩
  · exact .inr ⟨hhook, rfl, hreason⟩

/-- A hook that a method call went to is a hook. -/
theorem Activation.isHook_of_isDispatched {a : Activation} (h : a.isDispatched = true) :
    a.isHook = true := (Bool.and_eq_true_iff.mp h).1

/-! ## The invariant -/

/-- While a hook is on the stack calls go to no hooks, and at most one hook on the stack is there
because a method call went to it. -/
structure Shields (allowed : Operation → Prop) (stack : List Activation) (t : Trace) : Prop where
  allowed : ∀ a ∈ stack, allowed a.operation
  disabled : (∃ a ∈ stack, a.isHook = true) → t.dispatching = false
  once : stack.countP Activation.isDispatched ≤ 1

/-- Without a hook on the stack there is none that a method call went to. -/
theorem Shields.countP_eq_zero {allowed : Operation → Prop} {stack : List Activation} {t : Trace}
    (h : Shields allowed stack t) (hdispatching : t.dispatching = true) :
    stack.countP Activation.isDispatched = 0 := by
  refine List.countP_eq_zero.mpr fun a ha hdispatched => ?_
  rw [h.disabled ⟨a, ha, a.isHook_of_isDispatched hdispatched⟩] at hdispatching
  cases hdispatching

theorem stackInvariant_shields (allowed : Operation → Prop) :
    StackInvariant allowed (Shields allowed) where
  reaches h hreaches :=
    ⟨h.allowed, fun hhook => hreaches.dispatching_eq.trans (h.disabled hhook), h.once⟩
  enter := by
    intro stack t u h operation hallowed call hinlines
    have hall : ∀ a ∈ Activation.mk operation call :: stack, allowed a.operation :=
      List.forall_mem_cons.mpr ⟨hallowed, h.allowed⟩
    rcases hinlines.cases with ⟨hplain, rfl⟩ | ⟨hhook, rfl, hreason⟩
    · -- the new function is no hook: nothing changes
      refine ⟨hall, fun hin => h.disabled ?_, ?_⟩
      · obtain ⟨a, ha, hisHook⟩ := hin
        rcases List.mem_cons.mp ha with rfl | ha
        · rw [Activation.isHook, hplain] at hisHook
          cases hisHook
        · exact ⟨a, ha, hisHook⟩
      · rw [List.countP_cons_of_neg (by simp [Activation.isDispatched, hplain])]
        exact h.once
    · refine ⟨hall, fun _ => rfl, ?_⟩
      rcases hreason with hnamed | hdispatching
      · rw [List.countP_cons_of_neg (by simp [Activation.isDispatched, hnamed])]
        exact h.once
      · -- calls went to hooks, so this is the first hook on the stack
        have hnone := h.countP_eq_zero hdispatching
        have hcount := List.countP_cons (p := Activation.isDispatched) (a := ⟨operation, call⟩)
          (l := stack)
        rw [hnone] at hcount
        rw [hcount]
        split <;> omega

/-! ## The theorem -/

/-- What the hooks around an operation mean for it. -/
structure Moment.Shielded (m : Moment) : Prop where
  /-- However the operation ends, calls go where they went before. -/
  restored : m.after.dispatching = m.before.dispatching
  /-- Where calls go to hooks, a method call on an instance inlines the hook of the instance. -/
  hooked : m.before.dispatching = true → ∀ wrapped origin hook subclass p name args kwargs,
    m.operation = .callMethod (.override wrapped origin hook subclass p) name args kwargs →
      ∃ u, m.operation.Inlines m.before
        (.ofHook (.member wrapped name .none) origin hook subclass
          (.propagate (.override wrapped origin hook subclass p :: args ++ kwargs.values))
          (wrapped :: args) kwargs) u
  /-- A hook begins with calls going to no hooks. -/
  entered : m.operation.asksForHook = true →
    ∀ call u, m.operation.Inlines m.before call u → u.dispatching = false
  /-- While a hook is inlined calls go to no hooks. -/
  disabled : m.InHook → m.before.dispatching = false
  /-- A method call on an instance then inlines nothing, and it comes to what the method of the
  wrapped tensor comes to. -/
  direct : m.InHook → ∀ x origin hook subclass p name args kwargs,
    m.operation = .callMethod (.override (.tensor x) origin hook subclass p) name args kwargs →
      (∀ call u, ¬m.operation.Inlines m.before call u) ∧
        (m.outcome, m.after) =
          (Answer.value <$> Capture.callMethod x name args kwargs).outcome m.before
  /-- No two hooks that method calls went to are inlined at once. -/
  once : m.stack.countP Activation.isDispatched ≤ 1
  /-- An operation that inlines nothing comes to the same with every inliner, so no function is
  inlined that is not on a stack. -/
  whole : (∃ call u, m.operation.Inlines m.before call u) ∨
    ∀ inline inline' : FunctionCall → Capture Variable,
      (m.operation.perform inline).outcome m.before =
        (m.operation.perform inline').outcome m.before

/-- Where calls go to no hooks, a method call on an instance runs the method of the tensor. -/
theorem Moment.Sound.direct {allowed : Operation → Prop} {m : Moment}
    (h : m.Sound (Shields allowed)) (hdisabled : m.before.dispatching = false)
    {x : SymbolicTensor} {origin : Source} {hook : String} {subclass : RuntimeClass}
    {p : Provenance} {name : String} {args : List Variable} {kwargs : Named Variable}
    (hoperation : m.operation =
      .callMethod (.override (.tensor x) origin hook subclass p) name args kwargs) :
    (∀ call u, ¬m.operation.Inlines m.before call u) ∧
      (m.outcome, m.after) =
        (Answer.value <$> Capture.callMethod x name args kwargs).outcome m.before := by
  obtain ⟨inline, hperformed⟩ := h.performed
  constructor
  · intro call u hinlines
    obtain ⟨after, hover, -⟩ := Operation.inlines_iff.mp hinlines
    rw [hoperation, hdisabled] at hover
    cases hover
  · rw [hoperation] at hperformed
    refine hperformed.symm.trans ?_
    have hdirect : (callOverride inline (.tensor x) origin hook subclass p name args kwargs).outcome
        m.before = (callMethod x name args kwargs).outcome m.before :=
      outcome_callOverride_of_not hdisabled
    show (Answer.value <$> callOverride inline _ _ _ _ _ _ _ _).outcome m.before = _
    rw [map_eq_pure_bind, outcome_bind, hdirect, map_eq_pure_bind, outcome_bind]

theorem Moment.Sound.shielded {allowed : Operation → Prop} {m : Moment}
    (h : m.Sound (Shields allowed)) : m.Shielded where
  restored := h.reaches.dispatching_eq
  hooked := by
    intro hdispatching wrapped origin hook subclass p name args kwargs hoperation
    rw [hoperation]
    exact ⟨_, (inlines_callOverride hdispatching _ _ _ _ _ name args kwargs).map _⟩
  entered := by
    intro hhook call u hinlines
    rcases hinlines.cases with ⟨hplain, -⟩ | ⟨-, rfl, -⟩
    · rw [hhook] at hplain
      cases hplain
    · rfl
  disabled := h.invariant.disabled
  direct hhook _ _ _ _ _ _ _ _ hoperation := h.direct (h.invariant.disabled hhook) hoperation
  once := h.invariant.once
  whole := m.operation.exists_inlines_or m.before

/-- A trace with one input and this inliner. -/
def Trace.inlining (inliner : Inliner) : Trace :=
  { Trace.ofInput "x" with inliner := some inliner }

/-- A trace with one input that inlines functions by a script. -/
def Trace.scripted (script : Script) : Trace := .inlining script.inliner

/-- The tensor variable of the input. -/
def SymbolicTensor.input : SymbolicTensor where
  node := ⟨0⟩
  metadata := some ((Tensor.placeholder [2] .f32).specialize .standard)
  parameter := none
  role := .plain
  provenance := .none

/-- An instance of a tensor subclass that wraps the input. -/
def Variable.hooked : Variable :=
  .override (.tensor .input) (.local "x") "S.__torch_function__" (.subclass "S") .none

/-- A body of one operation performs that operation and what is nested in it. -/
theorem Body.performs_once {allowed : Operation → Prop} {nested : FunctionCall → Body}
    {operation : Operation} (h : allowed operation)
    (hnested : ∀ call, (nested call).Performs allowed) :
    (Body.once nested operation).Performs allowed := by
  refine ⟨h, hnested, fun answer => ?_⟩
  cases answer with
  | error e => exact trivial
  | ok answer => cases answer <;> exact trivial

/-- Scripted functions name no hooks. -/
theorem Script.performs_body (script : Script) {nested : FunctionCall → Body}
    (hnested : ∀ call, (nested call).Performs fun operation => operation.namesHook = false)
    (call : FunctionCall) :
    (script.body nested call).Performs fun operation => operation.namesHook = false := by
  have honce {operation : Operation} (h : operation.namesHook = false) :
      (Body.once nested operation).Performs fun operation => operation.namesHook = false :=
    Body.performs_once h hnested
  unfold body
  split
  · unfold helperBody
    split
    · exact honce rfl
    · exact trivial
  · split
    · exact trivial
    · exact trivial
    · split
      · unfold hookBody
        split
        · split
          · exact honce rfl
          · exact trivial
        · exact honce rfl
        · split
          · exact honce rfl
          · exact trivial
        · exact trivial
      · exact trivial

theorem Script.performs_upTo (script : Script) (depth : Nat) (call : FunctionCall) :
    (script.upTo depth call).Performs fun operation => operation.namesHook = false := by
  induction depth generalizing call with
  | zero => exact trivial
  | succ depth ih => exact script.performs_body ih call

end TensorCapture
