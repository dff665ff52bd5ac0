import Mathlib.Data.Set.Defs
import TensorCapture.Proofs.Capture.History
import TensorCapture.Proofs.Capture.Isolation

set_option autoImplicit false

/-! # The stack of inlined functions

An operation may inline a call, and then the operations of the inlined body are performed while the
operation waits. A moment is one operation that is performed, with its outcome, the trace before and
after it, and the stack of the functions that are being inlined around it. The moments of an
operation are all that is performed on its behalf, itself included: those of the inlined body begin
in the trace in which the operation inlines the call.

What is said of the stack and the trace of one moment holds of all moments once it is kept by
operations and by entering a function.
-/

namespace TensorCapture

open Capture Trace

/-! ## Moments -/

/-- A function that is being inlined, with the operation that inlines it. -/
structure Activation where
  operation : Operation
  call : FunctionCall

/-- The operation asks for a hook, by a method call or outright. -/
def Operation.asksForHook : Operation → Bool
  | .callMethod .. | .inlineHook .. => true
  | _ => false

/-- The operation asks for a hook outright. -/
def Operation.namesHook : Operation → Bool
  | .inlineHook .. => true
  | _ => false

/-- The function is a hook. -/
def Activation.isHook (a : Activation) : Bool := a.operation.asksForHook

/-- The function is a hook that a method call went to. -/
def Activation.isDispatched (a : Activation) : Bool :=
  a.operation.asksForHook && !a.operation.namesHook

/-- An operation that is performed while these functions are being inlined, the innermost first. -/
structure Moment extends Performed where
  stack : List Activation

/-- A hook is being inlined. -/
def Moment.InHook (m : Moment) : Prop := ∃ a ∈ m.stack, a.isHook = true

/-- The moments of an operation: its own, and those of the call that it inlines. -/
def Operation.momentsWith (inline : FunctionCall → Capture Variable)
    (inlined : List Activation → FunctionCall → Trace → Set Moment) (operation : Operation)
    (stack : List Activation) (t : Trace) : Set Moment :=
  let (outcome, after) := (operation.perform inline).outcome t
  {m | m = ⟨⟨operation, t, outcome, after⟩, stack⟩ ∨
    ∃ call u, operation.Inlines t call u ∧ m ∈ inlined (⟨operation, call⟩ :: stack) call u}

/-- The moments of a body: those of its operation, and those of the body that goes on after it. -/
def Body.moments : Body → List Activation → Trace → Set Moment
  | .finish _, _, _ => ∅
  | .perform operation nested next, stack, t =>
      let inline := fun call => do
        noteCall call
        (nested call).run
      let inlined := fun stack call u =>
        (nested call).moments stack ((noteCall call).outcome u).2
      {m | m ∈ operation.momentsWith inline inlined stack t ∨
        ∃ answer u, (attempt (operation.perform inline)).outcome t = (.ok answer, u) ∧
          m ∈ (next answer).moments stack u}

/-- The moments of a call that the inliner of the trace inlines. -/
def Trace.inlinedMoments (stack : List Activation) (call : FunctionCall) (t : Trace) :
    Set Moment :=
  {m | ∃ inliner, t.inliner = some inliner ∧
    m ∈ (inliner call).moments stack ((noteCall call).outcome t).2}

/-- The moments of an operation that is performed with the inliner of the trace. -/
def Operation.moments (operation : Operation) (t : Trace) : Set Moment :=
  operation.momentsWith inlined Trace.inlinedMoments [] t

/-! ## Invariants of the stack -/

/-- Every operation of the body, or of a body nested in it, is one of these. -/
def Body.Performs (allowed : Operation → Prop) : Body → Prop
  | .finish _ => True
  | .perform operation nested next =>
      allowed operation ∧ (∀ call, (nested call).Performs allowed) ∧
        ∀ answer, (next answer).Performs allowed

theorem Body.performs_of_forall {allowed : Operation → Prop} (h : ∀ operation, allowed operation)
    (b : Body) : b.Performs allowed := by
  induction b with
  | finish result => exact trivial
  | perform operation nested next ihnested ihnext => exact ⟨h operation, ihnested, ihnext⟩

/-- A relation between stacks and traces that operations keep, and that holds on entering a
function. -/
structure StackInvariant (allowed : Operation → Prop) (I : List Activation → Trace → Prop) :
    Prop where
  reaches {stack : List Activation} {t u : Trace} (h : I stack t)
    (hreaches : Reaches (fun _ => True) t u) : I stack u
  enter {stack : List Activation} {t u : Trace} (h : I stack t) {operation : Operation}
    (hallowed : allowed operation) {call : FunctionCall} (hinlines : operation.Inlines t call u) :
    I (⟨operation, call⟩ :: stack) u

/-- A moment whose operation is performed, by small steps, from where the invariant holds. -/
structure Moment.Sound (I : List Activation → Trace → Prop) (m : Moment) : Prop where
  invariant : I m.stack m.before
  performed : ∃ inline : FunctionCall → Capture Variable,
    (m.operation.perform inline).outcome m.before = (m.outcome, m.after)
  reaches : Reaches (fun _ => True) m.before m.after

namespace StackInvariant

variable {allowed : Operation → Prop} {I : List Activation → Trace → Prop}
  (h : StackInvariant allowed I)

include h

/-- The moments of an operation, once this is known of the calls that it inlines. -/
theorem momentsWith {inline : FunctionCall → Capture Variable}
    {inlined : List Activation → FunctionCall → Trace → Set Moment}
    (hinline : ∀ call, Keeps (Reaches fun _ => True) (inline call))
    {operation : Operation} (hallowed : allowed operation) {stack : List Activation} {t : Trace}
    (hinlined : ∀ stack call u, u.inliner = t.inliner → I stack u →
      ∀ m ∈ inlined stack call u, m.Sound I)
    (hstart : I stack t) : ∀ m ∈ operation.momentsWith inline inlined stack t, m.Sound I := by
  rintro m (rfl | ⟨call, u, hinlines, hm⟩)
  · exact ⟨hstart, ⟨inline, rfl⟩, reaches_performWith hinline operation (fun _ _ => trivial) t⟩
  · have hentered := h.enter hstart hallowed hinlines
    obtain ⟨dispatching, -, rfl⟩ := Operation.inlines_iff.mp hinlines
    exact hinlined _ call { t with dispatching } rfl hentered m hm

/-- The moments of a body, by recursion on the bodies nested in it. -/
theorem body (b : Body) (hb : b.Performs allowed) {stack : List Activation} {t : Trace}
    (hstart : I stack t) : ∀ m ∈ b.moments stack t, m.Sound I := by
  induction b generalizing stack t with
  | finish result =>
      intro m hm
      cases hm
  | perform operation nested next ihnested ihnext =>
      obtain ⟨hallowed, hnested, hnext⟩ := hb
      have hinline (call : FunctionCall) :
          Keeps (Reaches fun _ => True) (do noteCall call; (nested call).run) :=
        keeps_bind (reaches_noteCall call) fun _ => reaches_run _ (.inr fun _ => trivial)
      rintro m (hm | ⟨answer, u, hanswer, hm⟩)
      · refine h.momentsWith hinline hallowed (fun stack call u _ hu => ?_) hstart m hm
        exact ihnested call (hnested call) (h.reaches hu (reaches_noteCall call u))
      · -- what goes on starts where the operation came to
        have hreaches := reaches_performWith hinline operation (fun _ _ => trivial) t
        rw [← state_attempt, hanswer] at hreaches
        exact ihnext answer (hnext answer) (h.reaches hstart hreaches) m hm

/-- The moments of an operation that is performed with the inliner of the trace. -/
theorem moments (operation : Operation) (hallowed : allowed operation) {t : Trace}
    (hinliner : ∀ inliner, t.inliner = some inliner → ∀ call, (inliner call).Performs allowed)
    (hstart : I [] t) : ∀ m ∈ operation.moments t, m.Sound I := by
  refine h.momentsWith (reaches_inlined fun _ _ => trivial) hallowed ?_ hstart
  rintro stack call u hu hstack m ⟨inliner, hinlines, hm⟩
  have hbody := hinliner inliner (hu.symm.trans hinlines) call
  exact h.body (inliner call) hbody (h.reaches hstack (reaches_noteCall call u)) m hm

end StackInvariant

end TensorCapture
