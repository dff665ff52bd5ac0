import TensorCapture.Proofs.Capture.Inlines

set_option autoImplicit false

/-! # What was performed

A run performs operations one after the other. Some of them hand a call over to the inliner, and
then the operations of the inlined body are performed, which may hand over calls in turn. The
history of a run lists the operations that were performed themselves, in order, those of inlined
bodies in the place of the call, each with its outcome and with the trace before and after it.

A relation between histories and the traces before and after them holds of every run once it
holds of single operations and is closed under sequencing.
-/

namespace TensorCapture

open Capture

/-- An operation that was performed, with its outcome and the trace before and after it. -/
structure Performed where
  operation : Operation
  before : Trace
  outcome : Outcome CaptureError Answer
  after : Trace

/-- The history of an operation: the operation itself, or the history of the call that it hands
over. -/
def Operation.history (inline : FunctionCall → Capture Variable)
    (inlined : FunctionCall → Trace → List Performed) (operation : Operation) (t : Trace) :
    List Performed :=
  match operation.handedOver? t.dispatching with
  | some (call, dispatching) => inlined call { t with dispatching }
  | none =>
      let (outcome, after) := (operation.perform inline).outcome t
      [⟨operation, t, outcome, after⟩]

/-- The trace after a call was written into the journal. -/
def Trace.noting (t : Trace) (call : FunctionCall) : Trace :=
  { t with workshop := t.workshop.note (.inlineCall call t.dispatching) }

/-- The history of a body. -/
def Body.history : Body → Trace → List Performed
  | .finish _, _ => []
  | .perform operation nested next, t =>
      let inline := fun call => do
        noteCall call
        (nested call).run
      let inlined := fun call (u : Trace) => (nested call).history (u.noting call)
      operation.history inline inlined t ++
        match (attempt (operation.perform inline)).outcome t with
        | (.ok answer, u) => (next answer).history u
        | (.error _, _) => []

theorem Body.run_perform (operation : Operation) (nested : FunctionCall → Body)
    (next : Except CaptureError Answer → Body) :
    (Body.perform operation nested next).run =
      attempt (operation.perform fun call => do noteCall call; (nested call).run) >>=
        fun answer => (next answer).run := rfl

/-- The history of a call that the inliner of the trace inlines. -/
def Trace.inlinedHistory (call : FunctionCall) (t : Trace) : List Performed :=
  match t.inliner with
  | none => []
  | some inliner => (inliner call).history (t.noting call)

/-- The history of an operation that is performed with the inliner of the trace. -/
def Operation.performed (operation : Operation) (t : Trace) : List Performed :=
  operation.history inlined Trace.inlinedHistory t

/-- Operations performed one after the other from a starting trace on, with the history so far.
In between the trace may change as said. -/
inductive Trace.Runs (between : Trace → Trace → Prop) (start : Trace) :
    List Performed → Trace → Prop where
  | start : Runs between start [] start
  | perform {past : List Performed} {t : Trace} (h : Runs between start past t)
      (operation : Operation) :
      Runs between start (past ++ operation.performed t) ((Capture.perform operation).outcome t).2
  | between {past : List Performed} {t u : Trace} (h : Runs between start past t)
      (hbetween : between t u) : Runs between start past u

/-- A relation between a history and the traces before and after it that is closed under
sequencing, indifferent to the journal and to whether calls go to hooks, and true of every
operation that hands nothing over. -/
structure Chronicle (R : List Performed → Trace → Trace → Prop) : Prop where
  idle (t : Trace) : R [] t t
  append {past past' : List Performed} {t u v : Trace} (h : R past t u) (h' : R past' u v) :
    R (past ++ past') t v
  noting (t : Trace) (call : FunctionCall) : R [] t (t.noting call)
  dispatching {past : List Performed} {t u : Trace} (h : R past t u) (before after : Bool) :
    R past { t with dispatching := before } { u with dispatching := after }
  single (inline : FunctionCall → Capture Variable) (operation : Operation) (t : Trace)
    (h : operation.handedOver? t.dispatching = none) :
    R [⟨operation, t, ((operation.perform inline).outcome t).1,
      ((operation.perform inline).outcome t).2⟩] t ((operation.perform inline).outcome t).2

namespace Operation

variable {operation : Operation} {t : Trace}

/-- An operation that hands nothing over and is not to make a scalar a literal is made of small
steps by which nothing becomes a literal. -/
theorem reaches_of_not_handedOver (h : operation.handedOver? t.dispatching = none)
    (hop : operation.isLiteralize = false) (inline : FunctionCall → Capture Variable) :
    Trace.Reaches (fun _ => False) t ((operation.perform inline).outcome t).2 := by
  -- nothing is inlined, so any inliner will do
  rw [outcome_perform_of_not_handedOver h inline fun _ => refuse .noInliner]
  refine reaches_performWith (fun _ => keeps_refuse _) operation (fun hliteralize => ?_) t
  rw [hop] at hliteralize
  cases hliteralize

/-- The provenance whose guards an operation merges into those of the graph, if it merges any:
what is read is merged where its result is recorded. -/
def merged : Operation → Provenance
  | .callMethod (.tensor t) _ args kwargs => .propagate (.tensor t :: args ++ kwargs.values)
  | .callMethod (.override (.tensor t) _ _ _ _) _ args kwargs =>
      .propagate (.tensor t :: args ++ kwargs.values)
  | .readMember self _ => self.propagated
  | .unpack self => self.propagated
  | .create _ _ _ _ p => p
  | _ => .none

end Operation

/-- An operation that hands nothing over keeps what recording and classifying nodes keep, once
this is known of the operations that do other things. -/
theorem Capture.KeepsNodes.perform {R : Trace → Trace → Prop} [IsPreorder Trace R]
    {within : Provenance → Prop} (h : KeepsNodes R within) {operation : Operation} {t : Trace}
    (hover : operation.handedOver? t.dispatching = none) (hmerged : within operation.merged)
    (hcreate : ∀ id supplied module? role p, operation = .create id supplied module? role p →
      Keeps R (Capture.create id supplied module? role p))
    (hinput : ∀ name source, Keeps R (Capture.addInput name source))
    (hliteralize : ∀ v, operation = .literalize v → Keeps R (Capture.literalize v))
    (inline : FunctionCall → Capture Variable) :
    R t ((operation.perform inline).outcome t).2 := by
  cases operation with
  | callMethod self name args kwargs =>
      cases self with
      | tensor v => exact keeps_map _ (h.callMethod v name args kwargs hmerged) t
      | override wrapped origin hook subclass p =>
          cases hdispatching : t.dispatching with
          | true =>
              rw [hdispatching] at hover
              cases hover
          | false =>
              show R t ((Answer.value <$> callOverride inline _ _ _ _ _ _ _ _).outcome t).2
              rw [state_map, outcome_callOverride_of_not hdispatching]
              cases wrapped with
              | tensor v => exact h.callMethod v name args kwargs hmerged t
              | _ => exact keeps_breach _ t
      | _ => exact keeps_map _ (keeps_breach _) t
  | readMember self name => exact keeps_map _ (h.readMember self hmerged name) t
  | unpack self => exact keeps_map _ (h.unpack self hmerged) t
  | literalize self => exact keeps_map _ (hliteralize self rfl) t
  | addInput name source => exact keeps_map _ (hinput name source) t
  | record target args kwargs => exact keeps_map _ (h.record target args kwargs) t
  | recordItem node index => exact keeps_map _ (h.recordItem node index) t
  | create id supplied module? role p =>
      exact keeps_map _ (hcreate id supplied module? role p rfl) t
  | inline call => cases hover
  | inlineHook function origin hook subclass p args kwargs => cases hover

/-! ## From single operations to runs -/

namespace Chronicle

variable {R : List Performed → Trace → Trace → Prop} (h : Chronicle R)

include h

/-- An operation, once this is known of the calls that it hands over. -/
theorem history {inline : FunctionCall → Capture Variable}
    {inlined : FunctionCall → Trace → List Performed}
    (hinline : ∀ call t, R (inlined call t) t ((inline call).outcome t).2)
    (operation : Operation) (t : Trace) :
    R (operation.history inline inlined t) t ((operation.perform inline).outcome t).2 := by
  unfold Operation.history
  cases hover : operation.handedOver? t.dispatching with
  | none => exact h.single inline operation t hover
  | some handed =>
      obtain ⟨call, dispatching⟩ := handed
      obtain ⟨after, hafter⟩ := (Operation.inlines_of_handedOver hover).left inline
      rw [hafter]
      exact h.dispatching (hinline call { t with dispatching }) t.dispatching after

/-- A body, by recursion on the bodies nested in it. -/
theorem body (b : Body) (t : Trace) : R (b.history t) t (b.run.outcome t).2 := by
  induction b generalizing t with
  | finish result =>
      unfold Body.run
      rw [state_ofExcept]
      exact h.idle t
  | perform operation nested next ihnested ihnext =>
      have hinline (call : FunctionCall) (u : Trace) :
          R ((nested call).history (u.noting call)) u
            ((do noteCall call; (nested call).run : Capture Variable).outcome u).2 :=
        h.append (h.noting u call) (ihnested call (u.noting call))
      have hoperation := h.history hinline operation t
      rw [← state_attempt] at hoperation
      rw [Body.history, Body.run_perform, outcome_bind]
      rcases hout : (attempt (operation.perform fun call => do
        noteCall call
        (nested call).run)).outcome t with ⟨answer, u⟩
      rw [hout] at hoperation
      cases answer with
      | ok answer => exact h.append hoperation (ihnext answer u)
      | error fault =>
          rw [List.append_nil]
          exact hoperation

theorem inlined (call : FunctionCall) (t : Trace) :
    R (Trace.inlinedHistory call t) t ((Capture.inlined call).outcome t).2 := by
  unfold Trace.inlinedHistory Capture.inlined
  rw [outcome_bind_ok (outcome_get t)]
  cases t.inliner with
  | none => exact h.idle t
  | some inliner => exact h.append (h.noting t call) (h.body (inliner call) (t.noting call))

/-- Every operation. -/
theorem performed (operation : Operation) (t : Trace) :
    R (operation.performed t) t ((perform operation).outcome t).2 :=
  h.history h.inlined operation t

/-- Every run, once this is known of what may happen in between. -/
theorem runs {between : Trace → Trace → Prop} (hbetween : ∀ t u, between t u → R [] t u)
    {start t : Trace} {past : List Performed} (hrun : Trace.Runs between start past t) :
    R past start t := by
  induction hrun with
  | start => exact h.idle start
  | perform _ operation ih => exact h.append ih (h.performed operation _)
  | between _ hstep ih =>
      have hnext := h.append ih (hbetween _ _ hstep)
      rw [List.append_nil] at hnext
      exact hnext

end Chronicle

end TensorCapture
