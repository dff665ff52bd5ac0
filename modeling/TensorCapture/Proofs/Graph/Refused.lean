import TensorCapture.Proofs.Capture.History
import TensorCapture.Proofs.Unpacking.Refused

set_option autoImplicit false

/-! # Refused method calls

A method call can fail before it records its node, while it records it, and while the recorded node
is classified. In the first two cases no node was added, and the trace is as it was before the call:
nothing was written to the graph, the guards included, nor to the log.

An assignment to items is the exception. It merges the guards of the tensor and of all arguments
before it looks at its operands, so where these are refused the guards of the graph may have grown.
-/

namespace TensorCapture

open Capture Trace

/-- A later graph has no fewer nodes. -/
theorem Graph.Grows.size_le {g g' : Graph} (h : g.Grows g') : g.nodes.size ≤ g'.nodes.size := by
  refine Nat.le_of_not_lt fun hlt => ?_
  obtain ⟨later, hlater, -⟩ := h.node _ _ (Array.getElem?_eq_getElem hlt)
  rw [Array.getElem?_eq_none (Nat.le_refl _)] at hlater
  cases hlater

namespace Capture

variable {α β : Type}

/-- Where the step fails and no node was added, the trace is as before. -/
def Untouched (act : Capture α) : Prop :=
  ∀ t fault u, act.outcome t = (.error fault, u) →
    u.graph.nodes.size = t.graph.nodes.size → u = t

theorem untouched_throw (fault : Fault CaptureError) : Untouched (throw fault : Capture α) := by
  intro t fault' u hout _
  cases hout
  rfl

theorem untouched_breach (b : Breach) : Untouched (breach b : Capture α) := untouched_throw _

theorem untouched_refuse (reason : Refusal) : Untouched (refuse reason : Capture α) :=
  untouched_throw _

theorem untouched_pure (a : α) : Untouched (pure a : Capture α) := by
  intro t fault u hout
  cases hout

theorem untouched_ofExcept (r : Except CaptureError α) : Untouched (ofExcept r) := by
  cases r with
  | ok a => exact untouched_pure a
  | error e => exact untouched_throw _

theorem untouched_ite (c : Prop) [Decidable c] {act act' : Capture α} (h : Untouched act)
    (h' : Untouched act') : Untouched (if c then act else act') := by
  split
  · exact h
  · exact h'

/-- First a step that only answers. -/
theorem untouched_after {act : Capture α} (h : ∀ t, (act.outcome t).2 = t) {f : α → Capture β}
    (hf : ∀ a, Untouched (f a)) : Untouched (act >>= f) := by
  intro t fault u hout hsize
  have hsame := h t
  rcases hact : act.outcome t with ⟨fault' | a, v⟩
  · rw [outcome_bind_error hact] at hout
    rw [hact] at hsame
    cases hout
    exact hsame
  · rw [outcome_bind_ok hact] at hout
    rw [hact] at hsame
    obtain rfl : v = t := hsame
    exact hf a _ fault u hout hsize

/-- A recording that is refused writes nothing. -/
theorem state_of_record_error {target : Target} {args : List Operand} {kwargs : Named Operand}
    {t u : Trace} {fault : Fault CaptureError}
    (h : (record target args kwargs).outcome t = (.error fault, u)) : u = t := by
  unfold record at h
  rw [outcome_bind_ok (outcome_get t)] at h
  cases hrecord : t.graph.record target args kwargs with
  | error e =>
      rw [hrecord] at h
      cases h
      rfl
  | ok recorded =>
      rw [hrecord] at h
      cases h

/-- Recording either refuses, or adds a node that stays whatever comes next. -/
theorem untouched_record_bind (target : Target) (args : List Operand) (kwargs : Named Operand)
    {f : NodeId → Capture β} (hf : ∀ id, Keeps (Reaches fun _ => True) (f id)) :
    Untouched (record target args kwargs >>= f) := by
  intro t fault u hout hsize
  rcases hrecord : (record target args kwargs).outcome t with ⟨fault' | id, v⟩
  · rw [outcome_bind_error hrecord] at hout
    cases hout
    exact state_of_record_error hrecord
  · rw [outcome_bind_ok hrecord] at hout
    obtain ⟨-, -, text, hv⟩ := record_eq_ok hrecord
    have hlater : Reaches (fun _ => True) v u := by
      have hreaches : Reaches (fun _ => True) v ((f id).outcome v).2 := hf id v
      rw [hout] at hreaches
      exact hreaches
    have hgrows := hlater.grows.size_le
    rw [hv, Graph.size_nodes_append] at hgrows
    omega

/-- Recording and classifying. -/
theorem untouched_record_create (x : SymbolicTensor) (target : Target) (args : List Operand)
    (kwargs : Named Operand) (p : Provenance) :
    Untouched (do
      let id ← record target args kwargs
      createDerived x id p) :=
  untouched_record_bind _ _ _ fun id => reaches_parts.create id none none x.role.derived trivial

theorem untouched_length (x : SymbolicTensor) (p : Provenance) : Untouched (length x p) := by
  unfold length
  split
  · exact untouched_pure _
  · exact untouched_record_create x _ _ _ p

theorem untouched_recordMethod (x : SymbolicTensor) (name : String) (args : List Variable)
    (kwargs : Named Variable) (p : Provenance) :
    Untouched (recordMethod x name args kwargs p) := by
  refine untouched_after (fun t => rfl) fun config => ?_
  refine untouched_after (fun t => state_ofExcept _ t) fun operands => ?_
  exact untouched_record_create x _ _ _ p

/-- An assignment that fails before its node is recorded leaves merged guards. -/
theorem merging_of_recordAssignment {x : SymbolicTensor} {args : List Variable}
    {kwargs : Named Variable} {p : Provenance} {t u : Trace} {fault : Fault CaptureError}
    (hout : (recordAssignment x args kwargs p).outcome t = (.error fault, u))
    (hsize : u.graph.nodes.size = t.graph.nodes.size) :
    u = t.merging p := by
  have hrest : Untouched (do
      let operands ← ofExcept (callOperands x args kwargs)
      let _ ← record (.builtin .setItem) operands.1 operands.2
      return Variable.constant .none p) := by
    refine untouched_after (fun t => state_ofExcept _ t) fun operands => ?_
    exact untouched_record_bind _ _ _ fun _ => keeps_pure _
  exact hrest (t.merging p) fault u hout hsize

end Capture

/-- A method call that fails and adds no node leaves the trace as it was. Of an assignment to items
the guards of the tensor and of all arguments are left in the graph. -/
theorem refused_call_untouched {x : SymbolicTensor} {name : String} {args : List Variable}
    {kwargs : Named Variable} {t u : Trace} {fault : Fault CaptureError}
    (hout : (callMethod x name args kwargs).outcome t = (.error fault, u))
    (hsize : u.graph.nodes.size = t.graph.nodes.size) :
    u = if name = "__setitem__" then t.merging (.propagate (.tensor x :: args ++ kwargs.values))
      else t := by
  by_cases hname : name = "__setitem__"
  · subst hname
    rw [if_pos rfl]
    exact merging_of_recordAssignment hout hsize
  · rw [if_neg hname]
    have huntouched : Untouched (callMethod x name args kwargs) := by
      unfold callMethod
      dsimp only
      split
      · exact untouched_throw _
      · exact untouched_ite _ (untouched_ofExcept _) (untouched_breach _)
      · refine untouched_after (fun t => rfl) fun config => ?_
        split
        · exact untouched_refuse _
        · split
          · exact untouched_record_create x _ _ _ _
          · exact untouched_length x _
          · exact absurd rfl hname
          · exact untouched_recordMethod x _ args kwargs _
    exact huntouched t fault u hout hsize

/-- A tensor variable of which no more is known than its node. -/
def SymbolicTensor.ofNode (id : NodeId) : SymbolicTensor where
  node := id
  metadata := none
  parameter := none
  role := .plain
  provenance := .none

/-- An operand that is not in the graph is refused, and the trace is as it was. -/
theorem refused_call_untouched_foreign :
    ∃ e, (callMethod (.ofNode ⟨0⟩) "add" [.tensor (.ofNode ⟨7⟩)] []).outcome (.ofInput "x") =
      (.error (.error e), .ofInput "x") := by
  obtain ⟨e, u, hout, hsize⟩ : ∃ e u,
      (callMethod (.ofNode ⟨0⟩) "add" [.tensor (.ofNode ⟨7⟩)] []).outcome (.ofInput "x") =
        (.error (.error e), u) ∧ u.graph.nodes.size = (Trace.ofInput "x").graph.nodes.size :=
    ⟨_, _, rfl, rfl⟩
  have hsame := refused_call_untouched hout hsize
  rw [if_neg (by decide)] at hsame
  rw [hsame] at hout
  exact ⟨e, hout⟩

/-- A class that was read from a local variable. -/
def Variable.localClass : Variable :=
  .userClass .tensor (.ofGuards (.ofList [.lasting (.local "c") .typeMatch]))

/-- A class is no operand, so the assignment is refused. The graph depends on its guard all the
same. -/
theorem exists_refused_assignment_guarded :
    ∃ e u, (callMethod (.ofNode ⟨0⟩) "__setitem__" [.localClass, .constant (.int 1) .none]
        []).outcome (.ofInput "x") = (.error (.error e), u) ∧
      u.graph.nodes.size = (Trace.ofInput "x").graph.nodes.size ∧
      u.graph ≠ (Trace.ofInput "x").graph := by
  refine ⟨_, _, rfl, rfl, fun hsame => ?_⟩
  have hguards := congrArg (fun g : Graph => g.guards.members.length) hsame
  exact absurd hguards (by decide)

end TensorCapture
