import Mathlib.Logic.Relation
import TensorCapture.Proofs.Capture.Building
import TensorCapture.Proofs.Capture.Workshop

set_option autoImplicit false

/-! # The steps an operation is made of

Whatever an operation does, it does by small steps: the workshop works without changing its
library, or the graph takes one of six steps. This holds of every operation, with every inliner,
and however the operation ends. What the small steps preserve is therefore preserved by every
operation, and so by every run.

One of the six steps makes a scalar a literal. A condition on the inliner says whether this may
happen while inlined code runs.
-/

namespace TensorCapture

/-! ## Small steps -/

/-- A change of the graph by which nothing becomes a literal. -/
inductive Graph.Step (g : Graph) : Graph → Prop where
  | addGuards (guards : GuardSet) : Step g (g.addGuards guards)
  | record {target : Target} {args : List Operand} {kwargs : Named Operand} {id : NodeId}
      {g' : Graph} (h : g.record target args kwargs = .ok (id, g')) : Step g g'
  | addInput (name : String) (source : Source) : Step g (g.addInput name source).2
  | setExample {id : NodeId} {value : Value} {g' : Graph} (h : g.setExample id value = .ok g') :
      Step g g'
  | newIdentity : Step g g.newIdentity.2

/-- A small step of a trace. Literals are made only under inliners that satisfy `literals`. -/
inductive Trace.Step (literals : Option Inliner → Prop) (t : Trace) : Trace → Prop where
  /-- The workshop works, and its library is as before. -/
  | work (w : Workshop) (h : w.library = t.workshop.library) :
      Step literals t { t with workshop := w }
  | graph {g : Graph} (h : t.graph.Step g) : Step literals t { t with graph := g }
  | literalize (h : literals t.inliner) (id : NodeId) (p : Provenance)
      (hnew : t.graph.isDeoptimized id = false) :
      Step literals t { t with graph := t.graph.literalize id p }

/-- Any number of small steps. -/
def Trace.Reaches (literals : Option Inliner → Prop) : Trace → Trace → Prop :=
  Relation.ReflTransGen (Trace.Step literals)

namespace Trace

variable {literals literals' : Option Inliner → Prop} {t u : Trace}

instance : IsPreorder Trace (Reaches literals) where
  refl _ := .refl
  trans _ _ _ h h' := h.trans h'

theorem Step.reaches (h : Step literals t u) : Reaches literals t u := .single h

/-- No small step looks at whether calls go to hooks, or changes it. -/
theorem Step.withDispatching (h : Step literals t u) (dispatching : Bool) :
    Step literals { t with dispatching } { u with dispatching } := by
  cases h with
  | work w h => exact .work w h
  | graph h => exact .graph h
  | literalize h id p hnew => exact .literalize (t := { t with dispatching }) h id p hnew

theorem Reaches.withDispatching (h : Reaches literals t u) (dispatching : Bool) :
    Reaches literals { t with dispatching } { u with dispatching } := by
  induction h with
  | refl => exact .refl
  | tail _ hstep ih => exact ih.tail (hstep.withDispatching dispatching)

theorem Step.inliner_eq (h : Step literals t u) : u.inliner = t.inliner := by
  cases h <;> rfl

theorem Reaches.inliner_eq (h : Reaches literals t u) : u.inliner = t.inliner := by
  induction h with
  | refl => rfl
  | tail _ hstep ih => exact hstep.inliner_eq.trans ih

/-- The inliner stays, so only what the condition says of this one inliner counts. -/
theorem Reaches.imp (h : Reaches literals t u) (himp : literals t.inliner → literals' t.inliner) :
    Reaches literals' t u := by
  induction h with
  | refl => exact .refl
  | @tail v w hreach hstep ih =>
      have hinliner : v.inliner = t.inliner := Reaches.inliner_eq hreach
      refine ih.tail ?_
      cases hstep with
      | work w h => exact .work w h
      | graph h => exact .graph h
      | literalize h id p hnew =>
          rw [hinliner] at h
          exact .literalize (hinliner ▸ himp h) id p hnew

end Trace

namespace Capture

open Trace

variable {literals : Option Inliner → Prop}

/-! ## Steps on the graph -/

theorem reaches_work {w : Trace → Workshop} (h : ∀ t, (w t).library = t.workshop.library) :
    Keeps (Reaches literals) (modify fun t => { t with workshop := w t }) :=
  fun t => (Step.work (w t) (h t)).reaches

theorem reaches_say (level : Log.Level) (channel : Log.Channel) (text : String) :
    Keeps (Reaches literals) (say level channel text) :=
  reaches_work fun _ => rfl

theorem reaches_noteCall (call : FunctionCall) : Keeps (Reaches literals) (noteCall call) :=
  reaches_work fun _ => rfl

theorem reaches_addGuards (guards : GuardSet) : Keeps (Reaches literals) (addGuards guards) :=
  fun _ => (Step.graph (.addGuards guards)).reaches

theorem reaches_record (target : Target) (args : List Operand) (kwargs : Named Operand) :
    Keeps (Reaches literals) (record target args kwargs) := by
  intro t
  unfold record
  rw [outcome_bind_ok (outcome_get t)]
  cases hrec : t.graph.record target args kwargs with
  | error e => exact .refl
  | ok recorded =>
      obtain ⟨id, g⟩ := recorded
      -- two steps: the graph gets the node, and the log is told
      refine Relation.ReflTransGen.tail (Step.graph (.record hrec)).reaches ?_
      exact .work (t.workshop.say _ _ _) rfl

theorem reaches_addInput (name : String) (source : Source) :
    Keeps (Reaches literals) (addInput name source) :=
  fun _ => (Step.graph (.addInput name source)).reaches

theorem reaches_setExample (id : NodeId) (value : Value) :
    Keeps (Reaches literals) (setExample id value) := by
  intro t
  unfold setExample
  rw [outcome_bind_ok (outcome_get t)]
  cases hset : t.graph.setExample id value with
  | error e => exact .refl
  | ok g => exact (Step.graph (.setExample hset)).reaches

theorem reaches_newIdentity : Keeps (Reaches literals) newIdentity :=
  fun _ => (Step.graph .newIdentity).reaches

theorem reaches_exampleValue (id : NodeId) (supplied : Option Value) (module? : Option Nat) :
    Keeps (Reaches literals) (exampleValue id supplied module?) := by
  intro t
  obtain ⟨w, hw, hlibrary⟩ := exampleValue_works id supplied module? t
  rw [hw]
  exact (Step.work w hlibrary).reaches

theorem reaches_withoutDispatch {α : Type} {act : Capture α} (h : Keeps (Reaches literals) act) :
    Keeps (Reaches literals) (withoutDispatch act) :=
  fun t => (h { t with dispatching := false }).withDispatching t.dispatching

/-- What classification is made of are small steps, whatever guards are merged. -/
theorem reaches_parts : KeepsParts (Reaches literals) fun _ => True where
  say := reaches_say
  exampleValue := reaches_exampleValue
  setExample := reaches_setExample
  record := reaches_record
  newIdentity := reaches_newIdentity
  addGuards p _ := reaches_addGuards p.guards

end Capture

end TensorCapture
