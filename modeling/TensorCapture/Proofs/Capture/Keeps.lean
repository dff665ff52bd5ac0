import Mathlib.Order.Defs.Unbundled
import TensorCapture.Capture.Execution
import TensorCapture.Proofs.Graph.Change

set_option autoImplicit false

/-! # Relations that steps keep

`Keeps R act` says that a step relates every state to the state after it by `R`, whether it
answers, reports an error or ends the run. For a preorder `R` this is closed under sequencing,
so it holds of a step once it holds of the parts that change the state.
-/

namespace TensorCapture.Capture

variable {α β : Type}

/-! ## Outcomes of sequenced steps -/

theorem outcome_get (t : Trace) : (get : Capture Trace).outcome t = (.ok t, t) := rfl

/-- The first step decides whether the second one is taken. -/
theorem outcome_bind (act : Capture α) (f : α → Capture β) (t : Trace) :
    (act >>= f).outcome t =
      match act.outcome t with
      | (.ok a, t) => (f a).outcome t
      | (.error e, t) => (.error e, t) := by
  show (ExceptT.run (act >>= f)).run t = _
  simp only [ExceptT.run_bind, StateT.run_bind, outcome]
  rcases (ExceptT.run act).run t with ⟨_ | _, _⟩ <;> rfl

/-- After a step that answers, the rest runs from the state it left. -/
theorem outcome_bind_ok {act : Capture α} {t t' : Trace} {a : α} (h : act.outcome t = (.ok a, t'))
    (f : α → Capture β) : (act >>= f).outcome t = (f a).outcome t' := by
  rw [outcome_bind, h]

theorem outcome_bind_error {act : Capture α} {t t' : Trace} {e : Fault CaptureError}
    (h : act.outcome t = (.error e, t')) (f : α → Capture β) :
    (act >>= f).outcome t = (.error e, t') := by
  rw [outcome_bind, h]

theorem outcome_map_ok {act : Capture α} {t t' : Trace} {a : α} (h : act.outcome t = (.ok a, t'))
    (f : α → β) : (f <$> act).outcome t = (.ok (f a), t') := by
  rw [map_eq_pure_bind, outcome_bind_ok h]
  rfl

theorem outcome_map_error {act : Capture α} {t t' : Trace} {e : Fault CaptureError}
    (h : act.outcome t = (.error e, t')) (f : α → β) : (f <$> act).outcome t = (.error e, t') := by
  rw [map_eq_pure_bind, outcome_bind_error h]

/-- Where the steps together answer, each of them does. -/
theorem outcome_bind_eq_ok {act : Capture α} {f : α → Capture β} {t u : Trace} {b : β}
    (h : (act >>= f).outcome t = (.ok b, u)) :
    ∃ a t', act.outcome t = (.ok a, t') ∧ (f a).outcome t' = (.ok b, u) := by
  rw [outcome_bind] at h
  rcases hact : act.outcome t with ⟨_ | a, t'⟩
  · rw [hact] at h
    cases h
  · rw [hact] at h
    exact ⟨a, t', rfl, h⟩

theorem ofExcept_eq_ok {r : Except CaptureError α} {t u : Trace} {a : α}
    (h : (ofExcept r).outcome t = (.ok a, u)) : r = .ok a ∧ t = u := by
  cases r with
  | ok b =>
      cases h
      exact ⟨rfl, rfl⟩
  | error e => cases h

theorem node_eq_ok {id : NodeId} {n : Node} {t u : Trace}
    (h : (node id).outcome t = (.ok n, u)) : t.graph.node? id = .ok n ∧ t = u := by
  obtain ⟨_, _, hget, h⟩ := outcome_bind_eq_ok h
  cases hget
  exact ofExcept_eq_ok h

/-- What recording an operation was checked for, and the trace afterwards. -/
theorem record_eq_ok {target : Target} {args : List Operand} {kwargs : Named Operand}
    {id : NodeId} {t u : Trace} (h : (record target args kwargs).outcome t = (.ok id, u)) :
    id = t.graph.nextNode ∧
      (∀ operand ∈ Operand.nodesOfAll args ++ Operand.nodesOfAll kwargs.values,
        operand.index < t.graph.nodes.size) ∧
      ∃ text, u = { t with
        graph := t.graph.append target args kwargs
        workshop := t.workshop.say .trace .graph text } := by
  unfold record at h
  obtain ⟨_, _, hget, hrest⟩ := outcome_bind_eq_ok h
  cases hget
  obtain ⟨⟨recorded, g⟩, _, hchecked, hwrite⟩ := outcome_bind_eq_ok hrest
  obtain ⟨hrecord, rfl⟩ := ofExcept_eq_ok hchecked
  cases hwrite
  obtain ⟨rfl, hoperands⟩ := Graph.record_eq_ok hrecord
  refine ⟨?_, hoperands, _, rfl⟩
  unfold Graph.record at hrecord
  split at hrecord
  · cases hrecord
  · exact (Prod.mk.inj (Except.ok.inj hrecord)).1.symm

/-! ## Steps that keep a relation -/

/-- The step relates every state to the state after it. -/
def Keeps (R : Trace → Trace → Prop) (act : Capture α) : Prop := ∀ t, R t (act.outcome t).2

variable {R : Trace → Trace → Prop}

theorem keeps_ite (c : Prop) [Decidable c] {act act' : Capture α} (h : Keeps R act)
    (h' : Keeps R act') : Keeps R (if c then act else act') := by
  by_cases hc : c
  · rw [if_pos hc]
    exact h
  · rw [if_neg hc]
    exact h'

/-- An error that becomes part of the answer leaves the state where it was reported. -/
theorem keeps_attempt {act : Capture α} (h : Keeps R act) : Keeps R (attempt act) := by
  intro t
  have hact := h t
  unfold attempt
  rw [outcome_ofFunction]
  -- an answer, an error or the end of the run: the state is the one that the step left
  rcases hout : act.outcome t with ⟨(_ | _) | _, t'⟩
  all_goals
    rw [hout] at hact
    exact hact

section Preorder

variable [IsPreorder Trace R]

theorem keeps_pure (a : α) : Keeps R (pure a : Capture α) := fun t => Std.Refl.refl t

theorem keeps_throw (e : Fault CaptureError) : Keeps R (throw e : Capture α) :=
  fun t => Std.Refl.refl t

theorem keeps_get : Keeps R (get : Capture Trace) := fun t => Std.Refl.refl t

theorem keeps_asks (f : Trace → α) : Keeps R (asks f) := fun t => Std.Refl.refl t

theorem keeps_config : Keeps R config := keeps_asks _

theorem keeps_fail (e : CaptureError) : Keeps R (fail e : Capture α) := keeps_throw _

theorem keeps_refuse (reason : Refusal) : Keeps R (refuse reason : Capture α) := keeps_fail _

theorem keeps_breach (b : Breach) : Keeps R (breach b : Capture α) := keeps_fail _

theorem keeps_ofExcept (r : Except CaptureError α) : Keeps R (ofExcept r) := by
  cases r with
  | ok a => exact keeps_pure a
  | error e => exact keeps_fail e

/-- From one state on: the second step may count on what the first one came to. -/
theorem related_bind {act : Capture α} {f : α → Capture β} {t : Trace} (h : R t (act.outcome t).2)
    (hf : ∀ a t', act.outcome t = (.ok a, t') → R t' ((f a).outcome t').2) :
    R t ((act >>= f).outcome t).2 := by
  rcases hout : act.outcome t with ⟨result, t'⟩
  rw [hout] at h
  cases result with
  | ok a =>
      rw [outcome_bind_ok hout]
      exact IsTrans.trans t t' _ h (hf a t' hout)
  | error e =>
      rw [outcome_bind_error hout]
      exact h

theorem keeps_bind {act : Capture α} {f : α → Capture β} (h : Keeps R act)
    (hf : ∀ a, Keeps R (f a)) : Keeps R (act >>= f) :=
  fun t => related_bind (h t) fun a t' _ => hf a t'

theorem keeps_map {act : Capture α} (f : α → β) (h : Keeps R act) : Keeps R (f <$> act) := by
  rw [map_eq_pure_bind]
  exact keeps_bind h fun a => keeps_pure _

theorem keeps_node (id : NodeId) : Keeps R (node id) :=
  keeps_bind keeps_get fun _ => keeps_ofExcept _

/-! ## Steps that only answer -/

theorem keeps_interpretError (target : Target) (args : List Value) (placeholders : Bool)
    (e : LibraryError) : Keeps R (interpretError target args placeholders e) := by
  unfold interpretError
  split
  · exact keeps_refuse _
  · exact keeps_refuse _
  · refine keeps_bind keeps_config fun config => keeps_ite _ ?_ (keeps_refuse _)
    split
    · exact keeps_pure _
    · exact keeps_breach _
  · exact keeps_refuse _
  · exact keeps_fail _

theorem keeps_settle (target : Target) (args : List Value) (placeholders : Bool)
    (result : Except LibraryError Value) : Keeps R (settle target args placeholders result) := by
  cases result with
  | ok value => exact keeps_pure value
  | error e => exact keeps_interpretError target args placeholders e

theorem keeps_moduleFor (path : String) (given : Option Nat) :
    Keeps R (moduleFor path given) := by
  refine keeps_bind keeps_get fun t => ?_
  split
  · exact keeps_breach _
  · split
    · exact keeps_breach _
    · exact keeps_pure _

end Preorder

/-! ## Running a node -/

/-- Calls the target of a node on its prepared operands. -/
def callTarget (target : Target) (module? : Option Nat) (args : List Value)
    (kwargs : Named Value) (placeholders : Bool) : Capture (Except LibraryError Value) :=
  match target with
  | .placeholder name => breach (.placeholderRun name)
  | .builtin b =>
      inMode placeholders (runKernel fun library => library.callFunction (.builtin b) args kwargs)
  | .function name =>
      inMode placeholders <|
        runKernel fun library => library.callFunction (.function name) args kwargs
  | .method name => inMode placeholders (runMethod name args kwargs)
  | .module path => callModule path module? args kwargs placeholders

/-- To run a node is to call its target and to settle what this comes to. -/
theorem runNode_eq (id : NodeId) (module? : Option Nat) :
    runNode id module? = (do
      let placeholders := (← config).placeholderPropagation
      let node ← node id
      let (args, kwargs) ← ofExcept ((← get).graph.resolveOperands node)
      let args := args.map (prepared placeholders)
      let kwargs := kwargs.mapValues (prepared placeholders)
      let result ← callTarget node.target module? args kwargs placeholders
      settle node.target args placeholders result) := by
  unfold runNode
  refine bind_congr fun config => bind_congr fun node => bind_congr fun t => bind_congr ?_
  rintro ⟨args, kwargs⟩
  dsimp only
  cases node.target <;> rfl

theorem keeps_runNode [IsPreorder Trace R] {module? : Option Nat}
    (h : ∀ target args kwargs placeholders,
      Keeps R (callTarget target module? args kwargs placeholders)) (id : NodeId) :
    Keeps R (runNode id module?) := by
  rw [runNode_eq]
  refine keeps_bind keeps_config fun config => ?_
  refine keeps_bind (keeps_node id) fun node => ?_
  refine keeps_bind keeps_get fun t => ?_
  refine keeps_bind (keeps_ofExcept _) fun operands => ?_
  exact keeps_bind (h _ _ _ _) fun result => keeps_settle _ _ _ _

end TensorCapture.Capture
