import TensorCapture.Proofs.Capture.Keeps
import TensorCapture.Proofs.Operands.Reify
import TensorCapture.Proofs.Unpacking.Shape

set_option autoImplicit false

/-! # When a step answers

`AnswersIff c act t P` says that from the trace `t` the step answers if and only if `c`, and that
what it answers and the trace that it leaves then satisfy `P`. Sequencing joins the conditions
of the steps, so walking along a program collects the exact condition under which it answers.

Of a trace only the settings and the nodes are followed. A step adds nodes behind those that are
there, or writes the example of one of them.
-/

namespace TensorCapture

/-! ## Traces with more nodes -/

/-- A trace with these nodes behind the ones of another trace, and the same settings. -/
structure Trace.Adds (t : Trace) (new : List Node) (u : Trace) : Prop where
  config_eq : u.config = t.config
  nodes_eq : u.graph.nodes.toList = t.graph.nodes.toList ++ new

/-- A trace with one more example, and with these nodes behind the ones of another trace. -/
structure Trace.Fills (t : Trace) (id : NodeId) (e : Value) (new : List Node) (u : Trace) :
    Prop where
  config_eq : u.config = t.config
  nodes_eq : u.graph.nodes.toList = t.graph.nodesWith id e ++ new

namespace Trace

variable {t u v : Trace} {id : NodeId} {e : Value} {new new' : List Node}

theorem Adds.refl (t : Trace) : t.Adds [] t := ⟨rfl, by simp⟩

theorem Adds.trans (h : t.Adds new u) (h' : u.Adds new' v) : t.Adds (new ++ new') v :=
  ⟨h'.config_eq.trans h.config_eq, by rw [h'.nodes_eq, h.nodes_eq, List.append_assoc]⟩

theorem Fills.adds (h : t.Fills id e new u) (h' : u.Adds new' v) :
    t.Fills id e (new ++ new') v :=
  ⟨h'.config_eq.trans h.config_eq, by rw [h'.nodes_eq, h.nodes_eq, List.append_assoc]⟩

theorem Adds.size_eq (h : t.Adds new u) :
    u.graph.nodes.size = t.graph.nodes.size + new.length := by
  have hlength := congrArg List.length h.nodes_eq
  simpa using hlength

theorem Fills.size_eq (h : t.Fills id e new u) :
    u.graph.nodes.size = t.graph.nodes.size + new.length := by
  have hlength := congrArg List.length h.nodes_eq
  simpa [Graph.nodesWith] using hlength

theorem modify_length_append {α : Type} (l : List α) (a : α) (f : α → α) :
    (l ++ [a]).modify l.length f = l ++ [f a] := by
  induction l with
  | nil => simp
  | cons b l ih => simp [ih]

/-- The node that was added last can be given an example. -/
theorem Adds.fills {n : Node} (h : t.Adds [n] u)
    (h' : u.Fills ⟨t.graph.nodes.size⟩ e new v) :
    t.Adds ({ n with example? := some e } :: new) v := by
  refine ⟨h'.config_eq.trans h.config_eq, ?_⟩
  have hlength : t.graph.nodes.toList.length = t.graph.nodes.size := Array.length_toList
  rw [h'.nodes_eq, Graph.nodesWith, h.nodes_eq, ← hlength, modify_length_append]
  simp

end Trace

/-- The node is there and has no example. -/
def Graph.Lacks (g : Graph) (id : NodeId) : Prop :=
  ∃ n, g.nodes[id.index]? = some n ∧ n.example? = none

/-! ## Conditions of answers -/

namespace Capture

variable {α β : Type} {c c' : Prop} {t : Trace} {P : α → Trace → Prop} {Q : β → Trace → Prop}

/-- The step answers exactly under the condition, and then an answer and a trace are left that
are as said. -/
def AnswersIff (c : Prop) (act : Capture α) (t : Trace) (P : α → Trace → Prop) : Prop :=
  (c ∧ ∃ a u, act.outcome t = (.ok a, u) ∧ P a u) ∨ (¬c ∧ ∃ e u, act.outcome t = (.error e, u))

theorem answersIff_congr {act : Capture α} (h : AnswersIff c act t P) (hc : c ↔ c') :
    AnswersIff c' act t P := by
  unfold AnswersIff
  rw [← hc]
  exact h

theorem answersIff_imp {act : Capture α} {P' : α → Trace → Prop} (h : AnswersIff c act t P)
    (hP : ∀ a u, P a u → P' a u) : AnswersIff c act t P' := by
  rcases h with ⟨hc, a, u, hout, ha⟩ | herror
  · exact .inl ⟨hc, a, u, hout, hP a u ha⟩
  · exact .inr herror

theorem answersIff_pure {a : α} (h : P a t) : AnswersIff True (pure a) t P :=
  .inl ⟨trivial, a, t, rfl, h⟩

theorem answersIff_breach (b : Breach) : AnswersIff False (breach b : Capture α) t P :=
  .inr ⟨id, _, t, rfl⟩

theorem answersIff_bind_breach (b : Breach) (f : α → Capture β) :
    AnswersIff False (breach b >>= f) t Q :=
  .inr ⟨id, _, t, outcome_bind_error rfl f⟩

/-- Steps in sequence answer if each of them does. -/
theorem answersIff_bind {act : Capture α} {f : α → Capture β} (h : AnswersIff c act t P)
    (hf : ∀ a u, P a u → AnswersIff c' (f a) u Q) : AnswersIff (c ∧ c') (act >>= f) t Q := by
  rcases h with ⟨hc, a, u, hout, ha⟩ | ⟨hc, e, u, hout⟩
  · rcases hf a u ha with ⟨hc', b, v, hout', hb⟩ | ⟨hc', e, v, hout'⟩
    · exact .inl ⟨⟨hc, hc'⟩, b, v, (outcome_bind_ok hout f).trans hout', hb⟩
    · exact .inr ⟨fun h => hc' h.2, e, v, (outcome_bind_ok hout f).trans hout'⟩
  · exact .inr ⟨fun h => hc h.1, e, u, outcome_bind_error hout f⟩

/-- Before the step there may be one that always answers. -/
theorem answersIff_after {act : Capture α} {f : α → Capture β} (h : AnswersIff True act t P)
    (hf : ∀ a u, P a u → AnswersIff c (f a) u Q) : AnswersIff c (act >>= f) t Q :=
  answersIff_congr (answersIff_bind h hf) (by simp)

/-- After the step there may be one that always answers. -/
theorem answersIff_before {act : Capture α} {f : α → Capture β} (h : AnswersIff c act t P)
    (hf : ∀ a u, P a u → AnswersIff True (f a) u Q) : AnswersIff c (act >>= f) t Q :=
  answersIff_congr (answersIff_bind h hf) (by simp)

/-! ## Single steps -/

variable (t)

theorem answersIff_config :
    AnswersIff True config t fun settings u => settings = t.config ∧ t = u :=
  .inl ⟨trivial, t.config, t, rfl, rfl, rfl⟩

theorem answersIff_say (level : Log.Level) (channel : Log.Channel) (text : String) :
    AnswersIff True (say level channel text) t fun _ u => t.Adds [] u :=
  .inl ⟨trivial, (), _, rfl, rfl, by simp⟩

theorem answersIff_addGuards (guards : GuardSet) :
    AnswersIff True (addGuards guards) t fun _ u => t.Adds [] u :=
  .inl ⟨trivial, (), _, rfl, rfl, by simp [Graph.addGuards]⟩

theorem answersIff_newIdentity : AnswersIff True newIdentity t fun _ u => t.Adds [] u :=
  .inl ⟨trivial, t.graph.nextIdentity, _, rfl, rfl, by simp⟩

variable {t} {id : NodeId}

/-- The example of a node that has none can be written. -/
theorem answersIff_setExample (h : t.graph.Lacks id) (e : Value) :
    AnswersIff True (setExample id e) t fun _ u => t.Fills id e [] u := by
  obtain ⟨n, hn, hnone⟩ := h
  have hset : ∃ g, t.graph.setExample id e = .ok g ∧ g.nodes.toList = t.graph.nodesWith id e := by
    simp [Graph.setExample, hn, hnone, Graph.nodesWith]
  obtain ⟨g, hset, hnodes⟩ := hset
  refine .inl ⟨trivial, (), { t with graph := g }, ?_, rfl, by simpa using hnodes⟩
  unfold setExample
  rw [outcome_bind_ok (outcome_get t), hset]
  rfl

/-- An operation can be recorded with nodes of the graph. -/
theorem outcome_record {args : List Operand} {kwargs : Named Operand}
    (h : ∀ found ∈ Operand.nodesOfAll args ++ Operand.nodesOfAll kwargs.values,
      found.index < t.graph.nodes.size) (target : Target) :
    ∃ text, (record target args kwargs).outcome t = (.ok t.graph.nextNode, { t with
      graph := t.graph.append target args kwargs
      workshop := t.workshop.say .trace .graph text }) := by
  have hrecord := Graph.record_of_lt_size h target
  unfold record
  rw [outcome_bind_ok (outcome_get t), outcome_bind, hrecord]
  exact ⟨_, rfl⟩

/-- An operation can be recorded exactly where its operands are nodes of the graph. -/
theorem answersIff_record (t : Trace) (target : Target) (args : List Operand)
    (kwargs : Named Operand) :
    AnswersIff (∀ found ∈ Operand.nodesOfAll args ++ Operand.nodesOfAll kwargs.values,
        found.index < t.graph.nodes.size) (record target args kwargs) t fun id u =>
      id = t.graph.nextNode ∧ u.config = t.config ∧
        u.graph = t.graph.append target args kwargs := by
  rcases hout : (record target args kwargs).outcome t with ⟨e | id, u⟩
  · refine .inr ⟨fun h => ?_, e, u, hout⟩
    obtain ⟨text, hrecord⟩ := outcome_record h target
    rw [hrecord] at hout
    cases hout
  · obtain ⟨rfl, hnodes, text, rfl⟩ := record_eq_ok hout
    exact .inl ⟨hnodes, _, _, hout, rfl, rfl, rfl⟩

/-- The subscript of a node of the graph can be recorded. -/
theorem answersIff_recordItem (hid : id.index < t.graph.nodes.size) {index : Nat}
    (hindex : index < Word.signedBound) :
    AnswersIff True (recordItem id index) t fun child u =>
      child = ⟨t.graph.nodes.size⟩ ∧ t.Adds [.subscript ⟨t.graph.nodes.size⟩ id index none] u := by
  have hnodes : ∀ found ∈ Operand.nodesOfAll [.node id, .literal (.int (Word.signed index))] ++
      Operand.nodesOfAll (Named.values []), found.index < t.graph.nodes.size := by
    simpa [Operand.nodesOfAll, Operand.nodes, Named.values] using hid
  obtain ⟨text, hrecord⟩ := outcome_record hnodes (.builtin .getItem)
  unfold recordItem
  rw [if_pos hindex, AnswersIff, hrecord]
  exact .inl ⟨trivial, _, _, rfl, rfl, rfl, by simp [Graph.append, Node.subscript, Graph.nextNode]⟩

/-- A node that was just recorded has no example. -/
theorem lacks_of_adds {n : Node} (hnone : n.example? = none) {u : Trace} (h : t.Adds [n] u) :
    u.graph.Lacks ⟨t.graph.nodes.size⟩ := by
  refine ⟨n, ?_, hnone⟩
  rw [← Array.getElem?_toList, h.nodes_eq]
  simp

end Capture

end TensorCapture
