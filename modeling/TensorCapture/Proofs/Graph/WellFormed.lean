import TensorCapture.Proofs.Graph.Growth

set_option autoImplicit false

/-! # Graphs of traces are well formed

Nodes are numbered in the order in which they came, operands are older than the node that reads
them, inputs are placeholder nodes, and no guard occurs twice. The empty graph is such a graph,
and every operation leads from such a graph to such a graph, so every trace has one at any time.
-/

namespace TensorCapture

/-- A graph as traces build it. -/
structure Graph.WellFormed (g : Graph) : Prop where
  /-- The identity of a node is its position. -/
  id_eq : ∀ (i : Nat) (n : Node), g.nodes[i]? = some n → n.id = ⟨i⟩
  /-- A node reads older nodes only. -/
  reads : ∀ (i : Nat) (n : Node), g.nodes[i]? = some n → ∀ id, n.Reads id → id.index < i
  /-- The node of an input stands for an input. -/
  input : ∀ a ∈ g.inputs, ∃ n name,
    g.nodes[a.node.index]? = some n ∧ n.target = .placeholder name
  guards : g.guards.Distinct

namespace Graph

variable {g g' : Graph}

theorem wellFormed_empty : empty.WellFormed where
  id_eq i n hn := by
    rw [getElem?_nodes_empty] at hn
    cases hn
  reads i n hn := by
    rw [getElem?_nodes_empty] at hn
    cases hn
  input a ha := absurd ha List.not_mem_nil
  guards := GuardSet.distinct_empty

/-- Other guards, modules and identities do not matter. -/
theorem WellFormed.congr (h : g.WellFormed) (hnodes : g'.nodes = g.nodes)
    (hinputs : g'.inputs = g.inputs) (hguards : g'.guards.Distinct) : g'.WellFormed where
  id_eq i n hn := h.id_eq i n (hnodes ▸ hn)
  reads i n hn := h.reads i n (hnodes ▸ hn)
  input a ha := by
    rw [hinputs] at ha
    rw [hnodes]
    exact h.input a ha
  guards := hguards

theorem WellFormed.append (h : g.WellFormed) (target : Target) {args : List Operand}
    {kwargs : Named Operand}
    (hold : ∀ id ∈ Operand.nodesOfAll args ++ Operand.nodesOfAll kwargs.values,
      id.index < g.nodes.size) : (g.append target args kwargs).WellFormed where
  id_eq i n hn := by
    rw [getElem?_nodes_append] at hn
    split at hn
    · rename_i hi
      cases hn
      rw [hi]
      rfl
    · exact h.id_eq i n hn
  reads i n hn id hid := by
    rw [getElem?_nodes_append] at hn
    split at hn
    · -- the new node reads nodes that were in the graph before it
      rename_i hi
      cases hn
      have hlt := hold id (Node.mem_operandNodes_of_reads hid)
      omega
    · exact h.reads i n hn id hid
  input a ha := by
    obtain ⟨n, name, hn, htarget⟩ := h.input a ha
    exact ⟨n, name, getElem?_nodes_append_of_some target args kwargs hn, htarget⟩
  guards := h.guards

theorem WellFormed.addInput (h : g.WellFormed) (name : String) (source : Source) :
    (g.addInput name source).2.WellFormed := by
  have happend : (g.append (.placeholder name) [] []).WellFormed :=
    h.append _ fun id hid => absurd hid List.not_mem_nil
  refine ⟨happend.id_eq, happend.reads, fun a ha => ?_, h.guards⟩
  rcases List.mem_append.mp ha with hold | hnew
  · exact happend.input a hold
  · -- the new input stands at the end, and so does its node
    rw [List.mem_singleton] at hnew
    subst hnew
    refine ⟨⟨g.nextNode, .placeholder name, [], [], none⟩, name, ?_, rfl⟩
    show (g.append (.placeholder name) [] []).nodes[g.nodes.size]? = _
    rw [getElem?_nodes_append, if_pos rfl]

theorem WellFormed.setExample (h : g.WellFormed) {id : NodeId} {value : Value}
    (hset : g.setExample id value = .ok g') : g'.WellFormed := by
  have hgrows := (growsBehind_setExample hset).toGrows
  have hsize := size_nodes_setExample hset
  refine ⟨fun i n' hn' => ?_, fun i n' hn' id hid => ?_, fun a ha => ?_, ?_⟩
  · obtain ⟨n, hn, hsame⟩ := hgrows.exists_of_size_eq hsize hn'
    exact hsame.id_eq.trans (h.id_eq i n hn)
  · obtain ⟨n, hn, hsame⟩ := hgrows.exists_of_size_eq hsize hn'
    refine h.reads i n hn id ?_
    unfold Node.Reads at hid ⊢
    rw [← hsame.args_eq, ← hsame.kwargs_eq]
    exact hid
  · obtain ⟨rfl, -⟩ := setExample_eq_ok hset
    obtain ⟨n, name, hn, htarget⟩ := h.input a ha
    obtain ⟨n', hn', hsame⟩ := hgrows.node _ n hn
    exact ⟨n', name, hn', hsame.target_eq.trans htarget⟩
  · obtain ⟨rfl, -⟩ := setExample_eq_ok hset
    exact h.guards

theorem WellFormed.eraseInputs (h : g.WellFormed) (source : Source) :
    (g.eraseInputs source).WellFormed := by
  refine ⟨h.id_eq, h.reads, fun a ha => ?_, h.guards⟩
  obtain ⟨a₀, hmem, rfl⟩ := List.mem_map.mp ha
  obtain ⟨n, name, hn, htarget⟩ := h.input a₀ hmem
  refine ⟨n, name, ?_, htarget⟩
  -- erased or not, the input has the node that it had
  by_cases hsource : a₀.source = source
  · rw [if_pos hsource]
    exact hn
  · rw [if_neg hsource]
    exact hn

theorem WellFormed.literalize (h : g.WellFormed) (id : NodeId) (p : Provenance) :
    (g.literalize id p).WellFormed := by
  unfold Graph.literalize
  cases p.source with
  | none => exact h.congr rfl rfl (GuardSet.distinct_ofList _)
  | some source => exact (h.eraseInputs source).congr rfl rfl (GuardSet.distinct_ofList _)

theorem Step.wellFormed (h : g.Step g') (hg : g.WellFormed) : g'.WellFormed := by
  cases h with
  | addGuards guards => exact hg.congr rfl rfl (hg.guards.union guards)
  | record h =>
      obtain ⟨rfl, hold⟩ := record_eq_ok h
      exact hg.append _ hold
  | addInput name source => exact hg.addInput name source
  | setExample h => exact hg.setExample h
  | newIdentity => exact hg.congr rfl rfl hg.guards

end Graph

/-! ## From small steps to operations -/

namespace Trace

variable {literals : Option Inliner → Prop} {t u : Trace}

theorem Reaches.wellFormed (h : Reaches literals t u) (ht : t.graph.WellFormed) :
    u.graph.WellFormed := by
  induction h with
  | refl => exact ht
  | tail _ hstep ih =>
      cases hstep with
      | work w h => exact ih
      | graph h => exact h.wellFormed ih
      | literalize h id p hnew => exact ih.literalize id p

theorem Reaches.grows (h : Reaches literals t u) : t.graph.Grows u.graph := by
  induction h with
  | refl => exact .refl _
  | tail _ hstep ih =>
      cases hstep with
      | work w h => exact ih
      | graph h => exact ih.trans h.growsBehind.toGrows
      | literalize h id p hnew => exact ih.trans (Graph.grows_literalize _ id p)

/-- The guards stay in front unless some scalar became a literal on the way. -/
theorem Reaches.guards_or_deoptimized (h : Reaches literals t u) :
    t.graph.guards.members <+: u.graph.guards.members ∨
      literals t.inliner ∧ t.graph.deoptimized.length < u.graph.deoptimized.length := by
  -- literals are never taken back, so once one was made the second case is kept
  induction h with
  | refl => exact .inl (List.prefix_refl _)
  | @tail v w hreach hstep ih =>
      cases hstep with
      | work w h => exact ih
      | graph h =>
          have hbehind := h.growsBehind
          have hlength := hbehind.deoptimized.length_le
          rcases ih with hguards | ⟨hliterals, hlt⟩
          · exact .inl (hguards.trans hbehind.guards)
          · exact .inr ⟨hliterals, Nat.lt_of_lt_of_le hlt hlength⟩
      | literalize h id p hnew =>
          have hinliner : v.inliner = t.inliner := Reaches.inliner_eq hreach
          have hlength := (Reaches.grows hreach).deoptimized.length_le
          have hlonger := v.graph.length_deoptimized_literalize id p
          refine .inr ⟨hinliner ▸ h, ?_⟩
          calc t.graph.deoptimized.length
              ≤ v.graph.deoptimized.length := hlength
            _ < v.graph.deoptimized.length + 1 := Nat.lt_succ_self _
            _ = (v.graph.literalize id p).deoptimized.length := hlonger.symm

/-! ## Runs -/

/-- The states that a trace can get into: it starts with an empty graph, operations are
performed on it, and in between modules are registered, inputs are erased, and anything but its
graph may change. -/
inductive Reachable : Trace → Prop where
  | start {t : Trace} (h : t.graph = .empty) : Reachable t
  | perform {t : Trace} (h : Reachable t) (operation : Operation) :
      Reachable ((Capture.perform operation).outcome t).2
  | register {t : Trace} (h : Reachable t) (path : String) (handle : Nat) :
      Reachable (t.register path handle)
  | eraseInputs {t : Trace} (h : Reachable t) (source : Source) :
      Reachable (t.eraseInputs source).2
  | elsewhere {t u : Trace} (h : Reachable t) (hgraph : u.graph = t.graph) : Reachable u

theorem Reachable.wellFormed (h : Reachable t) : t.graph.WellFormed := by
  induction h with
  | start h =>
      rw [h]
      exact Graph.wellFormed_empty
  | perform _ operation ih => exact (Capture.reaches_perform operation _).wellFormed ih
  | register _ path handle ih => exact ih.congr rfl rfl ih.guards
  | eraseInputs _ source ih => exact ih.eraseInputs source
  | elsewhere _ hgraph ih =>
      rw [hgraph]
      exact ih

end Trace

/-- Every reachable trace has a well-formed graph, and every operation on it makes the graph
grow. The guards stay in front unless a scalar was made a literal, which only the operation for
this does, or inlined code that asks for it. -/
theorem graph_appendOnly (t : Trace) (h : t.Reachable) (operation : Operation) :
    t.graph.WellFormed ∧ ((Capture.perform operation).outcome t).2.graph.WellFormed ∧
      t.graph.Grows ((Capture.perform operation).outcome t).2.graph ∧
      (t.graph.guards.members <+: ((Capture.perform operation).outcome t).2.graph.guards.members ∨
        (operation.isLiteralize = true ∨ Inliner.MayLiteralize t.inliner) ∧
          t.graph.deoptimized.length <
            ((Capture.perform operation).outcome t).2.graph.deoptimized.length) := by
  have hreaches := Capture.reaches_perform operation t
  refine ⟨h.wellFormed, hreaches.wellFormed h.wellFormed, hreaches.grows, ?_⟩
  cases hop : operation.isLiteralize with
  | true =>
      exact hreaches.guards_or_deoptimized.imp_right fun hlonger => ⟨.inl rfl, hlonger.2⟩
  | false =>
      -- by small steps of which none makes a literal, unless inlined code does
      have hquiet := Capture.reaches_perform_of_not_literalize hop t
      exact hquiet.guards_or_deoptimized.imp_right fun hlonger => ⟨.inr hlonger.1, hlonger.2⟩

/-- A trace that has one input. -/
def Trace.ofInput (name : String) : Trace :=
  ((Capture.perform (.addInput name (.local name))).outcome
    (.start name .standard (.ofSeed 0))).2

/-- An operation whose operand occurs inside a tuple. -/
theorem graph_appendOnly_ofInput :
    (Trace.ofInput "x").Reachable ∧
      (Trace.ofInput "x").graph.WellFormed ∧
      ((Capture.perform (.record (.method "neg") [.tuple [.node ⟨0⟩]] [])).outcome
        (Trace.ofInput "x")).2.graph.nodes.size = 2 ∧
      ((Capture.perform (.record (.method "neg") [.tuple [.node ⟨0⟩]] [])).outcome
        (Trace.ofInput "x")).2.graph.WellFormed := by
  have hreachable : (Trace.ofInput "x").Reachable := .perform (.start rfl) _
  have h := graph_appendOnly (Trace.ofInput "x") hreachable
    (.record (.method "neg") [.tuple [.node ⟨0⟩]] [])
  exact ⟨hreachable, h.1, rfl, h.2.1⟩

end TensorCapture
