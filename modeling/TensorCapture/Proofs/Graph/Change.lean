import TensorCapture.Graph.Basic

set_option autoImplicit false

/-! # One change of a graph

What each operation on graphs was checked for when it succeeds, and where the nodes of the graph
are found afterwards.
-/

namespace TensorCapture.Graph

variable {g g' : Graph}

theorem getElem?_nodes_empty (i : Nat) : empty.nodes[i]? = none := Array.getElem?_empty

theorem getElem?_nodes_append (g : Graph) (target : Target) (args : List Operand)
    (kwargs : Named Operand) (i : Nat) :
    (g.append target args kwargs).nodes[i]? =
      if i = g.nodes.size then some ⟨g.nextNode, target, args, kwargs, none⟩ else g.nodes[i]? :=
  Array.getElem?_push

theorem getElem?_nodes_append_of_some {i : Nat} {n : Node} (target : Target)
    (args : List Operand) (kwargs : Named Operand) (h : g.nodes[i]? = some n) :
    (g.append target args kwargs).nodes[i]? = some n := by
  have hlt : i < g.nodes.size := (Array.getElem?_eq_some_iff.mp h).1
  rw [getElem?_nodes_append, if_neg (by omega), h]

/-- A node that is found is the one at this position. -/
theorem node?_eq_ok {id : NodeId} {n : Node} (h : g.node? id = .ok n) :
    g.nodes[id.index]? = some n := by
  unfold node? at h
  split at h
  · rename_i hn
    rw [hn, Except.ok.inj h]
  · cases h

/-- What a recorded operation was checked for: every operand node is in the graph. -/
theorem record_eq_ok {target : Target} {args : List Operand} {kwargs : Named Operand}
    {id : NodeId} (h : g.record target args kwargs = .ok (id, g')) :
    g' = g.append target args kwargs ∧
      ∀ id ∈ Operand.nodesOfAll args ++ Operand.nodesOfAll kwargs.values,
        id.index < g.nodes.size := by
  unfold record at h
  split at h
  · cases h
  · rename_i hforeign
    obtain ⟨-, rfl⟩ := Prod.mk.inj (Except.ok.inj h)
    refine ⟨rfl, fun id hid => ?_⟩
    have hnone := List.getLast?_eq_none_iff.mp hforeign
    have hlt := List.filter_eq_nil_iff.mp hnone id hid
    rw [decide_eq_true_eq] at hlt
    omega

/-- The recorded operation is found under its identity. -/
theorem node?_of_record {target : Target} {args : List Operand} {kwargs : Named Operand}
    {id : NodeId} (h : g.record target args kwargs = .ok (id, g')) :
    g'.node? id = .ok ⟨id, target, args, kwargs, none⟩ := by
  unfold record at h
  split at h
  · cases h
  · obtain ⟨rfl, rfl⟩ := Prod.mk.inj (Except.ok.inj h)
    have hfound : (g.append target args kwargs).nodes[g.nextNode.index]? =
        some ⟨g.nextNode, target, args, kwargs, none⟩ := by
      rw [getElem?_nodes_append]
      exact if_pos rfl
    unfold node?
    rw [hfound]

/-- An example value is written into a node that is there and has none. -/
theorem setExample_eq_ok {id : NodeId} {value : Value} (h : g.setExample id value = .ok g') :
    g' = { g with nodes := g.nodes.modify id.index fun n => { n with example? := value } } ∧
      ∃ n, g.nodes[id.index]? = some n ∧ n.example? = none := by
  unfold setExample at h
  split at h
  · cases h
  · rename_i n hn
    split at h
    · cases h
    · rename_i hnone
      exact ⟨(Except.ok.inj h).symm, n, hn, hnone⟩

theorem size_nodes_setExample {id : NodeId} {value : Value} (h : g.setExample id value = .ok g') :
    g'.nodes.size = g.nodes.size := by
  obtain ⟨rfl, -⟩ := setExample_eq_ok h
  exact Array.size_modify

/-- After an example value was written, a node is the one from before, or that one with the
value. -/
theorem getElem?_nodes_setExample {id : NodeId} {value : Value}
    (h : g.setExample id value = .ok g') (i : Nat) :
    g'.nodes[i]? = if id.index = i then g.nodes[i]?.map fun n => { n with example? := value }
      else g.nodes[i]? := by
  obtain ⟨rfl, -⟩ := setExample_eq_ok h
  exact Array.getElem?_modify

end TensorCapture.Graph
