import TensorCapture.Proofs.Guards.Algebra
import TensorCapture.Proofs.Literal.Outcome

set_option autoImplicit false

/-! # Scalars are made literals in any order

Making a scalar a literal turns some guards of the graph into constant matches, and of guards
that become equal the first stays. A guard that one scalar downgrades may be, or may become equal
to, a guard that the other one downgrades. Still the order does not matter: to downgrade twice is
to downgrade all targets at once, because a constant match stays as it is when it is downgraded
again, and because it makes no difference whether equal guards are dropped now or later.
-/

namespace TensorCapture

open Capture

/-! ## Graphs -/

/-- The two graphs are the same, except that nodes may have been made literals in another
order. -/
structure Graph.SameUpToOrder (g g' : Graph) : Prop where
  nodes_eq : g.nodes = g'.nodes
  inputs_eq : g.inputs = g'.inputs
  modules_eq : g.modules = g'.modules
  nextIdentity_eq : g.nextIdentity = g'.nextIdentity
  guards_eq : g.guards = g'.guards
  deoptimized_perm : g.deoptimized.Perm g'.deoptimized

namespace Graph

theorem SameUpToOrder.refl (g : Graph) : g.SameUpToOrder g := ⟨rfl, rfl, rfl, rfl, rfl, .refl _⟩

theorem modules_literalize (g : Graph) (id : NodeId) (p : Provenance) :
    (g.literalize id p).modules = g.modules := by
  unfold literalize
  cases p.source <;> rfl

theorem nextIdentity_literalize (g : Graph) (id : NodeId) (p : Provenance) :
    (g.literalize id p).nextIdentity = g.nextIdentity := by
  unfold literalize
  cases p.source <;> rfl

/-- Two scalars can be made literals in either order. -/
theorem literalize_literalize (g : Graph) (id id' : NodeId) (p p' : Provenance) :
    ((g.literalize id p).literalize id' p').SameUpToOrder
      ((g.literalize id' p').literalize id p) where
  nodes_eq := by simp only [nodes_literalize]
  inputs_eq := by
    simp only [inputs_literalize, List.map_map]
    refine List.map_congr_left fun i _ => ?_
    simp [Bool.or_assoc, Bool.or_comm (decide (p.source = _))]
  modules_eq := by simp only [modules_literalize]
  nextIdentity_eq := by simp only [nextIdentity_literalize]
  guards_eq := by
    simp only [guards_literalize, GuardSet.downgrade_downgrade]
    exact g.guards.downgrade_append_comm _ _
  deoptimized_perm := by
    simp only [deoptimized_literalize, List.append_assoc]
    exact (List.Perm.swap id' id []).append_left g.deoptimized

end Graph

/-! ## The steps -/

namespace Capture

/-- The breach for which a captured scalar is not made a literal, if there is one. -/
def unliteral? (v : SymbolicTensor) (g : Graph) : Option Breach :=
  if !v.role.isUnspecialized then some (.notUnspecialized v.role.name)
  else match v.role.raw? with
    | none => some (.noRawValue v.node)
    | some _ => if g.isDeoptimized v.node then some (.alreadyDeoptimized v.node) else none

/-- Of the graph only matters whether the node was made a literal before. -/
theorem unliteral?_congr {v : SymbolicTensor} {g g' : Graph}
    (h : v.node ∈ g.deoptimized ↔ v.node ∈ g'.deoptimized) : unliteral? v g = unliteral? v g' := by
  unfold unliteral? Graph.isDeoptimized
  rw [decide_eq_decide.mpr h]

/-- What was made a literal is no obstacle to another node. -/
theorem unliteral?_literalize {v : SymbolicTensor} {id : NodeId} (h : v.node ≠ id) (g : Graph)
    (p : Provenance) : unliteral? v (g.literalize id p) = unliteral? v g := by
  refine unliteral?_congr ?_
  rw [Graph.deoptimized_literalize]
  simp [h]

/-- The graph after an attempt to make a captured scalar a literal. -/
def literalized (v : SymbolicTensor) (g : Graph) : Graph :=
  if (unliteral? v g).isSome then g else g.literalize v.node v.provenance

theorem unliteral?_literalized {v w : SymbolicTensor} (h : v.node ≠ w.node) (g : Graph) :
    unliteral? v (literalized w g) = unliteral? v g := by
  unfold literalized
  split
  · rfl
  · exact unliteral?_literalize h g w.provenance

/-- Two attempts for different nodes leave the same graph in either order. -/
theorem literalized_literalized {v w : SymbolicTensor} (h : v.node ≠ w.node) (g : Graph) :
    (literalized w (literalized v g)).SameUpToOrder (literalized v (literalized w g)) := by
  have hv := unliteral?_literalized h g
  have hw := unliteral?_literalized h.symm g
  rw [literalized, hw]
  conv in literalized v (literalized w g) => rw [literalized, hv]
  unfold literalized
  cases hfirst : (unliteral? v g).isSome with
  | true => cases hsecond : (unliteral? w g).isSome <;> exact .refl _
  | false =>
      cases hsecond : (unliteral? w g).isSome with
      | true => exact .refl _
      | false => exact g.literalize_literalize v.node w.node v.provenance w.provenance

/-- What an attempt comes to, and the graph that it leaves. -/
theorem outcome_literalize (v : SymbolicTensor) (t : Trace) :
    ((literalize v).outcome t).2.graph = literalized v t.graph ∧
      match unliteral? v t.graph, v.role.raw? with
      | some b, _ => ((literalize v).outcome t).1 = .error (.error (.internal b))
      | none, some raw => ((literalize v).outcome t).1 = .ok (literalOf v raw)
      | none, none => False := by
  unfold literalized literalize unliteral?
  cases hrole : v.role.isUnspecialized with
  | false => exact ⟨rfl, rfl⟩
  | true =>
      cases hraw : v.role.raw? with
      | none => exact ⟨rfl, rfl⟩
      | some raw =>
          simp only [Bool.not_true, Bool.false_eq_true, if_false]
          rw [outcome_bind_ok (outcome_get t)]
          cases hdone : t.graph.isDeoptimized v.node with
          | true => exact ⟨rfl, rfl⟩
          | false => exact ⟨rfl, rfl⟩

/-- What an attempt comes to depends on nothing else than the breach, if there is one. -/
theorem result_literalize_congr {v : SymbolicTensor} {t u : Trace}
    (h : unliteral? v t.graph = unliteral? v u.graph) :
    ((literalize v).outcome t).1 = ((literalize v).outcome u).1 := by
  have ht := (outcome_literalize v t).2
  have hu := (outcome_literalize v u).2
  rw [← h] at hu
  cases hbreach : unliteral? v t.graph with
  | some b =>
      simp only [hbreach] at ht hu
      exact ht.trans hu.symm
  | none =>
      cases hraw : v.role.raw? with
      | some raw =>
          simp only [hbreach, hraw] at ht hu
          exact ht.trans hu.symm
      | none =>
          simp only [hbreach, hraw] at ht

end Capture

/-- Two scalars of different nodes are made literals in either order: each comes to the same, and
so does the graph. This takes in that one of them, or both, cannot be made a literal. -/
theorem literalize_comm (a b : SymbolicTensor) (hnodes : a.node ≠ b.node) (t : Trace) :
    ((literalize a).outcome t).1 = ((literalize a).outcome ((literalize b).outcome t).2).1 ∧
    ((literalize b).outcome ((literalize a).outcome t).2).1 = ((literalize b).outcome t).1 ∧
    ((literalize b).outcome ((literalize a).outcome t).2).2.graph.SameUpToOrder
      ((literalize a).outcome ((literalize b).outcome t).2).2.graph := by
  have hgraph (v : SymbolicTensor) (u : Trace) := (outcome_literalize v u).1
  refine ⟨result_literalize_congr ?_, result_literalize_congr ?_, ?_⟩
  · rw [hgraph b t]
    exact (unliteral?_literalized hnodes t.graph).symm
  · rw [hgraph a t]
    exact unliteral?_literalized hnodes.symm t.graph
  · rw [hgraph b, hgraph a, hgraph a, hgraph b]
    exact literalized_literalized hnodes t.graph

/-- A second number from the source `scale`, with the same guards, that no recorded node stands
for yet. -/
def SymbolicTensor.scaleAgain : SymbolicTensor :=
  { SymbolicTensor.scale with node := ⟨1⟩, role := .programScalar (some (.int 4)) true }

/-- Two numbers that share their source and the guard that is downgraded both become literals. -/
theorem literalize_comm_scale :
    SymbolicTensor.scale.node ≠ SymbolicTensor.scaleAgain.node ∧
    ((literalize .scale).outcome .ofScale).1 = .ok (literalOf .scale (.int 3)) ∧
    ((literalize .scaleAgain).outcome .ofScale).1 = .ok (literalOf .scaleAgain (.int 4)) ∧
    ((literalize .scaleAgain).outcome
        ((literalize .scale).outcome .ofScale).2).2.graph.SameUpToOrder
      ((literalize .scale).outcome ((literalize .scaleAgain).outcome .ofScale).2).2.graph := by
  have hnodes : SymbolicTensor.scale.node ≠ SymbolicTensor.scaleAgain.node := by decide
  obtain ⟨-, -, hgraph⟩ := literalize_comm .scale .scaleAgain hnodes .ofScale
  exact ⟨hnodes, rfl, rfl, hgraph⟩

end TensorCapture
