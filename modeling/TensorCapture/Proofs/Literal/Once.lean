import TensorCapture.Proofs.Capture.History
import TensorCapture.Proofs.Graph.WellFormed
import TensorCapture.Proofs.Literal.Outcome

set_option autoImplicit false

/-! # A scalar is made a literal completely, and once

Where something stops a scalar from being made a literal, the trace stays as it is. Otherwise all
of it happens: the inputs from the scalar's source go, the guards that it carries for this trace
only become constant matches, in the graph and in the result, and the node is marked. The mark is
never taken back, so in the course of a run every node is made a literal at most once, whatever
variables stand for it.
-/

namespace TensorCapture

open Capture

/-! ## All or nothing -/

/-- A later graph in which the scalar was made a literal. -/
structure Graph.LiteralFor (v : SymbolicTensor) (g g' : Graph) : Prop where
  nodes_eq : g'.nodes = g.nodes
  deoptimized_eq : g'.deoptimized = g.deoptimized ++ [v.node]
  /-- Of the inputs, those from the source of the scalar are gone. -/
  liveInputs_eq : g'.liveInputs =
    g.liveInputs.filter fun i => decide (v.provenance.source ≠ some i.source)
  /-- Exactly the guards that the scalar carries for this trace only are constant matches now. -/
  mem_guards : ∀ x, x ∈ g'.guards ↔ ∃ y ∈ g.guards,
    x = if y ∈ v.provenance.guards ∧ y.volatile = true then y.toConstantMatch else y

/-- The provenance of the literal that a scalar becomes, where `g` is the graph before and `g'`
the one after it. -/
structure Provenance.LiteralFor (v : SymbolicTensor) (g g' : Graph) (p : Provenance) : Prop where
  source_eq : p.source = Option.none
  identity_eq : p.identity = Option.none
  mem_guards : ∀ x, x ∈ p.guards ↔ ∃ y ∈ v.provenance.guards,
    x = if y.volatile = true then y.toConstantMatch else y
  /-- What holds for this trace only is a constant match. -/
  volatile : ∀ x ∈ p.guards, x.volatile = true → x.check = .constantMatch
  /-- The graph depends on the literal's guards where it depended on the scalar's. -/
  subset : (∀ x ∈ v.provenance.guards, x ∈ g.guards) → ∀ x ∈ p.guards, x ∈ g'.guards

theorem GuardSet.downgradeGuard_volatileMembers (s : GuardSet) (y : Guard) :
    downgradeGuard s.volatileMembers y =
      if y ∈ s ∧ y.volatile = true then y.toConstantMatch else y := by
  unfold downgradeGuard
  simp only [mem_volatileMembers]

theorem Graph.literalFor_literalize (v : SymbolicTensor) (g : Graph) :
    g.LiteralFor v (g.literalize v.node v.provenance) where
  nodes_eq := nodes_literalize g v.node v.provenance
  deoptimized_eq := deoptimized_literalize g v.node v.provenance
  liveInputs_eq := liveInputs_literalize g v.node v.provenance
  mem_guards x := by
    rw [guards_literalize, GuardSet.mem_downgrade]
    simp only [GuardSet.downgradeGuard_volatileMembers, eq_comm]

theorem Capture.literalFor_literalOf (v : SymbolicTensor) (g : Graph) (raw : Scalar) :
    (literalOf v raw).provenance.LiteralFor v g (g.literalize v.node v.provenance) where
  source_eq := rfl
  identity_eq := rfl
  mem_guards x := by
    show x ∈ (Provenance.ofGuards _).guards ↔ _
    rw [Provenance.mem_guards_ofGuards, GuardSet.mem_downgrade]
    refine exists_congr fun y => and_congr_right fun hy => ?_
    rw [GuardSet.downgradeGuard_volatileMembers, eq_comm]
    simp only [hy, true_and]
  volatile x hx := by
    rw [literalOf] at hx
    exact GuardSet.check_of_mem_downgrade_volatileMembers (Provenance.mem_guards_ofGuards.mp hx)
  subset h x hx := by
    rw [Graph.guards_literalize]
    exact GuardSet.downgrade_subset h x (Provenance.mem_guards_ofGuards.mp hx)

/-! ## Once -/

/-- The node whose scalar an operation made a literal. -/
def Performed.literalized? (done : Performed) : Option NodeId :=
  match done.operation, done.outcome with
  | .literalize v, .ok _ => some v.node
  | _, _ => none

/-- What was made a literal in the course of a history is marked behind what was marked before,
and was not marked before. -/
structure Trace.Literalizes (past : List Performed) (t u : Trace) : Prop where
  deoptimized_eq :
    u.graph.deoptimized = t.graph.deoptimized ++ past.filterMap Performed.literalized?
  nodup : (past.filterMap Performed.literalized?).Nodup
  fresh : ∀ id ∈ past.filterMap Performed.literalized?, id ∉ t.graph.deoptimized

namespace Trace

theorem Literalizes.of_deoptimized_eq {t u : Trace}
    (h : u.graph.deoptimized = t.graph.deoptimized) : Literalizes [] t u where
  deoptimized_eq := h.trans (List.append_nil _).symm
  nodup := List.nodup_nil
  fresh _ hid := absurd hid List.not_mem_nil

theorem Literalizes.append {past past' : List Performed} {t u v : Trace}
    (h : Literalizes past t u) (h' : Literalizes past' u v) : Literalizes (past ++ past') t v where
  deoptimized_eq := by
    rw [h'.deoptimized_eq, h.deoptimized_eq, List.filterMap_append, List.append_assoc]
  nodup := by
    rw [List.filterMap_append, List.nodup_append]
    refine ⟨h.nodup, h'.nodup, fun id hid id' hid' heq => ?_⟩
    -- what the first history made a literal is marked when the second one starts
    refine h'.fresh id' hid' ?_
    rw [h.deoptimized_eq, ← heq]
    exact List.mem_append_right _ hid
  fresh id hid := by
    rw [List.filterMap_append] at hid
    rcases List.mem_append.mp hid with hfirst | hsecond
    · exact h.fresh id hfirst
    · intro hmarked
      refine h'.fresh id hsecond ?_
      rw [h.deoptimized_eq]
      exact List.mem_append_left _ hmarked

theorem Reaches.deoptimized_eq {t u : Trace} (h : Reaches (fun _ => False) t u) :
    u.graph.deoptimized = t.graph.deoptimized := by
  induction h with
  | refl => rfl
  | tail _ hstep ih =>
      rw [← ih]
      cases hstep with
      | work w h => rfl
      | graph h =>
          cases h with
          | record hrecord => rw [(Graph.record_eq_ok hrecord).1]; rfl
          | setExample hset => rw [(Graph.setExample_eq_ok hset).1]
          | _ => rfl
      | literalize h id p hnew => exact absurd h not_false

/-- One operation marks the node that it makes a literal, and no other. -/
theorem literalizes_single (inline : FunctionCall → Capture Variable) (operation : Operation)
    (t : Trace) (hover : operation.handedOver? t.dispatching = none) :
    Literalizes [⟨operation, t, ((operation.perform inline).outcome t).1,
      ((operation.perform inline).outcome t).2⟩] t ((operation.perform inline).outcome t).2 := by
  cases hop : operation.isLiteralize with
  | false =>
      have hreaches := operation.reaches_of_not_handedOver hover hop inline
      have hnone : Performed.literalized? ⟨operation, t, ((operation.perform inline).outcome t).1,
          ((operation.perform inline).outcome t).2⟩ = none := by
        cases operation <;> first | rfl | cases hop
      have hidle := Literalizes.of_deoptimized_eq hreaches.deoptimized_eq
      refine ⟨?_, ?_, ?_⟩
      all_goals rw [List.filterMap_cons_none hnone]
      · exact hidle.deoptimized_eq
      · exact hidle.nodup
      · exact hidle.fresh
  | true =>
      cases operation with
      | literalize v =>
          rcases perform_literalize_cases inline v t with ⟨b, hout⟩ | ⟨raw, w, hfresh, hout⟩
          · rw [hout]
            exact ⟨(List.append_nil _).symm, List.nodup_nil, fun _ h => absurd h List.not_mem_nil⟩
          · rw [hout]
            refine ⟨t.graph.deoptimized_literalize v.node v.provenance,
              List.pairwise_singleton _ _, ?_⟩
            intro id hid
            rw [List.mem_singleton.mp hid]
            exact hfresh
      | _ => cases hop

/-- Histories and the nodes that were made literals. -/
theorem chronicle_literalizes : Chronicle Literalizes where
  idle _ := .of_deoptimized_eq rfl
  append h h' := h.append h'
  noting _ _ := .of_deoptimized_eq rfl
  dispatching h _ _ := ⟨h.deoptimized_eq, h.nodup, h.fresh⟩
  single := literalizes_single

end Trace

/-! ## The theorem -/

/-- At any time of a run, a scalar is made a literal unless something stops it. Then the trace
stays as it is, and otherwise both the graph and the result are as said. In the course of the run
every node was made a literal at most once, and none that had been one before. -/
theorem literalize_complete_once {start t : Trace} {past : List Performed}
    (hrun : Trace.Runs (fun t u => u.graph.deoptimized = t.graph.deoptimized) start past t) :
    (∀ v : SymbolicTensor,
      (Unliteral v t.graph →
        ∃ b, (literalize v).outcome t = (.error (.error (.internal b)), t)) ∧
      (¬Unliteral v t.graph → ∃ raw p u,
        v.role.raw? = some raw ∧
        (literalize v).outcome t = (.ok (.constant (.ofScalar raw) p), u) ∧
        t.graph.LiteralFor v u.graph ∧ p.LiteralFor v t.graph u.graph)) ∧
    (past.filterMap Performed.literalized?).Nodup ∧
    ∀ id ∈ past.filterMap Performed.literalized?, id ∉ start.graph.deoptimized := by
  have hliteralizes := Trace.chronicle_literalizes.runs
    (fun _ _ h => Trace.Literalizes.of_deoptimized_eq h) hrun
  refine ⟨fun v => ⟨fun hstop => ?_, fun hfree => ?_⟩, hliteralizes.nodup, hliteralizes.fresh⟩
  · rcases literalize_cases v t with ⟨-, hout⟩ | ⟨raw, w, hrole, hraw, hfresh, -, -⟩
    · exact hout
    · rcases hstop with hstop | hstop | hstop
      · rw [hrole] at hstop
        cases hstop
      · rw [hraw] at hstop
        cases hstop
      · exact absurd hstop hfresh
  · rcases literalize_cases v t with ⟨hstop, -⟩ | ⟨raw, w, -, hraw, -, -, hout⟩
    · exact absurd hstop hfree
    · exact ⟨raw, _, _, hraw, hout, Graph.literalFor_literalize v t.graph,
        literalFor_literalOf v t.graph raw⟩

/-- A scalar input is made a literal once. The second time nothing happens. -/
theorem literalize_complete_once_scale :
    ∃ past t,
      Trace.Runs (fun t u => u.graph.deoptimized = t.graph.deoptimized) .blank past t ∧
      past.filterMap Performed.literalized? = [⟨0⟩] ∧
      (past.filterMap Performed.literalized?).Nodup ∧
      ∃ b, (literalize .scale).outcome t = (.error (.error (.internal b)), t) := by
  have hrun : Trace.Runs (fun t u => u.graph.deoptimized = t.graph.deoptimized) .blank _ _ :=
    .perform (.perform (.perform .start .addScale) .createScale) (.literalize .scale)
  obtain ⟨hall, hnodup, -⟩ := literalize_complete_once hrun
  refine ⟨_, _, hrun, rfl, hnodup, (hall .scale).1 (.inr (.inr ?_))⟩
  exact List.mem_singleton_self _

end TensorCapture
