import TensorCapture.Proofs.Capture.History
import TensorCapture.Proofs.Graph.WellFormed
import TensorCapture.Proofs.Literal.Outcome

set_option autoImplicit false

/-! # Guards that were downgraded

When a scalar is made a literal, the guards that it carries for the current trace only become
constant matches. Such a guard stays away from the graph as long as no operation merges it again.
Variables that were made before still carry it, and an operation on one of them does merge it, so
a downgraded guard can come back.
-/

namespace TensorCapture

open Capture

/-! ## A guard that is not there -/

/-- The guard is not added: where the graph did not depend on it before, it does not after. -/
def Trace.Avoids (g : Guard) (t u : Trace) : Prop := g ∉ t.graph.guards → g ∉ u.graph.guards

instance (g : Guard) : IsPreorder Trace (Trace.Avoids g) where
  refl _ h := h
  trans _ _ _ h h' hnot := h' (h hnot)

namespace Capture

variable {g : Guard}

theorem avoids_of_guards_eq {t u : Trace} (h : u.graph.guards = t.graph.guards) :
    Trace.Avoids g t u := by
  unfold Trace.Avoids
  rw [h]
  exact id

/-- Merging guards adds a guard only if it is one of them. -/
theorem avoids_addGuards {guards : GuardSet} (h : g ∉ guards) :
    Keeps (Trace.Avoids g) (addGuards guards) :=
  fun _ hnot hmem => (GuardSet.mem_union.mp hmem).elim hnot h

theorem avoids_exampleValue (id : NodeId) (supplied : Option Value) (module? : Option Nat) :
    Keeps (Trace.Avoids g) (exampleValue id supplied module?) := by
  intro t
  obtain ⟨w, hw, -⟩ := exampleValue_works id supplied module? t
  rw [hw]
  exact avoids_of_guards_eq rfl

theorem avoids_setExample (id : NodeId) (value : Value) :
    Keeps (Trace.Avoids g) (setExample id value) := by
  intro t
  unfold setExample
  rw [outcome_bind_ok (outcome_get t)]
  cases hset : t.graph.setExample id value with
  | error e => exact avoids_of_guards_eq rfl
  | ok after =>
      refine avoids_of_guards_eq ?_
      show after.guards = t.graph.guards
      rw [(Graph.setExample_eq_ok hset).1]

theorem avoids_record (target : Target) (args : List Operand) (kwargs : Named Operand) :
    Keeps (Trace.Avoids g) (record target args kwargs) := by
  intro t
  unfold record
  rw [outcome_bind_ok (outcome_get t)]
  cases hrecord : t.graph.record target args kwargs with
  | error e => exact avoids_of_guards_eq rfl
  | ok recorded =>
      obtain ⟨id, after⟩ := recorded
      refine avoids_of_guards_eq ?_
      show after.guards = t.graph.guards
      rw [(Graph.record_eq_ok hrecord).1]
      rfl

/-- Classifying a node adds no guard but those of the provenance. -/
theorem avoids_parts : KeepsParts (Trace.Avoids g) fun p => g ∉ p.guards where
  say _ _ _ _ := avoids_of_guards_eq rfl
  exampleValue := avoids_exampleValue
  setExample := avoids_setExample
  record := avoids_record
  newIdentity _ := avoids_of_guards_eq rfl
  addGuards _ := avoids_addGuards

/-- Making a scalar a literal adds no guard but constant matches. -/
theorem avoids_literalize (hcheck : g.check ≠ .constantMatch) (v : SymbolicTensor) :
    Keeps (Trace.Avoids g) (literalize v) := by
  intro t
  rcases literalize_cases v t with ⟨-, b, hout⟩ | ⟨raw, w, -, -, -, -, hout⟩
  · rw [hout]
    exact avoids_of_guards_eq rfl
  · rw [hout]
    intro hnot hmem
    rw [Graph.guards_literalize] at hmem
    obtain ⟨before, hbefore, heq⟩ := GuardSet.mem_downgrade.mp hmem
    unfold GuardSet.downgradeGuard at heq
    split at heq
    · rw [← heq] at hcheck
      exact hcheck rfl
    · rw [heq] at hbefore
      exact hnot hbefore

end Capture

/-- Histories that merge the guard nowhere do not add it. -/
theorem Trace.chronicle_avoids {g : Guard} (hcheck : g.check ≠ .constantMatch) :
    Chronicle fun past t u =>
      (∀ done ∈ past, g ∉ done.operation.merged.guards) → Trace.Avoids g t u where
  idle _ _ h := h
  append h h' hmerged hnot :=
    h' (fun done hdone => hmerged done (List.mem_append_right _ hdone))
      (h (fun done hdone => hmerged done (List.mem_append_left _ hdone)) hnot)
  noting _ _ _ h := h
  dispatching h _ _ := h
  single inline operation t hover hmerged := by
    have hoperation := hmerged _ (List.mem_singleton_self _)
    refine avoids_parts.nodes.perform hover hoperation ?_ ?_ ?_ inline
    · rintro id supplied module? role p rfl
      exact avoids_parts.create id supplied module? role hoperation
    · exact fun _ _ _ => avoids_of_guards_eq rfl
    · exact fun v _ => avoids_literalize hcheck v

/-! ## The theorem -/

/-- After a scalar was made a literal, the graph does not depend on a guard that the scalar
carried for the current trace only, unless that is a constant match or some operation merged the
guard again. -/
theorem downgraded_guard_absent {t t' u : Trace} {past : List Performed} {v : SymbolicTensor}
    {result : Variable} (hliteral : (literalize v).outcome t = (.ok result, t'))
    (hrun : Trace.Runs (fun t u => u.graph = t.graph) t' past u) {g : Guard}
    (hmem : g ∈ v.provenance.guards) (hvolatile : g.volatile = true)
    (hcheck : g.check ≠ .constantMatch)
    (hmerged : ∀ done ∈ past, g ∉ done.operation.merged.guards) : g ∉ u.graph.guards := by
  have hdowngraded : g ∉ t'.graph.guards := by
    rcases literalize_cases v t with ⟨-, b, hout⟩ | ⟨raw, w, -, -, -, -, hout⟩
    · rw [hout] at hliteral
      cases hliteral
    · rw [hout] at hliteral
      obtain ⟨-, rfl⟩ := Prod.mk.inj hliteral
      rw [Graph.guards_literalize]
      have htarget := GuardSet.mem_volatileMembers.mpr ⟨hmem, hvolatile⟩
      exact GuardSet.not_mem_downgrade htarget hcheck
  have hbetween (t u : Trace) (h : u.graph = t.graph) : Trace.Avoids g t u :=
    avoids_of_guards_eq (by rw [h])
  exact (Trace.chronicle_avoids hcheck).runs (fun t u h _ => hbetween t u h) hrun hmerged
    hdowngraded

/-- The guard that the scalar input carries for the current trace only. -/
def Guard.scale : Guard := ⟨.local "scale", .tensorMatch, true⟩

/-- Operations on other inputs leave the guard of the literal away. -/
theorem downgraded_guard_absent_scale :
    ∃ past u,
      Trace.Runs (fun t u => u.graph = t.graph) ((literalize .scale).outcome .ofScale).2 past u ∧
      past.map Performed.operation =
        [.addInput "x" (.local "x"), .create ⟨1⟩ (some (.tensor (.scalar (.int 4)))) none .plain
          (.ofGuards (.ofList [.lasting (.local "x") .tensorMatch]))] ∧
      Guard.scale ∈ Trace.ofScale.graph.guards ∧ Guard.scale ∉ u.graph.guards := by
  have hrun : Trace.Runs (fun t u => u.graph = t.graph)
      ((literalize .scale).outcome .ofScale).2 _ _ :=
    .perform (.perform .start (.addInput "x" (.local "x")))
      (.create ⟨1⟩ (some (.tensor (.scalar (.int 4)))) none .plain
        (.ofGuards (.ofList [.lasting (.local "x") .tensorMatch])))
  have hliteral : (literalize .scale).outcome .ofScale =
      (.ok (literalOf .scale (.int 3)), ((literalize .scale).outcome .ofScale).2) := rfl
  have habsent := downgraded_guard_absent hliteral hrun (g := Guard.scale) (by decide) rfl
    (by decide) fun done hdone => ?_
  · exact ⟨_, _, hrun, rfl, by decide, habsent⟩
  · rcases List.mem_cons.mp hdone with heq | hdone
    · rw [heq]
      exact GuardSet.not_mem_empty _
    · rw [List.mem_singleton.mp hdone]
      decide

/-- A downgraded guard may come back: the number is made a literal and then negated. -/
theorem exists_downgraded_guard_present :
    ¬∀ (past past' : List Performed) (t t' u : Trace) (v : SymbolicTensor) (result : Variable),
      Trace.Runs (fun t u => u = t) .blank past t → (literalize v).outcome t = (.ok result, t') →
        Trace.Runs (fun t u => u = t) t' past' u →
          ∀ g ∈ v.provenance.guards, g.volatile = true → g.check ≠ .constantMatch →
            g ∉ u.graph.guards := by
  intro h
  have hbefore : Trace.Runs (fun t u => u = t) .blank _ Trace.ofScale :=
    .perform (.perform .start .addScale) .createScale
  have hafter : Trace.Runs (fun t u => u = t) ((literalize .scale).outcome .ofScale).2 _ _ :=
    .perform .start .negateScale
  have habsent := h _ _ _ _ _ .scale (literalOf .scale (.int 3)) hbefore rfl hafter
    Guard.scale (by decide) rfl (by decide)
  exact absurd habsent (by decide)

end TensorCapture
