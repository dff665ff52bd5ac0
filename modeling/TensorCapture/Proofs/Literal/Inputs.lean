import TensorCapture.Proofs.Capture.History
import TensorCapture.Proofs.Graph.WellFormed
import TensorCapture.Proofs.Literal.Outcome

set_option autoImplicit false

/-! # Which inputs stay listed

An input of the graph stays listed until a scalar from the same source is made a literal. Nothing
else takes it off the list, and nothing puts it back. Whether some node reads the input does not
matter, so a graph may read inputs that it does not list.
-/

namespace TensorCapture

open Capture

/-! ## Inputs in the course of a history -/

/-- The source whose inputs an operation erased. -/
def Performed.erasedSource? (done : Performed) : Option Source :=
  match done.operation, done.outcome with
  | .literalize v, .ok _ => v.provenance.source
  | _, _ => none

/-- Whether an operation erased the inputs from a source. -/
def Performed.erases (done : Performed) (source : Source) : Bool :=
  decide (done.erasedSource? = some source)

theorem Performed.any_erases_eq_false {past : List Performed} {source : Source} :
    (past.any fun done => done.erases source) = false ↔
      ∀ done ∈ past, done.erasedSource? ≠ some source := by
  simp [erases]

/-- The input after a history. -/
def GraphInput.along (past : List Performed) (i : GraphInput) : GraphInput :=
  { i with erased := i.erased || past.any fun done => done.erases i.source }

theorem GraphInput.along_nil (i : GraphInput) : i.along [] = i := by
  simp [along]

theorem GraphInput.along_append (past past' : List Performed) (i : GraphInput) :
    i.along (past ++ past') = (i.along past).along past' := by
  simp [along, Bool.or_assoc]

/-- What a history does to the inputs: those that were there are as the history leaves them, and
new ones have new nodes. -/
structure Trace.InputsAlong (past : List Performed) (t u : Trace) : Prop where
  size_le : t.graph.nodes.size ≤ u.graph.nodes.size
  inputs_eq : ∃ new, u.graph.inputs = t.graph.inputs.map (GraphInput.along past) ++ new ∧
    ∀ i ∈ new, t.graph.nodes.size ≤ i.node.index

namespace Trace

variable {t u v : Trace} {past past' : List Performed}

theorem InputsAlong.of_eq (hnodes : u.graph.nodes.size = t.graph.nodes.size)
    (hinputs : u.graph.inputs = t.graph.inputs) : InputsAlong [] t u where
  size_le := Nat.le_of_eq hnodes.symm
  inputs_eq := by
    refine ⟨[], ?_, fun _ h => absurd h List.not_mem_nil⟩
    rw [hinputs, List.append_nil, List.map_congr_left fun i _ => i.along_nil, List.map_id']

theorem InputsAlong.append (h : InputsAlong past t u) (h' : InputsAlong past' u v) :
    InputsAlong (past ++ past') t v where
  size_le := Nat.le_trans h.size_le h'.size_le
  inputs_eq := by
    obtain ⟨new, hinputs, hnew⟩ := h.inputs_eq
    obtain ⟨new', hinputs', hnew'⟩ := h'.inputs_eq
    refine ⟨new.map (GraphInput.along past') ++ new', ?_, fun i hi => ?_⟩
    · rw [hinputs', hinputs, List.map_append, List.append_assoc, List.map_map]
      congr 1
      exact List.map_congr_left fun i _ => (i.along_append past past').symm
    · rcases List.mem_append.mp hi with hfirst | hsecond
      · obtain ⟨before, hbefore, rfl⟩ := List.mem_map.mp hfirst
        exact hnew before hbefore
      · exact Nat.le_trans h.size_le (hnew' i hsecond)

/-! ## One operation -/

/-- By a step that makes nothing a literal, inputs only come in addition. -/
theorem inputsAlong_step {g g' : Graph} (h : g.Step g') :
    g.nodes.size ≤ g'.nodes.size ∧
      ∃ new, g'.inputs = g.inputs ++ new ∧ ∀ i ∈ new, g.nodes.size ≤ i.node.index := by
  have same {g' : Graph} (hinputs : g'.inputs = g.inputs) :
      ∃ new, g'.inputs = g.inputs ++ new ∧ ∀ i ∈ new, g.nodes.size ≤ i.node.index :=
    ⟨[], hinputs.trans (List.append_nil _).symm, fun _ h => absurd h List.not_mem_nil⟩
  cases h with
  | addGuards guards => exact ⟨Nat.le_refl _, same rfl⟩
  | record h =>
      rw [(Graph.record_eq_ok h).1]
      exact ⟨(g.size_nodes_append _ _ _).symm ▸ Nat.le_succ _, same rfl⟩
  | addInput name source =>
      refine ⟨(g.size_nodes_append _ _ _).symm ▸ Nat.le_succ _, [⟨source, g.nextNode, false⟩],
        rfl, ?_⟩
      intro i hi
      rw [List.mem_singleton.mp hi]
      exact Nat.le_refl _
  | setExample h =>
      refine ⟨Nat.le_of_eq (Graph.size_nodes_setExample h).symm, same ?_⟩
      rw [(Graph.setExample_eq_ok h).1]
  | newIdentity => exact ⟨Nat.le_refl _, same rfl⟩

theorem Reaches.inputsAlong (h : Reaches (fun _ => False) t u) : InputsAlong [] t u := by
  induction h with
  | refl => exact .of_eq rfl rfl
  | @tail v w _ hstep ih =>
      have hlast : InputsAlong [] v w := by
        cases hstep with
        | work w h => exact .of_eq rfl rfl
        | graph h =>
            obtain ⟨hsize, new, hinputs, hnew⟩ := inputsAlong_step h
            refine ⟨hsize, new, ?_, hnew⟩
            rw [List.map_congr_left fun i _ => i.along_nil, List.map_id']
            exact hinputs
        | literalize h id p hnew => exact absurd h not_false
      exact ih.append hlast

/-- A history in which nothing was erased leaves the inputs as the empty one does. -/
theorem InputsAlong.of_nil (h : InputsAlong [] t u)
    (hnone : ∀ done ∈ past, done.erasedSource? = none) : InputsAlong past t u where
  size_le := h.size_le
  inputs_eq := by
    obtain ⟨new, hinputs, hnew⟩ := h.inputs_eq
    refine ⟨new, ?_, hnew⟩
    rw [hinputs]
    congr 1
    refine List.map_congr_left fun i _ => ?_
    have hany : (past.any fun done => done.erases i.source) = false := by
      refine Performed.any_erases_eq_false.mpr fun done hdone => ?_
      rw [hnone done hdone]
      exact (Option.some_ne_none _).symm
    simp [GraphInput.along, hany]

theorem inputsAlong_single (inline : FunctionCall → Capture Variable) (operation : Operation)
    (t : Trace) (hover : operation.handedOver? t.dispatching = none) :
    InputsAlong [⟨operation, t, ((operation.perform inline).outcome t).1,
      ((operation.perform inline).outcome t).2⟩] t ((operation.perform inline).outcome t).2 := by
  cases hop : operation.isLiteralize with
  | false =>
      refine (operation.reaches_of_not_handedOver hover hop inline).inputsAlong.of_nil ?_
      intro done hdone
      rw [List.mem_singleton.mp hdone]
      cases operation <;> first | rfl | cases hop
  | true =>
      cases operation with
      | literalize v =>
          rcases perform_literalize_cases inline v t with ⟨b, hout⟩ | ⟨raw, w, -, hout⟩
          · rw [hout]
            refine InputsAlong.of_nil (.of_eq rfl rfl) fun done hdone => ?_
            rw [List.mem_singleton.mp hdone]
            rfl
          · rw [hout]
            have hnodes := congrArg Array.size (t.graph.nodes_literalize v.node v.provenance)
            refine ⟨Nat.le_of_eq hnodes.symm, [], ?_, fun _ h => absurd h List.not_mem_nil⟩
            rw [List.append_nil]
            refine (t.graph.inputs_literalize v.node v.provenance).trans ?_
            refine List.map_congr_left fun i _ => ?_
            rw [GraphInput.along, List.any_cons, List.any_nil, Bool.or_false]
            rfl
      | _ => cases hop

/-- Histories and the inputs of the graph. -/
theorem chronicle_inputsAlong : Chronicle InputsAlong where
  idle _ := .of_eq rfl rfl
  append h h' := h.append h'
  noting _ _ := .of_eq rfl rfl
  dispatching h _ _ := ⟨h.size_le, h.inputs_eq⟩
  single := inputsAlong_single

end Trace

/-! ## The theorem -/

/-- After an input was added to a well-formed graph, it is listed as long as no scalar from its
source was made a literal, and not any more from then on. -/
theorem input_listed_iff {t u : Trace} {past : List Performed} (name : String) (source : Source)
    (ht : t.graph.WellFormed)
    (hrun : Trace.Runs (fun t u => u.graph = t.graph)
      ((perform (.addInput name source)).outcome t).2 past u) :
    ⟨source, t.graph.nextNode, false⟩ ∈ u.graph.liveInputs ↔
      ∀ done ∈ past, done.erasedSource? ≠ some source := by
  have halong := Trace.chronicle_inputsAlong.runs
    (fun t u h => Trace.InputsAlong.of_eq (by rw [h]) (by rw [h])) hrun
  obtain ⟨new, hinputs, hnew⟩ := halong.inputs_eq
  have hadded : ((perform (.addInput name source)).outcome t).2.graph.inputs =
      t.graph.inputs ++ [⟨source, t.graph.nextNode, false⟩] := rfl
  have hsize : ((perform (.addInput name source)).outcome t).2.graph.nodes.size =
      t.graph.nodes.size + 1 := t.graph.size_nodes_append _ _ _
  rw [hadded] at hinputs
  unfold Graph.liveInputs
  rw [List.mem_filter, hinputs]
  constructor
  · rintro ⟨hmem, -⟩
    rw [List.map_append, List.map_singleton, List.mem_append, List.mem_append,
      List.mem_singleton] at hmem
    rcases hmem with (hold | hthis) | hlater
    · -- the nodes of the inputs that were there are older
      obtain ⟨i, hi, heq⟩ := List.mem_map.mp hold
      obtain ⟨n, _, hn, -⟩ := ht.input i hi
      have hlt : i.node.index < t.graph.nodes.size := (Array.getElem?_eq_some_iff.mp hn).1
      have hnode : i.node = t.graph.nextNode := congrArg GraphInput.node heq
      rw [hnode] at hlt
      exact absurd hlt (Nat.lt_irrefl _)
    · have herased : false = (false || past.any fun done => done.erases source) :=
        congrArg GraphInput.erased hthis
      rw [Bool.false_or] at herased
      exact Performed.any_erases_eq_false.mp herased.symm
    · -- and those of the inputs that came later are younger
      have hle := hnew _ hlater
      rw [hsize] at hle
      exact absurd hle (Nat.not_succ_le_self _)
  · intro hkept
    refine ⟨?_, rfl⟩
    rw [List.map_append, List.map_singleton, List.mem_append, List.mem_append, List.mem_singleton]
    refine .inl (.inr ?_)
    simp [GraphInput.along, Performed.any_erases_eq_false.mpr hkept]

/-- An input that no operation erased is listed. -/
theorem input_listed_iff_scale :
    ∃ past u, Trace.blank.graph.WellFormed ∧
      Trace.Runs (fun t u => u.graph = t.graph)
        ((perform (.addInput "scale" (.local "scale"))).outcome .blank).2 past u ∧
      past.map Performed.operation = [.createScale, .negateScale] ∧
      ⟨.local "scale", ⟨0⟩, false⟩ ∈ u.graph.liveInputs := by
  have hrun : Trace.Runs (fun t u => u.graph = t.graph)
      ((perform (.addInput "scale" (.local "scale"))).outcome .blank).2 _ _ :=
    .perform (.perform .start .createScale) .negateScale
  have hiff := input_listed_iff "scale" (.local "scale") Graph.wellFormed_empty hrun
  refine ⟨_, _, Graph.wellFormed_empty, hrun, rfl, hiff.mpr fun done hdone => ?_⟩
  rcases List.mem_cons.mp hdone with heq | hdone
  · rw [heq]
    exact (Option.some_ne_none _).symm
  · rw [List.mem_singleton.mp hdone]
    exact (Option.some_ne_none _).symm

/-- An input may be read and yet not be listed: the number is negated and then made a literal. -/
theorem exists_read_input_not_listed :
    ¬∀ (past : List Performed) (u : Trace), Trace.Runs (fun t u => u = t) .blank past u →
      ∀ i ∈ u.graph.inputs, (∃ n ∈ u.graph.nodes, n.Reads i.node) →
        ∃ a ∈ u.graph.liveInputs, a.node = i.node := by
  intro h
  have hrun : Trace.Runs (fun t u => u = t) .blank _ _ :=
    .perform (.perform (.perform (.perform .start .addScale) .createScale) .negateScale)
      (.literalize .scale)
  obtain ⟨a, ha, -⟩ := h _ _ hrun ⟨.local "scale", ⟨0⟩, true⟩ (List.mem_singleton_self _)
    ⟨_, Array.mem_of_getElem? (i := 1) rfl, .node ⟨0⟩, List.mem_singleton_self _, .node⟩
  exact absurd ha List.not_mem_nil

end TensorCapture
