import TensorCapture.Proofs.Extents.Told

set_option autoImplicit false

/-! # Nodes whose example is a size

Classifying a node goes on with the example value that the node gets, and this value is now a size.
What stands for it tells its extents. Only where extents are to be symbolic may there be nothing
that stands for it, and then the error names an extent that is no signed word.
-/

namespace TensorCapture

open Capture Trace

namespace Capture

variable {α : Type} {c : Prop} {t : Trace} {id : NodeId} {role : TensorRole} {p : Provenance}

/-! ## Going on with the example value -/

section Create

variable {n : Node} {supplied : Option Value} {module? : Option Nat} {value : Value}
  (hdynamic : t.config.dynamicPropagation = true) (hnode : t.graph.nodes[id.index]? = some n)

include hnode

/-- Merged guards do not matter to the nodes. -/
theorem node?_merging (p : Provenance) : (t.merging p).graph.node? id = .ok n := by
  simp [Graph.node?, Trace.merging, Graph.addGuards, hnode]

include hdynamic

/-- Classifying a node begins with merging the guards and getting the example value. -/
theorem outcome_create (hexample : n.example? = none) :
    (create id supplied module? role p).outcome t = (do
      let value ← exampleValue id supplied module?
      classify role p id (← node id).target (supplied.bind Value.toTensor?) false value :
        Capture Variable).outcome (t.merging p) := by
  have hpropagates : (t.merging p).config.dynamicPropagation = true := hdynamic
  unfold create
  rw [outcome_bind_ok (show (addGuards p.guards).outcome t = (.ok (), t.merging p) from rfl),
    outcome_bind_ok (outcome_node (node?_merging hnode p)), hexample]
  simp only [Option.isSome_none, Bool.false_eq_true, if_false]
  rw [outcome_bind_ok (outcome_config _), if_pos hpropagates]

/-- A node is classified by the example value that it gets. -/
theorem outcome_create_of_example (hexample : n.example? = none)
    (hgot : ((exampleValue id supplied module?).outcome (t.merging p)).1 = .ok value) :
    ∃ u, t.Adds [] u ∧ (create id supplied module? role p).outcome t =
      (classify role p id n.target (supplied.bind Value.toTensor?) false value).outcome u := by
  -- getting the example changes the workshop only
  obtain ⟨w, hw, -⟩ := exampleValue_works id supplied module? (t.merging p)
  refine ⟨{ t.merging p with workshop := w }, ⟨rfl, by simp [Trace.merging, Graph.addGuards]⟩, ?_⟩
  have hfound : ({ t.merging p with workshop := w } : Trace).graph.node? id = .ok n :=
    node?_merging hnode p
  rw [outcome_create hdynamic hnode hexample, outcome_bind_ok (Prod.ext hgot hw),
    outcome_bind_ok (outcome_node hfound)]

/-- What is said of classifying the example value is said of classifying the node. -/
theorem answersIff_create_of_example (hexample : n.example? = none)
    (hgot : ((exampleValue id supplied module?).outcome (t.merging p)).1 = .ok value)
    (hclassify : ∀ u, t.Adds [] u → AnswersIff c
      (classify role p id n.target (supplied.bind Value.toTensor?) false value) u
      (Stands role p u id value)) :
    AnswersIff c (create id supplied module? role p) t (Stands role p t id value) := by
  obtain ⟨u, hadds, hout⟩ := outcome_create_of_example hdynamic hnode hexample hgot
  have hstands := answersIff_imp (hclassify u hadds) fun _ _ h => h.after role p hadds
  unfold AnswersIff
  rw [hout]
  exact hstands

end Create

/-! ## Sizes with an extent that is no signed word -/

/-- Wherever the step fails, the fault is as said. -/
def FailsAs (Q : Fault CaptureError → Prop) (act : Capture α) (t : Trace) : Prop :=
  ∀ fault, (act.outcome t).1 = .error fault → Q fault

section FailsAs

variable {β : Type} {Q : Fault CaptureError → Prop} {act : Capture α} {f : α → Capture β}

theorem failsAs_pure (a : α) : FailsAs Q (pure a) t := by
  intro fault h
  cases h

/-- After a step that always answers only the rest may fail. -/
theorem failsAs_after {P : α → Trace → Prop} (h : AnswersIff True act t P)
    (hf : ∀ a u, P a u → FailsAs Q (f a) u) : FailsAs Q (act >>= f) t := by
  rcases h with ⟨-, a, u, hout, ha⟩ | ⟨hfalse, -⟩
  · intro fault h
    rw [outcome_bind_ok hout] at h
    exact hf a u ha fault h
  · exact absurd trivial hfalse

/-- Before steps that do not fail otherwise. -/
theorem failsAs_bind (h : FailsAs Q act t) (hf : ∀ a u, FailsAs Q (f a) u) :
    FailsAs Q (act >>= f) t := by
  intro fault hfault
  rcases hout : act.outcome t with ⟨e | a, u⟩
  · rw [outcome_bind_error hout] at hfault
    cases hfault
    exact h _ (congrArg Prod.fst hout)
  · rw [outcome_bind_ok hout] at hfault
    exact hf a u fault hfault

end FailsAs

/-- The fault names an extent that is no signed word. -/
def Overflows (extents : List Nat) (fault : Fault CaptureError) : Prop :=
  ∃ extent ∈ extents, Word.signedBound ≤ extent ∧
    fault = .error (.internal (.extentOverflow extent))

/-- Extents are recorded up to the first one that is no signed word. -/
theorem failsAs_buildExtents (hid : id.index < t.graph.nodes.size) (index : Nat)
    (extents : List Nat) (hextents : index + extents.length ≤ Word.signedBound) :
    FailsAs (Overflows extents) (buildExtents id index extents) t := by
  induction extents generalizing t index with
  | nil => exact failsAs_pure _
  | cons extent rest ih =>
      rw [List.length_cons] at hextents
      have hindex : index < Word.signedBound := by omega
      refine failsAs_after (answersIff_recordItem hid hindex) fun child u hu => ?_
      obtain ⟨rfl, hadds⟩ := hu
      by_cases hextent : extent < Word.signedBound
      · -- this extent is written, so only one of the others can fail
        simp only [hextent, if_true]
        have hset := answersIff_setExample (lacks_of_adds rfl hadds) (.int (Word.signed extent))
        refine failsAs_after hset fun _ v hfills => ?_
        have hsize := (hadds.fills hfills).size_eq
        refine failsAs_bind (fun fault h => ?_) fun vs w => failsAs_pure _
        obtain ⟨found, hfound, hoverflows⟩ :=
          ih (t := v) (by omega) (index + 1) (by omega) fault h
        exact ⟨found, List.mem_cons_of_mem _ hfound, hoverflows⟩
      · simp only [hextent, if_false]
        intro fault h
        cases h
        exact ⟨extent, List.mem_cons_self .., Nat.le_of_not_lt hextent, rfl⟩

/-- Where nothing stands for a size that is to be symbolic, one of its extents is no signed word. -/
theorem failsAs_classify_size (hlacks : t.graph.Lacks id)
    (hsymbolic : t.config.dynamicShapes = true) {extents : List Nat}
    (hlength : extents.length < Word.signedBound) (target : Target) (supplied : Option Tensor) :
    FailsAs (Overflows extents) (classify role p id target supplied false (.size extents)) t := by
  have hrule := Rule.first?_size t.config target extents
  rw [if_pos hsymbolic] at hrule
  refine failsAs_after (answersIff_config t) fun config u hconfig => ?_
  obtain ⟨rfl, rfl⟩ := hconfig
  rw [hrule]
  refine failsAs_after (answersIff_say t _ _ _) fun _ u hadds => ?_
  have hset := answersIff_setExample (lacks_after hadds hlacks) (.size extents)
  -- the size is written first, and the node is still there when its extents are recorded
  refine failsAs_after hset fun _ v hfills => ?_
  have hsize := hfills.size_eq
  obtain ⟨n, hn, -⟩ := lacks_after hadds hlacks
  have hid : id.index < v.graph.nodes.size := by
    rw [hsize]
    exact Nat.lt_add_right _ (Array.getElem?_eq_some_iff.mp hn).1
  refine failsAs_bind (failsAs_buildExtents hid 0 extents (by omega)) fun vs w => ?_
  exact failsAs_pure _

/-! ## Sizes -/

/-- The extents are all told by the answer. Or they are to be symbolic, and the error names one of
them that is no signed word. -/
def TellsExtents (act : Capture Variable) (t : Trace) (extents : List Nat) : Prop :=
  (∃ v u, act.outcome t = (.ok v, u) ∧ v.TellsAll u.graph extents ∧
    (t.config.dynamicShapes = true → ∀ extent ∈ extents, extent < Word.signedBound)) ∨
  t.config.dynamicShapes = true ∧
    ∃ fault, (act.outcome t).1 = .error fault ∧ Overflows extents fault

/-- Classifying a node whose example value is a size tells the extents. -/
theorem tellsExtents_create {n : Node} {supplied : Option Value} {module? : Option Nat}
    {extents : List Nat} (hdynamic : t.config.dynamicPropagation = true)
    (hnode : t.graph.nodes[id.index]? = some n) (hexample : n.example? = none)
    (hlength : extents.length < Word.signedBound)
    (hgot : ((exampleValue id supplied module?).outcome (t.merging p)).1 = .ok (.size extents)) :
    TellsExtents (create id supplied module? role p) t extents := by
  have hcreate : AnswersIff (t.config.Takes (.size extents)) (create id supplied module? role p) t
      (Stands role p t id (.size extents)) := by
    refine answersIff_create_of_example hdynamic hnode hexample hgot fun u hu => ?_
    rw [← hu.config_eq]
    exact answersIff_size role p (lacks_after hu ⟨n, hnode, hexample⟩) hlength
  rcases hcreate with ⟨htakes, v, u, hout, hstands⟩ | ⟨htakes, fault, u, hout⟩
  · exact .inl ⟨v, u, hout, hstands.tellsAll, htakes⟩
  · have hsymbolic : t.config.dynamicShapes = true := by
      by_contra hstatic
      exact htakes fun hsymbolic => absurd hsymbolic hstatic
    obtain ⟨w, hadds, hclassify⟩ : ∃ w, t.Adds [] w ∧
        (create id supplied module? role p).outcome t =
          (classify role p id n.target (supplied.bind Value.toTensor?) false
            (.size extents)).outcome w :=
      outcome_create_of_example hdynamic hnode hexample hgot
    refine .inr ⟨hsymbolic, fault, congrArg Prod.fst hout, ?_⟩
    rw [hclassify] at hout
    rw [← hadds.config_eq] at hsymbolic
    exact failsAs_classify_size (lacks_after hadds ⟨n, hnode, hexample⟩) hsymbolic hlength
      n.target _ fault (congrArg Prod.fst hout)

end Capture

end TensorCapture
