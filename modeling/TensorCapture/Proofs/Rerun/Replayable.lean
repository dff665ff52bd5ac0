import TensorCapture.Proofs.Capture.History
import TensorCapture.Proofs.Literal.Outcome
import TensorCapture.Proofs.Rerun.Follows

set_option autoImplicit false

/-! # Examples are replayable

In the course of a run, running a node again gives its example back, unless the caller gave the
node the example: supplied it, or had it computed by a module of the caller's choice. Random
nodes are no exception, since the generator stays as it was, and neither are modules that got
their parameters since.

Classification can leave a subscript that it recorded without an example, where it does not know
what to make of the item. The caller can then supply any example for it.
-/

namespace TensorCapture

open Capture

/-! ## Examples from the caller -/

/-- The operation is to classify the node by an example that the caller supplies, or that a
module of the caller's choice computes. -/
def Operation.Supplies (operation : Operation) (id : NodeId) : Prop :=
  ∃ supplied module? role p,
    operation = .create id supplied module? role p ∧ ¬(supplied = none ∧ module? = none)

/-- The operation gave the node an example of the caller. -/
structure Performed.Supplies (done : Performed) (id : NodeId) : Prop where
  operation : done.operation.Supplies id
  before : ∀ e, done.before.graph.exampleOf id ≠ .ok (some e)
  after : ∃ e, done.after.graph.exampleOf id = .ok (some e)

/-- What may happen between the operations of a run: the library and the examples stay as they
are, and so does every module under its path. -/
structure Trace.Undisturbed (t u : Trace) : Prop where
  continues : t.Continues u
  nodes_eq : u.graph.nodes = t.graph.nodes

/-- Every example after the history was there before it, was supplied in the course of it, or is
accounted for. -/
def Trace.Retraces (past : List Performed) (t u : Trace) : Prop :=
  ∀ given : NodeId → Prop,
    (∀ done ∈ past, ∀ id, done.Supplies id → given id) → t.Follows given u

/-! ## Single operations -/

namespace Capture

open Trace

variable {given : NodeId → Prop}

theorem follows_literalize (v : SymbolicTensor) : Keeps (Follows given) (literalize v) := by
  refine keeps_ite _ (keeps_breach _) ?_
  split
  · exact keeps_breach _
  · refine keeps_bind keeps_get fun t => keeps_ite _ (keeps_breach _) ?_
    refine keeps_bind (fun t => ?_) fun _ => keeps_bind (follows_say _ _ _) fun _ => keeps_pure _
    have hmodules : (t.graph.literalize v.node v.provenance).modules = t.graph.modules := by
      unfold Graph.literalize
      cases v.provenance.source <;> rfl
    exact .of_nodes_eq (t.graph.nodes_literalize v.node v.provenance) hmodules

end Capture

namespace Trace

/-- An operation that classifies a node may give an example to this node only. -/
theorem retraces_single (inline : FunctionCall → Capture Variable) (operation : Operation)
    (t : Trace) (hover : operation.handedOver? t.dispatching = none) :
    Retraces [⟨operation, t, ((operation.perform inline).outcome t).1,
      ((operation.perform inline).outcome t).2⟩] t ((operation.perform inline).outcome t).2 := by
  intro given hgiven
  have hfollows : t.Follows (fun id => given id ∨ operation.Supplies id)
      ((operation.perform inline).outcome t).2 := by
    refine follows_nodes.perform hover trivial ?_ follows_addInput (fun v _ => follows_literalize v)
      inline
    intro id supplied module? role p hop
    refine follows_create ?_ role p
    by_cases hnone : supplied = none ∧ module? = none
    · exact .inr hnone
    · exact .inl (.inr ⟨supplied, module?, role, p, hop, hnone⟩)
  refine ⟨hfollows.continues, fun hlayered id e he => ?_⟩
  rcases hfollows.example_cases hlayered id e he with hbefore | (hid | hcreate) | haccounted
  · exact .inl hbefore
  · exact .inr (.inl hid)
  · by_cases hbefore : ∃ e', t.graph.exampleOf id = .ok (some e')
    · obtain ⟨e', he'⟩ := hbefore
      have hkept := hfollows.continues.keepsExamples id e' he'
      rw [he] at hkept
      obtain rfl : e = e' := Option.some.inj (Except.ok.inj hkept)
      exact .inl he'
    · refine .inr (.inl (hgiven _ (List.mem_singleton_self _) id ⟨hcreate, ?_, e, he⟩))
      exact fun e' he' => hbefore ⟨e', he'⟩
  · exact .inr (.inr haccounted)

/-- Histories and where the examples after them come from. -/
theorem chronicle_retraces : Chronicle Retraces where
  idle t _ _ := Std.Refl.refl t
  append h h' given hgiven :=
    IsTrans.trans _ _ _ (h given fun done hdone => hgiven done (List.mem_append_left _ hdone))
      (h' given fun done hdone => hgiven done (List.mem_append_right _ hdone))
  noting t call _ _ := .of_workshop rfl (.of_modules_eq rfl)
  dispatching {past t u} h before after given hgiven := by
    have hfirst : Follows given { t with dispatching := before } t :=
      .of_continues (.of_eq rfl rfl rfl) fun _ _ he => he
    have hlast : Follows given u { u with dispatching := after } :=
      .of_continues (.of_eq rfl rfl rfl) fun _ _ he => he
    exact IsTrans.trans _ _ _ (IsTrans.trans _ _ _ hfirst (h given hgiven)) hlast
  single := retraces_single

theorem Undisturbed.retraces {t u : Trace} (h : t.Undisturbed u) : Retraces [] t u := by
  intro given _
  refine .of_continues h.continues fun id e he => ?_
  exact (Graph.exampleOf_congr h.nodes_eq id).symm.trans he

end Trace

/-! ## The theorem -/

/-- At any time of a run, running a node gives its example back, and of a captured number the
number of which the example is the tensor, unless the caller gave the node its example. -/
theorem example_replayed {name : String} {config : Config} {library : Library}
    {past : List Performed} {t : Trace}
    (hrun : Trace.Runs Trace.Undisturbed (.start name config library) past t)
    (hindexable : ∀ id v, t.graph.exampleOf id = .ok (some v) → v.Indexable)
    (id : NodeId) {n : Node} {e : Value} (hnode : t.graph.node? id = .ok n)
    (hexample : n.example? = some e) (hsupplied : ∀ done ∈ past, ¬done.Supplies id) :
    ∃ v, ((exampleValue id none none).outcome t).1 = .ok v ∧
      e = t.config.exampleFor n.target v := by
  have hlayered : (Trace.start name config library).Layered := by
    intro i m hm
    cases hm
  have hretraces := Trace.chronicle_retraces.runs (fun _ _ h => h.retraces) hrun
  have hfollows := hretraces (fun id => ∃ done ∈ past, done.Supplies id)
    fun done hdone id hid => ⟨done, hdone, hid⟩
  have he : t.graph.exampleOf id = .ok (some e) :=
    Graph.exampleOf_eq_some_iff.mpr ⟨n, Graph.node?_eq_ok hnode, hexample⟩
  rcases hfollows.example_cases hlayered id e he with hstart | hsome | haccounted
  · cases hstart
  · obtain ⟨done, hdone, hid⟩ := hsome
    exact absurd hid (hsupplied done hdone)
  · obtain ⟨n', v, hnode', hreplays, rfl⟩ := haccounted.replays hindexable
    obtain rfl : n = n' := Except.ok.inj (hnode.symm.trans hnode')
    exact ⟨v, hreplays.answer, rfl⟩

/-! ## An item that is captured -/

/-- The standard settings, but with scalars captured. -/
def Config.capturing : Config := { Config.standard with captureScalarOutputs := true }

/-- The operation that reads the number out of its tensor. -/
def Operation.itemOfScale : Operation := .callMethod (.tensor .scale) "item" [] []

theorem Graph.mem_examples {g : Graph} {id : NodeId} {v : Value}
    (h : g.exampleOf id = .ok (some v)) : some v ∈ g.nodes.toList.map Node.example? := by
  obtain ⟨n, hn, hexample⟩ := exampleOf_eq_some_iff.mp h
  rw [← hexample]
  exact List.mem_map_of_mem (Array.mem_toList_iff.mpr (Array.mem_of_getElem? hn))

/-- The item of a placeholder counts as zero, and its example is the tensor that holds zero. -/
theorem example_replayed_item :
    ∃ past t n v,
      Trace.Runs Trace.Undisturbed (.start Trace.anonymous .capturing (.ofSeed 0)) past t ∧
      t.graph.node? ⟨1⟩ = .ok n ∧
      n.example? = some (.tensor (Tensor.scalar (.int 0)).erase) ∧
      ((exampleValue ⟨1⟩ none none).outcome t).1 = .ok v ∧
      .tensor (Tensor.scalar (.int 0)).erase = t.config.exampleFor n.target v := by
  obtain ⟨past, t, hrun, hoperations, hexamples, n, hnode, hexample⟩ : ∃ past t,
      Trace.Runs Trace.Undisturbed (.start Trace.anonymous .capturing (.ofSeed 0)) past t ∧
      past.map Performed.operation = [.addScale, .createScale, .itemOfScale] ∧
      t.graph.nodes.toList.map Node.example? = [some (.tensor (Tensor.scalar (.int 3)).erase),
        some (.tensor (Tensor.scalar (.int 0)).erase)] ∧
      ∃ n, t.graph.node? ⟨1⟩ = .ok n ∧
        n.example? = some (.tensor (Tensor.scalar (.int 0)).erase) :=
    ⟨_, _, .perform (.perform (.perform .start .addScale) .createScale) .itemOfScale, rfl, rfl, _,
      rfl, rfl⟩
  have hindexable (id : NodeId) (v : Value) (hv : t.graph.exampleOf id = .ok (some v)) :
      v.Indexable := by
    have hmem := Graph.mem_examples hv
    rw [hexamples, List.mem_cons, List.mem_singleton] at hmem
    rcases hmem with hv | hv
    all_goals
      cases hv
      trivial
  have hsupplied : ∀ done ∈ past, ¬done.Supplies ⟨1⟩ := by
    intro done hdone hsupplies
    have hmem := List.mem_map_of_mem (f := Performed.operation) hdone
    obtain ⟨_, _, _, _, hop, _⟩ := hsupplies.operation
    rw [hoperations, hop] at hmem
    simp [Operation.addScale, Operation.createScale, Operation.itemOfScale] at hmem
  obtain ⟨v, hv, he⟩ := example_replayed hrun hindexable ⟨1⟩ hnode hexample hsupplied
  exact ⟨past, t, n, v, hrun, hnode, hexample, hv, he⟩

/-! ## A subscript that the caller gives an example -/

/-- The operation classified a node, and recorded this one while it took the example apart. -/
structure Performed.Unpacks (done : Performed) (id : NodeId) : Prop where
  operation : ∃ parent supplied module? role p,
    done.operation = .create parent supplied module? role p
  before : done.before.graph.nodes.size ≤ id.index
  after : id.index < done.after.graph.nodes.size

/-- The operation that supplies a tuple with a text in it as the example of an input. No variable
stands for a text, so the subscript that is recorded for it stays without an example. -/
def Operation.createTexts : Operation := .create ⟨0⟩ (some (.tuple [.text "a"])) none .plain .none

/-- The operation that supplies a tensor as the example of that subscript. -/
def Operation.createItem : Operation :=
  .create ⟨1⟩ (some (.tensor (.ofElements [2] #[1.0, 2.0] .f32))) none .plain .none

/-- That a node was recorded by classification does not make its example replayable: the caller
can supply one where classification wrote none. -/
theorem not_unpacked_replayed :
    ¬∀ (name : String) (config : Config) (library : Library) (past : List Performed) (t : Trace),
      Trace.Runs Trace.Undisturbed (.start name config library) past t →
      (∀ id v, t.graph.exampleOf id = .ok (some v) → v.Indexable) →
      ∀ (id : NodeId) (n : Node) (e : Value),
        t.graph.node? id = .ok n → n.example? = some e →
        (∀ done ∈ past, ¬done.Supplies id) ∨
          (∃ parent index, n.Subscripts parent index) ∧ (∃ done ∈ past, done.Unpacks id) →
        ∃ v, ((exampleValue id none none).outcome t).1 = .ok v ∧
          e = t.config.exampleFor n.target v := by
  obtain ⟨past, t, hrun, hunpacks, hexamples, n, hnode, hn, hexample, hrerun⟩ : ∃ past t,
      Trace.Runs Trace.Undisturbed (.start Trace.anonymous .standard (.ofSeed 0)) past t ∧
      (∃ done ∈ past, done.Unpacks ⟨1⟩) ∧
      t.graph.nodes.toList.map Node.example? = [some (.tuple [.text "a"]),
        some (.tensor (Tensor.ofElements [2] #[1.0, 2.0] .f32).erase)] ∧
      ∃ n, t.graph.node? ⟨1⟩ = .ok n ∧ n.Subscripts ⟨0⟩ 0 ∧
        n.example? = some (.tensor (Tensor.ofElements [2] #[1.0, 2.0] .f32).erase) ∧
        ((exampleValue ⟨1⟩ none none).outcome t).1 = .ok (.text "a") := by
    refine ⟨_, _, .perform (.perform (.perform .start .addScale) .createTexts) .createItem,
      ⟨_, List.mem_append_left _ (List.mem_append_right _ (List.mem_singleton_self _)), ?_⟩,
      rfl, _, rfl, ⟨rfl, rfl, rfl⟩, rfl, rfl⟩
    exact ⟨⟨_, _, _, _, _, rfl⟩, Nat.le_refl 1, Nat.lt_succ_self 1⟩
  have hindexable (id : NodeId) (v : Value) (hv : t.graph.exampleOf id = .ok (some v)) :
      v.Indexable := by
    have hmem := Graph.mem_examples hv
    rw [hexamples, List.mem_cons, List.mem_singleton] at hmem
    rcases hmem with hv | hv
    · cases hv
      show 1 < Word.signedBound
      decide
    · cases hv
      trivial
  intro hall
  obtain ⟨v, hv, he⟩ :=
    hall _ _ _ past t hrun hindexable ⟨1⟩ n _ hnode hexample (.inr ⟨⟨_, _, hn⟩, hunpacks⟩)
  obtain rfl : .text "a" = v := Except.ok.inj (hrerun.symm.trans hv)
  rw [Config.exampleFor_of_not_yieldsScalar (by rw [hn.target_eq]; rfl)] at he
  cases he

end TensorCapture
