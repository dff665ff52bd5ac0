import TensorCapture.Proofs.Rerun.Calls

set_option autoImplicit false

/-! # Running a node again

What running a node comes to is decided by its operands, by the library, and, where it calls a
module, by the layer under the module's path. Once a node gave a value, all of these stay, so it
gives that value again in every later trace. A lazy layer is no exception: the call that gives the
value also gives the layer the parameters that the value depends on.
-/

namespace TensorCapture

/-! ## Operands -/

theorem Except.exists_of_map_eq_ok {ε α β : Type} {e : Except ε α} {f : α → β} {b : β}
    (h : e.map f = .ok b) : ∃ a, e = .ok a ∧ f a = b := by
  cases e with
  | error e => cases h
  | ok a => exact ⟨a, rfl, Except.ok.inj h⟩

/-- Where two results in sequence give a value, the first one gives one. -/
theorem Except.exists_of_bind_eq_ok {ε α β : Type} {r : Except ε α} {f : α → Except ε β} {b : β}
    (h : (r >>= f) = .ok b) : ∃ a, r = .ok a ∧ f a = .ok b := by
  cases r with
  | error e => cases h
  | ok a => exact ⟨a, rfl, h⟩

namespace Graph

variable {g g' : Graph}

theorem exampleOf_eq_some_iff {id : NodeId} {v : Value} :
    g.exampleOf id = .ok (some v) ↔ ∃ n, g.nodes[id.index]? = some n ∧ n.example? = some v := by
  unfold exampleOf node?
  cases g.nodes[id.index]? with
  | none =>
      constructor
      · intro h
        cases h
      · rintro ⟨n, hn, -⟩
        cases hn
  | some n =>
      constructor
      · intro h
        exact ⟨n, rfl, Except.ok.inj h⟩
      · rintro ⟨n', hn', hv⟩
        rw [← Option.some.inj hn'] at hv
        exact congrArg Except.ok hv

/-- Graphs with the same nodes have the same examples. -/
theorem exampleOf_congr (h : g'.nodes = g.nodes) (id : NodeId) :
    g'.exampleOf id = g.exampleOf id := by
  unfold exampleOf node?
  rw [h]

/-- Every example of the one graph is an example of the other. -/
def KeepsExamples (g g' : Graph) : Prop :=
  ∀ id v, g.exampleOf id = .ok (some v) → g'.exampleOf id = .ok (some v)

theorem keepsExamples_of_nodes_eq (h : g'.nodes = g.nodes) : g.KeepsExamples g' :=
  fun id _ hv => (exampleOf_congr h id).trans hv

/-- A new node has no example. -/
theorem keepsExamples_append (g : Graph) (target : Target) (args : List Operand)
    (kwargs : Named Operand) : (g.append target args kwargs).KeepsExamples g := by
  intro id v hv
  obtain ⟨n, hn, hexample⟩ := exampleOf_eq_some_iff.mp hv
  rw [getElem?_nodes_append] at hn
  split at hn
  · rw [← Option.some.inj hn] at hexample
    cases hexample
  · exact exampleOf_eq_some_iff.mpr ⟨n, hn, hexample⟩

mutual

theorem KeepsExamples.resolve (h : g.KeepsExamples g') {item : Operand} {v : Value}
    (hv : g.resolve item = .ok v) : g'.resolve item = .ok v := by
  cases item with
  | node id =>
      unfold Graph.resolve at hv ⊢
      split at hv
      · cases hv
      · cases hv
      · rename_i found hfound
        rw [h id found hfound]
        exact hv
  | literal value => exact hv
  | tuple items =>
      obtain ⟨values, hvalues, rfl⟩ := Except.exists_of_map_eq_ok hv
      exact congrArg (Except.map Value.tuple) (h.resolveAll hvalues)
  | list items =>
      obtain ⟨values, hvalues, rfl⟩ := Except.exists_of_map_eq_ok hv
      exact congrArg (Except.map Value.list) (h.resolveAll hvalues)

theorem KeepsExamples.resolveAll (h : g.KeepsExamples g') {items : List Operand}
    {values : List Value} (hv : g.resolveAll items = .ok values) :
    g'.resolveAll items = .ok values := by
  cases items with
  | nil => exact hv
  | cons item rest =>
      unfold Graph.resolveAll at hv ⊢
      split at hv
      · cases hv
      · rename_i value hvalue
        obtain ⟨others, hothers, rfl⟩ := Except.exists_of_map_eq_ok hv
        rw [h.resolve hvalue, h.resolveAll hothers]
        rfl

end

theorem KeepsExamples.resolveNamed (h : g.KeepsExamples g') {items : Named Operand}
    {values : Named Value} (hv : g.resolveNamed items = .ok values) :
    g'.resolveNamed items = .ok values := by
  induction items generalizing values with
  | nil => exact hv
  | cons item rest ih =>
      unfold Graph.resolveNamed at hv ⊢
      split at hv
      · cases hv
      · rename_i value hvalue
        obtain ⟨others, hothers, rfl⟩ := Except.exists_of_map_eq_ok hv
        rw [h.resolve hvalue]
        exact congrArg (Except.map ((item.1, value) :: ·)) (ih hothers)

theorem KeepsExamples.resolveOperands (h : g.KeepsExamples g') {n n' : Node}
    (hargs : n'.args = n.args) (hkwargs : n'.kwargs = n.kwargs)
    {operands : List Value × Named Value} (hv : g.resolveOperands n = .ok operands) :
    g'.resolveOperands n' = .ok operands := by
  unfold Graph.resolveOperands at hv ⊢
  rw [hargs, hkwargs]
  cases hpositional : g.resolveAll n.args with
  | error e =>
      rw [hpositional] at hv
      cases hv
  | ok args =>
      cases hnamed : g.resolveNamed n.kwargs with
      | error e =>
          rw [hpositional, hnamed] at hv
          cases hv
      | ok kwargs =>
          rw [hpositional, hnamed] at hv
          rw [h.resolveAll hpositional, h.resolveNamed hnamed]
          exact hv

end Graph

/-! ## Nodes -/

namespace Capture

/-- What becomes of an error depends on the settings alone, and so does what is answered. -/
theorem answer_settle {t u : Trace} (h : u.config = t.config) (target : Target)
    (args : List Value) (placeholders : Bool) (r : Except LibraryError Value) :
    ((settle target args placeholders r).outcome u).1 =
      ((settle target args placeholders r).outcome t).1 := by
  cases r with
  | ok v => rfl
  | error e =>
      show ((interpretError target args placeholders e).outcome u).1 =
        ((interpretError target args placeholders e).outcome t).1
      unfold interpretError
      split
      · rfl
      · rfl
      · rw [outcome_bind_ok (outcome_config u), outcome_bind_ok (outcome_config t), h]
        split
        · split <;> rfl
        · rfl
      · rfl
      · rfl

/-- Settling what a call comes to depends on the settings alone, and changes nothing. -/
theorem outcome_settle {t u : Trace} (h : u.config = t.config) (target : Target)
    (args : List Value) (placeholders : Bool) (r : Except LibraryError Value) :
    (settle target args placeholders r).outcome u =
      (((settle target args placeholders r).outcome t).1, u) := by
  have hkept : u = ((settle target args placeholders r).outcome u).2 :=
    keeps_settle target args placeholders r u (R := Eq)
  exact Prod.ext (answer_settle h target args placeholders r) hkept.symm

theorem outcome_node {t : Trace} {id : NodeId} {n : Node} (h : t.graph.node? id = .ok n) :
    (node id).outcome t = (.ok n, t) := by
  unfold node
  rw [outcome_bind_ok (outcome_get t), h]
  rfl

/-- A node with operands is run by calling its target on them. -/
theorem outcome_runNode {t : Trace} {id : NodeId} {n : Node} {args : List Value}
    {kwargs : Named Value} (hnode : t.graph.node? id = .ok n)
    (hoperands : t.graph.resolveOperands n = .ok (args, kwargs)) (module? : Option Nat) :
    let placeholders := t.config.placeholderPropagation
    (runNode id module?).outcome t =
      (callTarget n.target module? (args.map (prepared placeholders))
          (kwargs.mapValues (prepared placeholders)) placeholders >>=
        settle n.target (args.map (prepared placeholders)) placeholders).outcome t := by
  rw [runNode_eq, outcome_bind_ok (outcome_config t), outcome_bind_ok (outcome_node hnode),
    outcome_bind_ok (outcome_get t), hoperands]
  rfl

/-- A node that is run to a value is there, and so are its operands. Calling the target on them
came to a result of which the value is made, and is all that happened. -/
theorem callTarget_of_runNode {t t' : Trace} {id : NodeId} {v : Value}
    (h : (runNode id none).outcome t = (.ok v, t')) :
    let placeholders := t.config.placeholderPropagation
    ∃ n args kwargs r,
      t.graph.node? id = .ok n ∧ t.graph.resolveOperands n = .ok (args, kwargs) ∧
      (callTarget n.target none (args.map (prepared placeholders))
        (kwargs.mapValues (prepared placeholders)) placeholders).outcome t = (.ok r, t') ∧
      ((settle n.target (args.map (prepared placeholders)) placeholders r).outcome t).1 =
        .ok v := by
  rw [runNode_eq] at h
  obtain ⟨_, _, hconfig, h⟩ := outcome_bind_eq_ok h
  cases hconfig
  obtain ⟨n, _, hn, h⟩ := outcome_bind_eq_ok h
  obtain ⟨hnode, rfl⟩ := node_eq_ok hn
  obtain ⟨_, _, hget, h⟩ := outcome_bind_eq_ok h
  cases hget
  obtain ⟨⟨args, kwargs⟩, _, hresolved, h⟩ := outcome_bind_eq_ok h
  obtain ⟨hoperands, rfl⟩ := ofExcept_eq_ok hresolved
  obtain ⟨r, t₁, hcall, hsettle⟩ := outcome_bind_eq_ok h
  obtain ⟨w, hw, -⟩ := works_callTarget n.target none (args.map (prepared _))
    (kwargs.mapValues (prepared _)) t.config.placeholderPropagation t
  rw [hcall] at hw
  have hconfig : t₁.config = t.config := by rw [show t₁ = _ from hw]
  rw [outcome_settle hconfig] at hsettle
  obtain ⟨hanswer, rfl⟩ := Prod.mk.inj hsettle
  exact ⟨n, args, kwargs, r, hnode, hoperands, hcall, hanswer⟩

/-- Getting an example value is running the node, but for the generator. -/
theorem runNode_of_exampleValue {t t' : Trace} {id : NodeId} {v : Value}
    (h : (exampleValue id none none).outcome t = (.ok v, t')) :
    ∃ u, (runNode id none).outcome t = (.ok v, u) ∧
      t'.workshop.modules = u.workshop.modules := by
  change (keepingGenerator (runNode id none)).outcome t = _ at h
  unfold keepingGenerator at h
  rw [outcome_ofFunction] at h
  rcases hrun : (runNode id none).outcome t with ⟨answer, u⟩
  rw [hrun] at h
  obtain ⟨rfl, rfl⟩ := Prod.mk.inj h
  exact ⟨u, rfl, rfl⟩

/-- Operands that are prepared where placeholders are used have no elements. -/
theorem eraseAll_map_prepared {placeholders : Bool} (h : placeholders = true)
    (args : List Value) :
    Value.eraseAll (args.map (prepared placeholders)) = args.map (prepared placeholders) := by
  rw [h]
  show Value.eraseAll (args.map Value.erase) = args.map Value.erase
  rw [← Value.eraseAll_eq_map, Value.eraseAll_eraseAll]

end Capture

open Capture

/-- Running the node gives the value. -/
def Trace.Replays (t : Trace) (id : NodeId) (v : Value) : Prop :=
  let placeholders := t.config.placeholderPropagation
  ∃ n args kwargs k r,
    t.graph.node? id = .ok n ∧ t.graph.resolveOperands n = .ok (args, kwargs) ∧
    t.kernel? n.target (args.map (prepared placeholders))
      (kwargs.mapValues (prepared placeholders)) placeholders = some k ∧
    reply k = .ok r ∧
    ((settle n.target (args.map (prepared placeholders)) placeholders r).outcome t).1 = .ok v

namespace Trace

variable {t t' u : Trace} {id : NodeId} {v : Value}

/-- A node that replays a value gives it when it is run. -/
theorem Replays.answer (h : t.Replays id v) :
    ((exampleValue id none none).outcome t).1 = .ok v := by
  obtain ⟨n, args, kwargs, k, r, hnode, hoperands, hkernel, hreply, hsettle⟩ := h
  show ((runNode id none).outcome t).1 = .ok v
  rw [outcome_runNode hnode hoperands none]
  rcases hcall : (callTarget n.target none _ _ t.config.placeholderPropagation).outcome t
    with ⟨answer, t₁⟩
  have hanswer := answer_callTarget hkernel
  rw [hcall, hreply] at hanswer
  obtain rfl : answer = .ok r := hanswer
  -- the call changes the workshop, which does not matter for what is made of its result
  obtain ⟨w, hw, -⟩ := works_callTarget n.target none (args.map _) (kwargs.mapValues _)
    t.config.placeholderPropagation t
  rw [hcall] at hw
  rw [outcome_bind_ok hcall, ← hsettle]
  exact answer_settle (by rw [show t₁ = _ from hw]) _ _ _ _

/-- What running a node gave, the node replays in the trace afterwards. -/
theorem replays_of_exampleValue (hlayered : t.Layered)
    (h : (exampleValue id none none).outcome t = (.ok v, t')) : t'.Replays id v := by
  obtain ⟨w, hw, hlibrary⟩ := exampleValue_works id none none t
  rw [h] at hw
  obtain rfl : t' = { t with workshop := w } := hw
  obtain ⟨u, hrun, hmodules⟩ := runNode_of_exampleValue h
  obtain ⟨n, args, kwargs, r, hnode, hoperands, hcall, hsettle⟩ := callTarget_of_runNode hrun
  obtain ⟨k, hkernel, hreply⟩ := kernel_of_callTarget hlayered
    (fun hplaceholders => eraseAll_map_prepared hplaceholders args) hcall
    (u := { t with workshop := w }) hlibrary rfl hmodules
  exact ⟨n, args, kwargs, k, r, hnode, hoperands, hkernel, hreply,
    (answer_settle (t := t) (u := { t with workshop := w }) rfl _ _ _ _).trans hsettle⟩

/-! ## Later traces -/

theorem Continues.keepsExamples (h : t.Continues u) : t.graph.KeepsExamples u.graph := by
  intro id v hv
  obtain ⟨n, hn, hexample⟩ := Graph.exampleOf_eq_some_iff.mp hv
  obtain ⟨n', hn', hgrows⟩ := h.node id.index n hn
  exact Graph.exampleOf_eq_some_iff.mpr ⟨n', hn', hgrows.example_eq v hexample⟩

theorem Continues.layerAt (h : t.Continues u) (path : String) (layer : Linear)
    (hlayer : t.layerAt? path = some layer) : u.layerAt? path = some layer := by
  obtain ⟨handle, m, hhandle, hm, hlayer⟩ := layer_of_layerAt hlayer
  obtain ⟨m', hm', hbecomes⟩ := h.cell handle m hm
  exact layerAt_of_layer (h.module path handle hhandle) hm' (hbecomes.layer_eq hlayer)

theorem Continues.node?_eq_ok (h : t.Continues u) {n : Node} (hn : t.graph.node? id = .ok n) :
    ∃ n', u.graph.node? id = .ok n' ∧ n.Grows n' := by
  obtain ⟨n', hn', hgrows⟩ := h.node id.index n (Graph.node?_eq_ok hn)
  refine ⟨n', ?_, hgrows⟩
  unfold Graph.node?
  rw [hn']

/-- What a node replays it replays for good. -/
theorem Replays.continues (h : t.Replays id v) (hu : t.Continues u) : u.Replays id v := by
  obtain ⟨n, args, kwargs, k, r, hnode, hoperands, hkernel, hreply, hsettle⟩ := h
  obtain ⟨n', hnode', hgrows⟩ := hu.node?_eq_ok hnode
  have hoperands' := hu.keepsExamples.resolveOperands hgrows.args_eq hgrows.kwargs_eq hoperands
  have hkernel' := kernel_mono hu.library_eq hu.layerAt hkernel
  have hsettle' := (answer_settle hu.config_eq _ _ _ _).trans hsettle
  refine ⟨n', args, kwargs, k, r, hnode', hoperands', ?_, hreply, ?_⟩
  · rw [hgrows.target_eq, hu.config_eq]
    exact hkernel'
  · rw [hgrows.target_eq, hu.config_eq]
    exact hsettle'

end Trace

end TensorCapture
