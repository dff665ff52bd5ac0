import TensorCapture.Proofs.Unpacking.Behind

set_option autoImplicit false

/-! # What a refused classification leaves behind

Classifying a node can fail before anything was written, and then the graph is as before, but for
the guards. But a container becomes the example of its node before its items are classified, and
so does a size whose extents are symbolic. Where it fails later on, the node keeps the example,
and the nodes that were recorded for items stay.
-/

namespace TensorCapture

open Capture Trace

/-- Whether classification goes on to what the value holds, once the value is an example: to the
items of a container, or to the extents of a size that are to be symbolic. -/
def Config.Opens (config : Config) (value : Value) : Prop :=
  Rule.isSequence value = true ∨ Rule.isSize value = true ∧ config.dynamicShapes = true

/-- The graph is as before, or the value that classification opened is the example of the node
and subscripts were recorded behind the nodes that were there. -/
def Trace.Leaves (t : Trace) (id : NodeId) (value : Value) (u : Trace) : Prop :=
  u.graph = t.graph ∨
    t.config.Opens value ∧ t.graph.Lacks id ∧
      ∃ new, u.graph.nodes.toList = t.graph.nodesWith id value ++ new ∧
        ∀ n ∈ new, n.target = .builtin .getItem

/-- The trace after the guards of a provenance were merged. -/
def Trace.merging (t : Trace) (p : Provenance) : Trace :=
  { t with graph := t.graph.addGuards p.guards }

namespace Capture

variable {α β : Type} {P : Trace → Prop} {t : Trace} {id : NodeId} {value : Value}
  {items : Capture (List Variable)}

/-- Wherever the step fails, it leaves a trace that is as said. -/
def FailsWith (P : Trace → Prop) (act : Capture α) (t : Trace) : Prop :=
  ∀ fault u, act.outcome t = (.error fault, u) → P u

theorem failsWith_pure (a : α) : FailsWith P (pure a) t := by
  intro fault u hout
  cases hout

theorem failsWith_breach (b : Breach) (h : P t) : FailsWith P (breach b : Capture α) t := by
  intro fault u hout
  cases hout
  exact h

theorem failsWith_config : FailsWith P config t := by
  intro fault u hout
  cases hout

/-- Either the first step fails, or it answers and the second one fails. -/
theorem failsWith_bind {act : Capture α} {f : α → Capture β} (h : FailsWith P act t)
    (hf : ∀ a u, act.outcome t = (.ok a, u) → FailsWith P (f a) u) :
    FailsWith P (act >>= f) t := by
  intro fault u hout
  rcases hact : act.outcome t with ⟨e | a, v⟩
  · rw [outcome_bind_error hact] at hout
    cases hout
    exact h _ _ hact
  · rw [outcome_bind_ok hact] at hout
    exact hf a v hact fault u hout

theorem failsWith_setExample (e : Value) : FailsWith (fun u => u = t) (setExample id e) t := by
  intro fault u hout
  unfold setExample at hout
  rw [outcome_bind_ok (outcome_get t)] at hout
  cases hset : t.graph.setExample id e with
  | error fault =>
      rw [hset] at hout
      cases hout
      rfl
  | ok g =>
      rw [hset] at hout
      cases hout

/-- A written example was not there before. -/
theorem nodes_of_setExample {e : Value} {u : Trace}
    (h : (setExample id e).outcome t = (.ok (), u)) :
    t.graph.Lacks id ∧ u.graph.nodes.toList = t.graph.nodesWith id e := by
  obtain ⟨g, hset, rfl⟩ := setExample_eq_ok h
  obtain ⟨rfl, hlacks⟩ := Graph.setExample_eq_ok hset
  exact ⟨hlacks, by simp [Graph.nodesWith]⟩

/-- The log does not matter to what is left. -/
theorem failsWith_say (level : Log.Level) (channel : Log.Channel) (text : String)
    {act : Capture α} (h : ∀ w : Workshop, FailsWith P act { t with workshop := w }) :
    FailsWith P (do say level channel text; act) t :=
  failsWith_bind (fun _ _ hsay => by cases hsay) fun _ _ hsay => by
    cases hsay
    exact h _

/-! ## Classification that fails -/

theorem failsWith_setExample_pure (e : Value) (answer : α) :
    FailsWith (t.Leaves id value) (do setExample id e; return answer) t := by
  refine failsWith_bind (fun fault u hout => ?_) fun _ u _ => failsWith_pure _
  rw [failsWith_setExample e fault u hout]
  exact .inl rfl

theorem failsWith_buildTensor (role : TensorRole) (p : Provenance) (supplied : Option Tensor)
    (x : Tensor) : FailsWith (t.Leaves id value) (buildTensor role p id supplied x) t := by
  refine failsWith_bind failsWith_config fun config u hconfig => ?_
  cases hconfig
  exact failsWith_setExample_pure _ _

/-- Where the value was written first and what it holds is then walked behind the old nodes, the
value is left. -/
theorem failsWith_opened {rest : Capture Variable} (hopens : t.config.Opens value)
    (hrest : ∀ u : Trace, u.Beyond u.graph.nodes.size (rest.outcome u).2) :
    FailsWith (t.Leaves id value) (do setExample id value; rest) t := by
  refine failsWith_bind (fun fault u hout => ?_) fun _ u hset fault v hout => ?_
  · rw [failsWith_setExample value fault u hout]
    exact .inl rfl
  · obtain ⟨hlacks, hnodes⟩ := nodes_of_setExample hset
    have hbeyond := hrest u
    rw [hout] at hbeyond
    obtain ⟨new, hnew, htargets⟩ := hbeyond.nodes_eq
    rw [hnodes] at hnew
    exact .inr ⟨hopens, hlacks, new, hnew, htargets⟩

theorem failsWith_buildAs (role : TensorRole) (p : Provenance) (target : Target)
    (supplied : Option Tensor) {rule : Rule} (hrule : rule.accepts t.config target value = true)
    (hitems : ∀ u : Trace, u.Beyond u.graph.nodes.size (items.outcome u).2) :
    FailsWith (t.Leaves id value) (buildAs role p id target supplied false value items rule) t := by
  unfold buildAs
  split
  · exact failsWith_buildTensor role p supplied _
  · -- the rule applies only where sizes are symbolic
    have hdynamic : t.config.dynamicShapes = true := by
      simpa [Rule.accepts, Rule.isSize] using hrule
    refine failsWith_opened (.inr ⟨rfl, hdynamic⟩) fun u => ?_
    exact beyond_bind (beyond_buildExtents (Nat.le_refl _) 0 _) fun _ v _ _ => keeps_pure _ v
  · exact failsWith_setExample_pure _ _
  · exact failsWith_opened (.inl rfl) fun u => beyond_contents p .tuple (hitems u)
  · exact failsWith_opened (.inl rfl) fun u => beyond_contents p .list (hitems u)
  · exact failsWith_opened (.inl rfl) fun u => beyond_contents p (.record _) (hitems u)
  · exact failsWith_pure _
  · split
    · exact failsWith_setExample_pure _ _
    · exact failsWith_setExample_pure _ _
    · exact failsWith_setExample_pure _ _
    · refine failsWith_bind failsWith_config fun config u hconfig => ?_
      cases hconfig
      refine failsWith_say _ _ _ fun w => ?_
      exact failsWith_buildTensor (t := { t with workshop := w }) _ p _ _
    · exact failsWith_breach _ (.inl rfl)

theorem failsWith_classifyWith (role : TensorRole) (p : Provenance) (target : Target)
    (supplied : Option Tensor)
    (hitems : ∀ u : Trace, u.Beyond u.graph.nodes.size (items.outcome u).2) :
    FailsWith (t.Leaves id value) (classifyWith role p id target supplied false value items) t := by
  refine failsWith_bind failsWith_config fun config u hconfig => ?_
  cases hconfig
  split
  · exact failsWith_breach _ (.inl rfl)
  · rename_i rule hrule
    have haccepts : rule.accepts t.config target value = true :=
      List.find?_some (p := fun rule : Rule => rule.accepts t.config target value) hrule
    refine failsWith_say _ _ _ fun w => ?_
    exact failsWith_buildAs (t := { t with workshop := w }) role p target supplied haccepts hitems

theorem failsWith_classify (role : TensorRole) (p : Provenance) (target : Target)
    (supplied : Option Tensor) (value : Value) :
    FailsWith (t.Leaves id value) (classify role p id target supplied false value) t := by
  have hitems (vs : List Value) (u : Trace) :
      u.Beyond u.graph.nodes.size ((classifyItems role p id false 0 vs).outcome u).2 :=
    beyond_classifyItems role p false 0 vs (Nat.le_refl _)
  unfold classify
  split
  · exact failsWith_classifyWith role p target _ (hitems _)
  · exact failsWith_classifyWith role p target _ (hitems _)
  · exact failsWith_classifyWith role p target _ (hitems _)
  · exact failsWith_classifyWith role p target _ fun u => keeps_pure _ u

theorem failsWith_node (h : P t) : FailsWith P (node id) t := by
  intro fault u hout
  unfold node at hout
  rw [outcome_bind_ok (outcome_get t)] at hout
  cases hnode : t.graph.node? id with
  | ok n =>
      rw [hnode] at hout
      cases hout
  | error e =>
      rw [hnode] at hout
      cases hout
      exact h

/-- Classifying a node fails after the guards were merged: at once, or because of the value that
was got for the node. -/
theorem failsWith_create (supplied : Option Value) (module? : Option Nat) (role : TensorRole)
    (p : Provenance) :
    FailsWith (fun u => u.graph = (t.merging p).graph ∨ ∃ value,
        ((exampleValue id supplied module?).outcome (t.merging p)).1 = .ok value ∧
          (t.merging p).Leaves id value u)
      (create id supplied module? role p) t := by
  refine failsWith_bind (fun _ _ hguards => by cases hguards) fun _ u hguards => ?_
  obtain rfl : t.merging p = u := congrArg Prod.snd hguards
  refine failsWith_bind (failsWith_node (.inl rfl)) fun n u hnode => ?_
  obtain ⟨-, rfl⟩ := node_eq_ok hnode
  split
  · exact failsWith_bind (failsWith_breach _ (.inl rfl)) fun _ _ hbreach => by cases hbreach
  · refine failsWith_bind failsWith_config fun config u hconfig => ?_
    obtain rfl : t.merging p = u := congrArg Prod.snd hconfig
    split
    · -- getting the value changes the workshop only
      obtain ⟨w, hw, -⟩ := exampleValue_works id supplied module? (t.merging p)
      refine failsWith_bind (fun fault u hvalue => ?_) fun value u hvalue => ?_
      · have hworked : u = { t.merging p with workshop := w } := by
          rw [hvalue] at hw
          exact hw
        exact .inl (by rw [hworked])
      · have hworked : u = { t.merging p with workshop := w } := by
          rw [hvalue] at hw
          exact hw
        subst hworked
        refine failsWith_bind (failsWith_node (.inl rfl)) fun n u hnode => ?_
        obtain ⟨-, rfl⟩ := node_eq_ok hnode
        intro fault u hout
        have hleaves := failsWith_classify role p n.target _ value fault u hout
        exact .inr ⟨value, congrArg Prod.fst hvalue, hleaves⟩
    · exact failsWith_pure _

end Capture

/-! ## The theorem -/

/-- A refused classification merged the guards. Besides, the graph is as it was, or the value that
was got for the node is one that classification opens. The node, which had no example, then has
this value as its example, every other node is as it was, and subscripts come behind them. -/
theorem create_refused {t u : Trace} {id : NodeId} {supplied : Option Value}
    {module? : Option Nat} {role : TensorRole} {p : Provenance} {fault : Fault CaptureError}
    (h : (create id supplied module? role p).outcome t = (.error fault, u)) :
    u.graph = t.graph.addGuards p.guards ∨
      ∃ value,
        ((exampleValue id supplied module?).outcome (t.merging p)).1 = .ok value ∧
        t.config.Opens value ∧ t.graph.Lacks id ∧
        ∃ new, u.graph.nodes.toList = t.graph.nodesWith id value ++ new ∧
          ∀ n ∈ new, n.target = .builtin .getItem := by
  rcases failsWith_create supplied module? role p fault u h with hgraph | ⟨value, hvalue, hleaves⟩
  · exact .inl hgraph
  · rcases hleaves with hgraph | hopened
    · exact .inl hgraph
    · exact .inr ⟨value, hvalue, hopened⟩

/-- A tuple with a text in it is refused as an example, but stays one. -/
theorem create_refused_texts :
    ∃ fault u value, (create ⟨0⟩ (some (.tuple [.text "a"])) none .plain .none).outcome
        (.ofInput "x") = (.error fault, u) ∧
      Config.standard.Opens value ∧
      ∃ new, u.graph.nodes.toList = (Trace.ofInput "x").graph.nodesWith ⟨0⟩ value ++ new ∧
        ∀ n ∈ new, n.target = .builtin .getItem := by
  obtain ⟨fault, u, hout, hsize⟩ : ∃ fault u,
      (create ⟨0⟩ (some (.tuple [.text "a"])) none .plain .none).outcome (.ofInput "x") =
        (.error fault, u) ∧ u.graph.nodes.size = 2 := ⟨_, _, rfl, rfl⟩
  rcases create_refused hout with hgraph | ⟨value, -, hopens, -, hnodes⟩
  · -- the graph is not as before: it has a second node
    rw [hgraph] at hsize
    cases hsize
  · exact ⟨fault, u, value, hout, hopens, hnodes⟩

/-- A refused classification can leave an example, and a node that no operation asked for. -/
theorem exists_refused_half_classified :
    ∃ t u : Trace, ∃ id supplied module? role p fault,
      (create id supplied module? role p).outcome t = (.error fault, u) ∧
      t.graph.exampleOf id = .ok none ∧ u.graph.exampleOf id ≠ .ok none ∧
      t.graph.nodes.size < u.graph.nodes.size := by
  refine ⟨.ofInput "x", _, ⟨0⟩, some (.tuple [.text "a"]), none, .plain, .none, _, rfl, rfl, nofun,
    ?_⟩
  exact Nat.lt_succ_self 1

end TensorCapture
