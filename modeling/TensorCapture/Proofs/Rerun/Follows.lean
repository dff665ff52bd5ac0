import TensorCapture.Proofs.Capture.Building
import TensorCapture.Proofs.Rerun.Stored

set_option autoImplicit false

/-! # Where classification has examples from

Classification writes an example where a node was run, and for the items that it takes out of a
container. So a trace goes on in such a way that every example was there before, or is accounted
for, or was given by the caller, who answers for it.

While the items of a container are classified, the container is already the example of its node.
This is what accounts for the items.
-/

namespace TensorCapture

open Capture

variable {given : NodeId → Prop} {t u v : Trace} {id : NodeId} {e : Value}

/-! ## Traces that follow -/

/-- A later trace, in which every example was there before, is of a node that the caller may give
an example, or is accounted for. -/
structure Trace.Follows (given : NodeId → Prop) (t u : Trace) : Prop where
  continues : t.Continues u
  example_cases : t.Layered → ∀ id e, u.graph.exampleOf id = .ok (some e) →
    t.graph.exampleOf id = .ok (some e) ∨ given id ∨ u.Accounted id e

/-- The value may become the example of the node. -/
def Trace.Admits (given : NodeId → Prop) (t : Trace) (id : NodeId) (e : Value) : Prop :=
  t.Layered → given id ∨ t.Accounted id e

namespace Trace

/-- No call makes a layer of another module. -/
theorem Continues.layered_of (h : t.Continues u) (hu : u.Layered) : t.Layered := by
  intro i m hm
  obtain ⟨m', hm', hbecomes⟩ := h.cell i m hm
  rw [← hbecomes.isLayer_eq]
  exact hu i m' hm'

theorem Admits.continues (h : t.Admits given id e) (hu : t.Continues u) : u.Admits given id e :=
  fun hlayered => (h (hu.layered_of hlayered)).imp_right fun haccounted => haccounted.continues hu

instance : IsPreorder Trace (Follows given) where
  refl t := ⟨.refl t, fun _ _ _ he => .inl he⟩
  trans t u v h h' := by
    refine ⟨h.continues.trans h'.continues, fun hlayered id e he => ?_⟩
    rcases h'.example_cases (h.continues.layered hlayered) id e he with hbefore | hnew
    · rcases h.example_cases hlayered id e hbefore with hfirst | hgiven | haccounted
      · exact .inl hfirst
      · exact .inr (.inl hgiven)
      · exact .inr (.inr (haccounted.continues h'.continues))
    · exact .inr hnew

/-- A later trace with the examples that were there before. -/
theorem Follows.of_continues (h : t.Continues u)
    (hexamples : ∀ id e, u.graph.exampleOf id = .ok (some e) →
      t.graph.exampleOf id = .ok (some e)) : t.Follows given u :=
  ⟨h, fun _ id e he => .inl (hexamples id e he)⟩

theorem Follows.of_workshop {w : Workshop} (hlibrary : w.library = t.workshop.library)
    (hcells : t.Warms { t with workshop := w }) : t.Follows given { t with workshop := w } :=
  .of_continues (.of_workshop hlibrary hcells) fun _ _ he => he

/-- The same nodes have the same examples. -/
theorem Follows.of_nodes_eq {g : Graph} (hnodes : g.nodes = t.graph.nodes)
    (hmodules : g.modules = t.graph.modules) : t.Follows given { t with graph := g } := by
  refine .of_continues (.of_graph (fun i n hn => ⟨n, ?_, .refl n⟩) hmodules) fun id e he => ?_
  · rw [hnodes]
    exact hn
  · exact (Graph.exampleOf_congr hnodes id).symm.trans he

/-- A new node has no example. -/
theorem Follows.of_append {g : Graph} {target : Target} {args : List Operand}
    {kwargs : Named Operand} (hnodes : g.nodes = (t.graph.append target args kwargs).nodes)
    (hmodules : g.modules = t.graph.modules) : t.Follows given { t with graph := g } := by
  refine .of_continues (.of_graph (fun i n hn => ⟨n, ?_, .refl n⟩) hmodules) fun id e he => ?_
  · rw [hnodes]
    exact Graph.getElem?_nodes_append_of_some target args kwargs hn
  · exact t.graph.keepsExamples_append target args kwargs id e
      ((Graph.exampleOf_congr hnodes id).symm.trans he)

/-- The value that is written is the only new example. -/
theorem Follows.of_setExample {g : Graph} (hset : t.graph.setExample id e = .ok g)
    (h : t.Admits given id e) : t.Follows given { t with graph := g } := by
  have hmodules : g.modules = t.graph.modules := by
    rw [(Graph.setExample_eq_ok hset).1]
  have hcontinues : t.Continues { t with graph := g } :=
    .of_graph (Graph.growsBehind_setExample hset).node hmodules
  refine ⟨hcontinues, fun hlayered id' e' he' => ?_⟩
  obtain ⟨n, hn, hexample⟩ := Graph.exampleOf_eq_some_iff.mp he'
  change g.nodes[id'.index]? = some n at hn
  rw [Graph.getElem?_nodes_setExample hset] at hn
  split at hn
  · rename_i hindex
    obtain ⟨n', -, rfl⟩ := Option.map_eq_some_iff.mp hn
    obtain rfl : id = id' := congrArg NodeId.mk hindex
    obtain rfl : e = e' := Option.some.inj hexample
    exact .inr ((h hlayered).imp_right fun haccounted => haccounted.continues hcontinues)
  · exact .inl (Graph.exampleOf_eq_some_iff.mpr ⟨n, hn, hexample⟩)

end Trace

/-! ## Single steps -/

namespace Capture

open Trace

variable {α β : Type}

/-- A step may count on the trace that the one before it left. -/
theorem follows_bind {act : Capture α} {f : α → Capture β} (h : t.Follows given (act.outcome t).2)
    (hf : ∀ a u, act.outcome t = (.ok a, u) → t.Continues u →
      u.Follows given ((f a).outcome u).2) : t.Follows given ((act >>= f).outcome t).2 := by
  refine related_bind h fun a u hout => hf a u hout ?_
  have hcontinues := h.continues
  rw [hout] at hcontinues
  exact hcontinues

/-- An error in the first step is the end. -/
theorem follows_bind_breach (b : Breach) (f : α → Capture β) :
    Keeps (Follows given) (breach b >>= f) := by
  intro t
  refine related_bind (keeps_breach b t) fun a u hout => ?_
  cases hout

theorem follows_say (level : Log.Level) (channel : Log.Channel) (text : String) :
    Keeps (Follows given) (say level channel text) :=
  fun t => Follows.of_workshop (w := t.workshop.say level channel text) rfl (.of_modules_eq rfl)

theorem follows_addGuards (guards : GuardSet) : Keeps (Follows given) (addGuards guards) :=
  fun _ => .of_nodes_eq rfl rfl

theorem follows_newIdentity : Keeps (Follows given) newIdentity := fun _ => .of_nodes_eq rfl rfl

theorem follows_addInput (name : String) (source : Source) :
    Keeps (Follows given) (addInput name source) := by
  intro t
  have hnodes : (t.graph.addInput name source).2.nodes =
      (t.graph.append (.placeholder name) [] []).nodes := rfl
  exact .of_append hnodes rfl

theorem follows_record (target : Target) (args : List Operand) (kwargs : Named Operand) :
    Keeps (Follows given) (record target args kwargs) := by
  intro t
  refine related_bind (keeps_get t) fun t₁ t₂ hout => ?_
  cases hout
  refine related_bind (keeps_ofExcept _ t) fun (id, g) t₁ hout => ?_
  obtain ⟨hrecord, rfl⟩ := ofExcept_eq_ok hout
  obtain ⟨rfl, -⟩ := Graph.record_eq_ok hrecord
  refine related_bind (Follows.of_append rfl rfl) fun _ t₂ _ => ?_
  exact keeps_bind (follows_say _ _ _) (fun _ => keeps_pure _) t₂

theorem follows_recordItem (id : NodeId) (index : Nat) :
    Keeps (Follows given) (recordItem id index) :=
  keeps_ite _ (follows_record _ _ _) (keeps_breach _)

theorem follows_exampleValue (id : NodeId) (supplied : Option Value) (module? : Option Nat) :
    Keeps (Follows given) (exampleValue id supplied module?) := by
  intro t
  obtain ⟨w, hw, hlibrary⟩ := exampleValue_works id supplied module? t
  have hcells := warms_exampleValue id supplied module? t
  rw [hw] at hcells ⊢
  exact .of_workshop hlibrary hcells

theorem setExample_eq_ok (h : (setExample id e).outcome t = (.ok (), u)) :
    ∃ g, t.graph.setExample id e = .ok g ∧ u = { t with graph := g } := by
  unfold setExample at h
  obtain ⟨_, _, hget, hrest⟩ := outcome_bind_eq_ok h
  cases hget
  obtain ⟨g, _, hchecked, hwrite⟩ := outcome_bind_eq_ok hrest
  obtain ⟨hset, rfl⟩ := ofExcept_eq_ok hchecked
  cases hwrite
  exact ⟨g, hset, rfl⟩

theorem follows_setExample (h : t.Admits given id e) :
    t.Follows given ((setExample id e).outcome t).2 := by
  unfold setExample
  rw [outcome_bind_ok (outcome_get t)]
  cases hset : t.graph.setExample id e with
  | error fault => exact Std.Refl.refl t
  | ok g => exact .of_setExample hset h

/-- The example that was written is there. -/
theorem exampleOf_of_setExample (h : (setExample id e).outcome t = (.ok (), u)) :
    u.graph.exampleOf id = .ok (some e) := by
  obtain ⟨g, hset, rfl⟩ := setExample_eq_ok h
  obtain ⟨-, n, hn, -⟩ := Graph.setExample_eq_ok hset
  refine Graph.exampleOf_eq_some_iff.mpr ⟨{ n with example? := e }, ?_, rfl⟩
  rw [Graph.getElem?_nodes_setExample hset, if_pos rfl, hn]
  rfl

/-- The recorded node is the operation. -/
theorem node_of_record {target : Target} {args : List Operand} {kwargs : Named Operand}
    {child : NodeId} (h : (record target args kwargs).outcome t = (.ok child, u)) :
    ∃ n, u.graph.node? child = .ok n ∧ n.target = target ∧ n.args = args ∧ n.kwargs = kwargs := by
  unfold record at h
  obtain ⟨_, _, hget, hrest⟩ := outcome_bind_eq_ok h
  cases hget
  obtain ⟨⟨id, g⟩, _, hchecked, hwrite⟩ := outcome_bind_eq_ok hrest
  obtain ⟨hrecord, rfl⟩ := ofExcept_eq_ok hchecked
  cases hwrite
  exact ⟨_, Graph.node?_of_record hrecord, rfl, rfl, rfl⟩

/-- The recorded node is the subscript. -/
theorem subscripts_of_recordItem {child : NodeId} {index : Nat}
    (h : (recordItem id index).outcome t = (.ok child, u)) :
    ∃ n, u.graph.node? child = .ok n ∧ n.Subscripts id index := by
  unfold recordItem at h
  split at h
  · obtain ⟨n, hnode, htarget, hargs, hkwargs⟩ := node_of_record h
    exact ⟨n, hnode, htarget, hargs, hkwargs⟩
  · cases h

/-- An item of an example is admitted by the node that subscripts it. -/
theorem admits_item {child : NodeId} {index : Nat} {container item : Value} {n : Node}
    (hnode : t.graph.node? child = .ok n) (hn : n.Subscripts id index)
    (hcontainer : t.graph.exampleOf id = .ok (some container))
    (hitem : container.item? index = some item) :
    t.Admits given child (prepared t.config.placeholderPropagation item) :=
  fun _ => .inr (.item hnode hn hcontainer hitem rfl)

/-! ## Rules -/

section Rules

variable (p : Provenance)

/-- A rule that writes an example and does nothing else to the trace. -/
theorem follows_setExample_pure (answer : α) (h : t.Admits given id e) :
    t.Follows given ((do setExample id e; return answer : Capture α).outcome t).2 :=
  follows_bind (follows_setExample h) fun _ u _ _ => keeps_pure _ u

theorem follows_buildTensor (role : TensorRole) (supplied : Option Tensor) {tensor : Tensor}
    (h : t.Admits given id (.tensor tensor)) :
    t.Follows given ((buildTensor role p id supplied tensor).outcome t).2 :=
  follows_bind (keeps_config t) fun _ _ _ hu => follows_setExample_pure _ (h.continues hu)

theorem follows_buildScalar {number : Scalar}
    (h : t.Admits given id (.tensor
      (if t.config.placeholderPropagation then (Tensor.scalar number).erase
        else .scalar number))) :
    t.Follows given ((buildScalar p id number).outcome t).2 := by
  refine follows_bind (keeps_config t) fun config u hout _ => ?_
  cases hout
  refine follows_bind (follows_say _ _ _ t) fun _ u _ hu => ?_
  exact follows_buildTensor p _ _ (h.continues hu)

theorem follows_containerProvenance (kind : ContainerKind) :
    Keeps (Follows given) (containerProvenance kind p) :=
  keeps_ite _ (keeps_bind follows_newIdentity fun _ => keeps_pure _) (keeps_pure _)

theorem follows_buildSequence (kind : ContainerKind) {items : Capture (List Variable)}
    (h : t.Admits given id e)
    (hitems : ∀ u, t.Continues u → u.graph.exampleOf id = .ok (some e) →
      u.Follows given (items.outcome u).2) :
    t.Follows given ((buildSequence p id kind e items).outcome t).2 := by
  refine follows_bind (follows_setExample h) fun _ u hout hu => ?_
  refine follows_bind (hitems u hu (exampleOf_of_setExample hout)) fun contents v _ _ => ?_
  exact keeps_bind (follows_containerProvenance p kind) (fun _ => keeps_pure _) v

/-- The extents of a size that is the example of the node. -/
theorem follows_buildExtents {container : Value} {index : Nat} {extents : List Nat}
    (hcontainer : t.graph.exampleOf id = .ok (some container))
    (hextents : ∀ (k extent : Nat), extents[k]? = some extent →
      container.item? (index + k) = some (.int (Word.signed extent))) :
    t.Follows given ((buildExtents id index extents).outcome t).2 := by
  induction extents generalizing index t with
  | nil => exact keeps_pure _ t
  | cons extent rest ih =>
      refine follows_bind (follows_recordItem id index t) fun child u hout hu => ?_
      obtain ⟨n, hnode, hn⟩ := subscripts_of_recordItem hout
      have hstored := hu.keepsExamples _ _ hcontainer
      have hadmits : u.Admits given child
          (prepared u.config.placeholderPropagation (.int (Word.signed extent))) :=
        admits_item hnode hn hstored (hextents 0 extent rfl)
      rw [prepared_of_toScalar? (v := .int (Word.signed extent)) rfl] at hadmits
      dsimp only
      split
      · refine follows_bind (follows_setExample hadmits) fun _ v _ hv => ?_
        refine follows_bind (ih (hv.keepsExamples _ _ hstored) fun k extent hk => ?_)
          fun _ w _ _ => keeps_pure _ w
        rw [Nat.add_assoc, Nat.add_comm 1 k]
        exact hextents (k + 1) extent hk
      · exact follows_bind_breach _ _ u

theorem follows_buildSymbolicSize {extents : List Nat} (h : t.Admits given id (.size extents)) :
    t.Follows given ((buildSymbolicSize p id extents).outcome t).2 := by
  refine follows_bind (follows_setExample h) fun _ u hout _ => ?_
  refine follows_bind (follows_buildExtents (exampleOf_of_setExample hout) fun k extent hk => ?_)
    fun _ v _ _ => keeps_pure _ v
  rw [Nat.zero_add, Value.item?, hk]
  rfl

/-- A rule that applies writes what the example of the target's value is. -/
theorem follows_buildAs (role : TensorRole) {target : Target} (supplied : Option Tensor)
    {erased : Bool} {value : Value} {items : Capture (List Variable)} {rule : Rule}
    (herased : erased = true → t.config.placeholderPropagation = true)
    (hrule : Rule.first? t.config target value = some rule)
    (h : t.Admits given id (prepared erased (t.config.exampleFor target value)))
    (hitems : ∀ u, t.Continues u → u.graph.exampleOf id = .ok (some (prepared erased value)) →
      u.Follows given (items.outcome u).2) :
    t.Follows given ((buildAs role p id target supplied erased value items rule).outcome t).2 := by
  have hvalue (hother : rule ≠ .scalarOutput) : t.Admits given id (prepared erased value) := by
    rw [Config.exampleFor_of_ne hrule hother] at h
    exact h
  -- every rule writes the prepared value, but for the one that captures a number
  unfold buildAs
  split
  · refine follows_buildTensor p role supplied ?_
    have htensor := hvalue nofun
    cases erased <;> exact htensor
  · refine follows_buildSymbolicSize p ?_
    have hsize := hvalue nofun
    cases erased <;> exact hsize
  · refine follows_setExample_pure _ ?_
    have hsize := hvalue nofun
    cases erased <;> exact hsize
  · exact follows_buildSequence p _ (hvalue nofun) hitems
  · exact follows_buildSequence p _ (hvalue nofun) hitems
  · exact follows_buildSequence p _ (hvalue nofun) hitems
  · exact keeps_pure _ t
  · have hnumber {number : Scalar} (hother : rule ≠ .scalarOutput)
        (hsome : value.toScalar? = some number) : t.Admits given id value := by
      rw [← prepared_of_toScalar? hsome erased]
      exact hvalue hother
    split
    · exact follows_setExample_pure _ (hnumber nofun ‹_›)
    · exact follows_setExample_pure _ (hnumber nofun ‹_›)
    · exact follows_setExample_pure _ (hnumber nofun ‹_›)
    · -- the tensor of a captured number is erased where the trace uses placeholders
      refine follows_buildScalar p ?_
      rw [Config.exampleFor_of_scalarOutput hrule ‹_›] at h
      cases erased with
      | false => exact h
      | true =>
          rw [herased rfl] at h ⊢
          exact h
    · exact keeps_breach _ t

end Rules

/-! ## Classification -/

/-- Classifying a node writes the example of the value, once this is admitted. -/
theorem follows_classifyWith (role : TensorRole) (p : Provenance) {target : Target}
    (supplied : Option Tensor) {erased : Bool} {value : Value} {items : Capture (List Variable)}
    (herased : erased = true → t.config.placeholderPropagation = true)
    (h : t.Admits given id (prepared erased (t.config.exampleFor target value)))
    (hitems : ∀ u, t.Continues u → u.graph.exampleOf id = .ok (some (prepared erased value)) →
      u.Follows given (items.outcome u).2) :
    t.Follows given
      ((classifyWith role p id target supplied erased value items).outcome t).2 := by
  refine follows_bind (keeps_config t) fun config u hout _ => ?_
  cases hout
  split
  · exact keeps_breach _ t
  · rename_i rule hrule
    refine follows_bind (follows_say _ _ _ t) fun _ u hout hu => ?_
    rw [← hu.config_eq] at herased hrule
    refine follows_buildAs p role supplied herased hrule ?_ fun v hv => hitems v (hu.trans hv)
    rw [hu.config_eq]
    exact h.continues hu

/-- The example that a container becomes has its items, prepared in the same way. -/
theorem item?_container {erased : Bool} {value : Value} {items : List Value}
    (h : ∀ k : Nat, value.item? k = items[k]?) (k : Nat) (item : Value)
    (hk : items[k]? = some item) :
    (prepared erased value).item? (0 + k) = some (prepared erased item) := by
  rw [Nat.zero_add, item?_prepared, h, hk]
  rfl

mutual

/-- Classifying a node, by recursion on the value. The items of a container are classified in a
trace in which the container is the example of the node. -/
theorem follows_classify {t : Trace} {id : NodeId} (role : TensorRole) (p : Provenance)
    {target : Target} (supplied : Option Tensor) {erased : Bool} (value : Value)
    (herased : erased = true → t.config.placeholderPropagation = true)
    (h : t.Admits given id (prepared erased (t.config.exampleFor target value))) :
    t.Follows given ((classify role p id target supplied erased value).outcome t).2 := by
  unfold classify
  cases value with
  | tuple items =>
      refine follows_classifyWith role p supplied herased h fun u hu hstored => ?_
      rw [← hu.config_eq] at herased
      exact follows_classifyItems role p items herased hstored (item?_container fun _ => rfl)
  | list items =>
      refine follows_classifyWith role p supplied herased h fun u hu hstored => ?_
      rw [← hu.config_eq] at herased
      exact follows_classifyItems role p items herased hstored (item?_container fun _ => rfl)
  | record type items =>
      refine follows_classifyWith role p supplied herased h fun u hu hstored => ?_
      rw [← hu.config_eq] at herased
      exact follows_classifyItems role p items herased hstored (item?_container fun _ => rfl)
  | _ => exact follows_classifyWith role p supplied herased h fun u _ _ => keeps_pure _ u

/-- The items of a container that is the example of the node. -/
theorem follows_classifyItems {t : Trace} {id : NodeId} (role : TensorRole) (p : Provenance)
    {erased : Bool} {container : Value} {index : Nat} (items : List Value)
    (herased : erased = true → t.config.placeholderPropagation = true)
    (hcontainer : t.graph.exampleOf id = .ok (some container))
    (hitems : ∀ (k : Nat) (item : Value), items[k]? = some item →
      container.item? (index + k) = some (prepared erased item)) :
    t.Follows given ((classifyItems role p id erased index items).outcome t).2 := by
  cases items with
  | nil => exact keeps_pure _ t
  | cons item rest =>
      unfold classifyItems
      have others (u : Trace) (hu : t.Continues u) (first : Variable) : u.Follows given ((do
          let others ← classifyItems role p id erased (index + 1) rest
          return first :: others : Capture (List Variable)).outcome u).2 := by
        rw [← hu.config_eq] at herased
        have hstored := hu.keepsExamples _ _ hcontainer
        refine follows_bind (follows_classifyItems role p rest herased hstored fun k item hk => ?_)
          fun _ v _ _ => keeps_pure _ v
        rw [Nat.add_assoc, Nat.add_comm 1 k]
        exact hitems (k + 1) item hk
      split
      · exact others t (.refl t) _
      · refine follows_bind (follows_recordItem id index t) fun child u hout hu => ?_
        obtain ⟨n, hnode, hn⟩ := subscripts_of_recordItem hout
        have hadmits : u.Admits given child
            (prepared u.config.placeholderPropagation (prepared erased item)) :=
          admits_item hnode hn (hu.keepsExamples _ _ hcontainer) (hitems 0 item rfl)
        rw [← hu.config_eq] at herased
        rw [prepared_prepared herased] at hadmits
        refine follows_bind (follows_addGuards p.guards u) fun _ v _ hv => ?_
        refine follows_bind (keeps_config v) fun config w hout _ => ?_
        cases hout
        refine follows_bind ?_ fun first w _ hw => others w (hu.trans (hv.trans hw)) first
        -- the target of an item does not compute a number, so its example is the item itself
        refine follows_classify role p _ item (fun herased => herased) ?_
        rw [Config.exampleFor_of_not_yieldsScalar rfl, hv.config_eq]
        exact hadmits.continues hv

end

/-- Classifying a node whose example is not supplied, or that the caller may give an example. -/
theorem follows_create {supplied : Option Value} {module? : Option Nat}
    (h : given id ∨ supplied = none ∧ module? = none) (role : TensorRole) (p : Provenance) :
    Keeps (Follows given) (create id supplied module? role p) := by
  refine keeps_bind (follows_addGuards p.guards) fun _ => keeps_bind (keeps_node id) fun node => ?_
  have rest : Keeps (Follows given) (do
      let supplied? := supplied.bind Value.toTensor?
      let config ← config
      if config.dynamicPropagation then
        let value ← exampleValue id supplied module?
        classify role p id (← Capture.node id).target supplied? false value
      else return .tensor ⟨id, supplied?.map (·.specialize config), none, role, p⟩) := by
    refine keeps_bind keeps_config fun config => keeps_ite _ (fun t => ?_) (keeps_pure _)
    refine follows_bind (follows_exampleValue id supplied module? t) fun value u hvalue hu => ?_
    refine follows_bind (keeps_node id u) fun n v hn _ => ?_
    obtain ⟨hnode, rfl⟩ := node_eq_ok hn
    refine follows_classify role p _ value nofun fun hlayered => ?_
    rcases h with hgiven | ⟨rfl, rfl⟩
    · exact .inl hgiven
    · -- the value was computed, and the node replays it in the trace in which it is classified
      exact .inr (.run hnode (replays_of_exampleValue (hu.layered_of hlayered) hvalue) rfl)
  exact keeps_ite _ (fun t => follows_bind_breach _ _ t) rest

/-- Recording a node, and classifying one whose example is not supplied. -/
theorem follows_nodes : KeepsNodes (Follows given) fun _ => True where
  record := follows_record
  addGuards p _ := follows_addGuards p.guards
  create _ role p _ := follows_create (.inr ⟨rfl, rfl⟩) role p

end Capture

end TensorCapture
