import TensorCapture.Proofs.Capture.Operations
import TensorCapture.Proofs.Graph.Change

set_option autoImplicit false

/-! # Graphs only grow

The captured graph is append-only. A node keeps its target and operands, and its example value
once it has one; an input keeps its node, and stays erased once it is; what was made a literal
stays one. The guards keep their order, and new ones come last, except where a scalar is made a
literal. Operands are always older than the node that reads them, so the graph has no cycle.

Each of these is shown of one small step, and follows for operations and for runs.
-/

namespace TensorCapture

/-! ## Operands that occur at any depth -/

/-- The node occurs in the operand, itself or inside tuples and lists. -/
inductive Operand.Mentions (id : NodeId) : Operand → Prop where
  | node : Mentions id (.node id)
  | tuple {items : List Operand} {item : Operand} (hmem : item ∈ items) (h : Mentions id item) :
      Mentions id (.tuple items)
  | list {items : List Operand} {item : Operand} (hmem : item ∈ items) (h : Mentions id item) :
      Mentions id (.list items)

/-- The node occurs in an operand of this node, positional or named. -/
def Node.Reads (node : Node) (id : NodeId) : Prop :=
  ∃ item ∈ node.args ++ node.kwargs.values, item.Mentions id

namespace Operand

mutual

theorem mem_nodes_of_mentions {id : NodeId} {item : Operand} (h : item.Mentions id) :
    id ∈ item.nodes := by
  cases h with
  | node => exact List.mem_singleton_self id
  | tuple hmem h => exact mem_nodesOfAll_of_mentions hmem h
  | list hmem h => exact mem_nodesOfAll_of_mentions hmem h

theorem mem_nodesOfAll_of_mentions {id : NodeId} {items : List Operand} {item : Operand}
    (hmem : item ∈ items) (h : item.Mentions id) : id ∈ nodesOfAll items := by
  rw [nodesOfAll_eq_flatMap]
  exact List.mem_flatMap.mpr ⟨item, hmem, mem_nodes_of_mentions h⟩

end

end Operand

/-- The nodes that a node reads are the listed ones. -/
theorem Node.mem_operandNodes_of_reads {node : Node} {id : NodeId} (h : node.Reads id) :
    id ∈ node.operandNodes := by
  obtain ⟨item, hmem, hitem⟩ := h
  rcases List.mem_append.mp hmem with hargs | hkwargs
  · exact List.mem_append_left _ (Operand.mem_nodesOfAll_of_mentions hargs hitem)
  · exact List.mem_append_right _ (Operand.mem_nodesOfAll_of_mentions hkwargs hitem)

/-! ## Guards come last -/

namespace GuardSet

theorem prefix_insert (s : GuardSet) (g : Guard) : s.members <+: (s.insert g).members := by
  unfold insert
  split
  · exact List.prefix_refl _
  · exact List.prefix_append _ _

theorem prefix_foldl_insert (s : GuardSet) (guards : List Guard) :
    s.members <+: (guards.foldl insert s).members := by
  induction guards generalizing s with
  | nil => exact List.prefix_refl _
  | cons g rest ih => exact (s.prefix_insert g).trans (ih (s.insert g))

theorem prefix_union (s t : GuardSet) : s.members <+: (s ∪ t).members :=
  s.prefix_foldl_insert t.members

end GuardSet

/-! ## What a later graph keeps -/

/-- A node later on: the same operation, with the same example value once it has one. -/
structure Node.Grows (n n' : Node) : Prop where
  id_eq : n'.id = n.id
  target_eq : n'.target = n.target
  args_eq : n'.args = n.args
  kwargs_eq : n'.kwargs = n.kwargs
  example_eq : ∀ v, n.example? = some v → n'.example? = some v

/-- An input later on: the same source and node, and erased once it is. -/
structure GraphInput.Grows (i i' : GraphInput) : Prop where
  source_eq : i'.source = i.source
  node_eq : i'.node = i.node
  erased : i.erased = true → i'.erased = true

/-- A later graph, guards apart. -/
structure Graph.Grows (g g' : Graph) : Prop where
  node : ∀ (i : Nat) (n : Node), g.nodes[i]? = some n → ∃ n', g'.nodes[i]? = some n' ∧ n.Grows n'
  input : ∀ (i : Nat) (a : GraphInput), g.inputs[i]? = some a →
    ∃ a', g'.inputs[i]? = some a' ∧ a.Grows a'
  deoptimized : g.deoptimized <+: g'.deoptimized

/-- A later graph whose guards are those of the earlier one and perhaps more behind them. -/
structure Graph.GrowsBehind (g g' : Graph) : Prop extends g.Grows g' where
  guards : g.guards.members <+: g'.guards.members

theorem Node.Grows.refl (n : Node) : n.Grows n := ⟨rfl, rfl, rfl, rfl, fun _ h => h⟩

theorem Node.Grows.trans {n n' n'' : Node} (h : n.Grows n') (h' : n'.Grows n'') : n.Grows n'' where
  id_eq := h'.id_eq.trans h.id_eq
  target_eq := h'.target_eq.trans h.target_eq
  args_eq := h'.args_eq.trans h.args_eq
  kwargs_eq := h'.kwargs_eq.trans h.kwargs_eq
  example_eq v hv := h'.example_eq v (h.example_eq v hv)

theorem GraphInput.Grows.refl (i : GraphInput) : i.Grows i := ⟨rfl, rfl, id⟩

theorem GraphInput.Grows.trans {i i' i'' : GraphInput} (h : i.Grows i') (h' : i'.Grows i'') :
    i.Grows i'' where
  source_eq := h'.source_eq.trans h.source_eq
  node_eq := h'.node_eq.trans h.node_eq
  erased he := h'.erased (h.erased he)

namespace Graph

variable {g g' g'' : Graph}

theorem Grows.refl (g : Graph) : g.Grows g where
  node _ n hn := ⟨n, hn, .refl n⟩
  input _ a ha := ⟨a, ha, .refl a⟩
  deoptimized := List.prefix_refl _

theorem Grows.trans (h : g.Grows g') (h' : g'.Grows g'') : g.Grows g'' where
  node i n hn := by
    obtain ⟨n', hn', hgrows⟩ := h.node i n hn
    obtain ⟨n'', hn'', hgrows'⟩ := h'.node i n' hn'
    exact ⟨n'', hn'', hgrows.trans hgrows'⟩
  input i a ha := by
    obtain ⟨a', ha', hgrows⟩ := h.input i a ha
    obtain ⟨a'', ha'', hgrows'⟩ := h'.input i a' ha'
    exact ⟨a'', ha'', hgrows.trans hgrows'⟩
  deoptimized := h.deoptimized.trans h'.deoptimized

/-- Where no node was added, every node was there before. -/
theorem Grows.exists_of_size_eq (h : g.Grows g') (hsize : g'.nodes.size = g.nodes.size) {i : Nat}
    {n' : Node} (hn' : g'.nodes[i]? = some n') : ∃ n, g.nodes[i]? = some n ∧ n.Grows n' := by
  have hlt : i < g.nodes.size := by
    rw [← hsize]
    exact (Array.getElem?_eq_some_iff.mp hn').1
  have hn : g.nodes[i]? = some g.nodes[i] := Array.getElem?_eq_getElem hlt
  obtain ⟨later, hlater, hgrows⟩ := h.node i g.nodes[i] hn
  have heq : later = n' := Option.some.inj (hlater.symm.trans hn')
  subst heq
  exact ⟨g.nodes[i], hn, hgrows⟩

/-! ## One change -/

theorem growsBehind_append (g : Graph) (target : Target) (args : List Operand)
    (kwargs : Named Operand) : g.GrowsBehind (g.append target args kwargs) where
  node _ n hn := ⟨n, getElem?_nodes_append_of_some target args kwargs hn, .refl n⟩
  input _ a ha := ⟨a, ha, .refl a⟩
  deoptimized := List.prefix_refl _
  guards := List.prefix_refl _

theorem growsBehind_setExample {id : NodeId} {value : Value}
    (h : g.setExample id value = .ok g') : g.GrowsBehind g' := by
  have hnodes := getElem?_nodes_setExample h
  obtain ⟨rfl, written, hwritten, hnone⟩ := setExample_eq_ok h
  refine ⟨⟨fun i n hn => ?_, fun _ a ha => ⟨a, ha, .refl a⟩, List.prefix_refl _⟩,
    List.prefix_refl _⟩
  rw [hnodes, hn]
  by_cases hi : id.index = i
  · -- the node had no example value, so none is lost
    subst hi
    have heq : written = n := Option.some.inj (hwritten.symm.trans hn)
    subst heq
    rw [if_pos rfl]
    refine ⟨_, rfl, rfl, rfl, rfl, rfl, fun v hv => ?_⟩
    rw [hnone] at hv
    cases hv
  · rw [if_neg hi]
    exact ⟨n, rfl, .refl n⟩

theorem getElem?_inputs_eraseInputs (g : Graph) (source : Source) {i : Nat} {a : GraphInput}
    (h : g.inputs[i]? = some a) :
    ∃ a', (g.eraseInputs source).inputs[i]? = some a' ∧ a.Grows a' := by
  show ∃ a', (g.inputs.map _)[i]? = some a' ∧ _
  rw [List.getElem?_map, h]
  refine ⟨_, rfl, ?_⟩
  dsimp only
  split
  · exact ⟨rfl, rfl, fun _ => rfl⟩
  · exact .refl a

theorem grows_eraseInputs (g : Graph) (source : Source) : g.Grows (g.eraseInputs source) where
  node _ n hn := ⟨n, hn, .refl n⟩
  input _ _ ha := getElem?_inputs_eraseInputs g source ha
  deoptimized := List.prefix_refl _

theorem grows_literalize (g : Graph) (id : NodeId) (p : Provenance) :
    g.Grows (g.literalize id p) := by
  unfold literalize
  have hdeoptimized : g.deoptimized <+: g.deoptimized ++ [id] := List.prefix_append _ _
  cases p.source with
  | none => exact ⟨(Grows.refl g).node, (Grows.refl g).input, hdeoptimized⟩
  | some source =>
      have herase := grows_eraseInputs g source
      exact ⟨herase.node, herase.input, hdeoptimized⟩

theorem length_deoptimized_literalize (g : Graph) (id : NodeId) (p : Provenance) :
    (g.literalize id p).deoptimized.length = g.deoptimized.length + 1 := by
  unfold literalize
  cases p.source <;> exact List.length_append

/-- A step by which nothing becomes a literal leaves the guards in front. -/
theorem Step.growsBehind (h : g.Step g') : g.GrowsBehind g' := by
  cases h with
  | addGuards guards => exact ⟨⟨(Grows.refl g).node, (Grows.refl g).input, List.prefix_refl _⟩,
      g.guards.prefix_union guards⟩
  | record h =>
      obtain ⟨rfl, -⟩ := record_eq_ok h
      exact growsBehind_append g _ _ _
  | addInput name source =>
      have happend := growsBehind_append g (.placeholder name) [] []
      refine ⟨⟨happend.node, fun i a ha => ⟨a, ?_, .refl a⟩, happend.deoptimized⟩, happend.guards⟩
      have hlt : i < g.inputs.length := (List.getElem?_eq_some_iff.mp ha).1
      exact (List.getElem?_append_left hlt).trans ha
  | setExample h => exact growsBehind_setExample h
  | newIdentity => exact ⟨⟨(Grows.refl g).node, (Grows.refl g).input, List.prefix_refl _⟩,
      List.prefix_refl _⟩

end Graph

end TensorCapture
