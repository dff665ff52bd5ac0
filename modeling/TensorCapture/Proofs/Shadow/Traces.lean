import TensorCapture.Proofs.Graph.Change
import TensorCapture.Proofs.Rerun.Follows
import TensorCapture.Proofs.Shadow.Blurring
import TensorCapture.Proofs.Shadow.Plain
import TensorCapture.Proofs.Shadow.Variables

set_option autoImplicit false

/-! # Traces and their shadows

A trace that runs operations eagerly is shadowed by a trace that runs the same ones on
placeholders: the graphs have the same nodes, and the examples of the shadow are those of the
eager trace without elements. One kind of example can differ in more. What `item` gives is a number
that the shadow does not know, and where shapes are dynamic the number itself is the example. The
shadow then has another number of its class, and can go on to compute with it.

`Meets Q act act'` compares a step of a trace with a step of its shadow: where both answer, the
answers and the traces afterwards are related by `Q`. It says nothing where one of them fails, so
it is closed under sequencing without a look at errors.
-/

namespace TensorCapture

/-- Arrays that are related at every position are of one size. -/
theorem Array.size_eq_of_rel {α : Type} {R : α → α → Prop} {xs ys : Array α}
    (h : ∀ i : Nat, Option.Rel R xs[i]? ys[i]?) : ys.size = xs.size := by
  have hnone (i : Nat) : xs[i]? = none ↔ ys[i]? = none := by
    have hrel := h i
    generalize xs[i]? = found at hrel ⊢
    generalize ys[i]? = found' at hrel ⊢
    cases hrel with
    | none => exact Iff.rfl
    | some _ => exact iff_of_false (Option.some_ne_none _) (Option.some_ne_none _)
  -- the first position that is not filled is the same
  simp only [Array.getElem?_eq_none_iff] at hnone
  have hle := (hnone ys.size).mpr (Nat.le_refl _)
  have hge := (hnone xs.size).mp (Nat.le_refl _)
  omega

/-! ## Examples, nodes and graphs -/

/-- The example on placeholders of what is an example in the eager trace. It is the same without
elements, but for numbers in it where numbers can be unknown. -/
structure Value.ShadowedBy (unknown : Prop) (v v' : Value) : Prop where
  plain : v.Plain
  blursTo : v.BlursTo v'
  known : unknown ∨ v' = v.erase

namespace Value

variable {unknown : Prop} {v v' : Value} {items : List Value}

theorem Plain.shadowedBy (h : v.Plain) (unknown : Prop) : v.ShadowedBy unknown v.erase :=
  ⟨h, v.blursTo_erase, .inr rfl⟩

/-- An example goes on to be shadowed when it is prepared. -/
theorem ShadowedBy.erase (h : v.ShadowedBy unknown v') : v.ShadowedBy unknown v'.erase where
  plain := h.plain
  blursTo := h.blursTo.erase
  known := h.known.imp_right fun heq => by rw [heq, erase_erase]

theorem ShadowedBy.isNone_eq (h : v.ShadowedBy unknown v') : v'.isNone = v.isNone := by
  cases h.blursTo with
  | erased heq =>
      subst heq
      cases v <;> rfl
  | number hclass =>
      obtain ⟨a, b, ha, hb, -⟩ := hclass
      cases v with
      | int _ | bool _ | float _ =>
          cases v' with
          | int _ | bool _ | float _ => rfl
          | _ => cases hb
      | _ => cases ha
  | tuple _ => rfl
  | list _ => rfl

theorem SameClass.plain (h : v.SameClass v') : v.Plain := by
  obtain ⟨a, -, ha, -⟩ := h
  intro t ht
  cases ht <;> cases ha

/-- Items of the same, which are known where all of them are. -/
theorem allShadowedBy {items items' : List Value} (hplain : ∀ v ∈ items, v.Plain)
    (hblurs : List.Forall₂ BlursTo items items') (hknown : unknown ∨ items' = eraseAll items) :
    List.Forall₂ (ShadowedBy unknown) items items' := by
  induction hblurs with
  | nil => exact .nil
  | @cons item item' rest rest' hitem _ ih =>
      have hrest (v : Value) (hv : v ∈ rest) := hplain v (List.mem_cons_of_mem item hv)
      refine .cons ⟨hplain item List.mem_cons_self, hitem, ?_⟩ (ih hrest ?_)
      · exact hknown.imp_right fun heq => (List.cons.inj heq).1
      · exact hknown.imp_right fun heq => (List.cons.inj heq).2

theorem ShadowedBy.exists_tuple (h : (tuple items).ShadowedBy unknown v') :
    ∃ items', v' = tuple items' ∧ List.Forall₂ (ShadowedBy unknown) items items' := by
  obtain ⟨items', rfl, hitems⟩ := h.blursTo.exists_tuple
  refine ⟨items', rfl, allShadowedBy (fun _ => h.plain.of_mem_tuple) hitems ?_⟩
  exact h.known.imp_right Value.tuple.inj

theorem ShadowedBy.exists_list (h : (list items).ShadowedBy unknown v') :
    ∃ items', v' = list items' ∧ List.Forall₂ (ShadowedBy unknown) items items' := by
  obtain ⟨items', rfl, hitems⟩ := h.blursTo.exists_list
  refine ⟨items', rfl, allShadowedBy (fun _ => h.plain.of_mem_list) hitems ?_⟩
  exact h.known.imp_right Value.list.inj

theorem ShadowedBy.exists_record {type : RecordType}
    (h : (record type items).ShadowedBy unknown v') :
    ∃ items', v' = record type items' ∧ List.Forall₂ (ShadowedBy unknown) items items' := by
  obtain rfl := h.blursTo.eq_erase rfl
  refine ⟨eraseAll items, rfl, ?_⟩
  exact allShadowedBy (fun _ => h.plain.of_mem_record) (allBlurTo_eraseAll items) (.inr rfl)

end Value

/-- The same operation, and an example that is shadowed. -/
structure Node.ShadowedBy (dynamicShapes : Bool) (n n' : Node) : Prop where
  id_eq : n'.id = n.id
  target_eq : n'.target = n.target
  args_eq : n'.args = n.args
  kwargs_eq : n'.kwargs = n.kwargs
  example? : Option.Rel (Value.ShadowedBy (dynamicShapes = true)) n.example? n'.example?

theorem Node.ShadowedBy.isSome_example? {dynamicShapes : Bool} {n n' : Node}
    (h : n.ShadowedBy dynamicShapes n') : n'.example?.isSome = n.example?.isSome := by
  have hexample := h.example?
  generalize n.example? = found at hexample ⊢
  generalize n'.example? = found' at hexample ⊢
  cases hexample with
  | none => rfl
  | some _ => rfl

/-- The same graph but for the examples of its nodes, which are shadowed. -/
structure Graph.ShadowedBy (dynamicShapes : Bool) (g g' : Graph) : Prop where
  node : ∀ i : Nat, Option.Rel (Node.ShadowedBy dynamicShapes) g.nodes[i]? g'.nodes[i]?
  others_eq : g' = { g with nodes := g'.nodes }

/-- The other graph has the example of the node without its elements. -/
def Graph.Agrees (g g' : Graph) (id : NodeId) : Prop :=
  ∀ v, g.exampleOf id = .ok (some v) → g'.exampleOf id = .ok (some v.erase)

namespace Graph

variable {dynamicShapes : Bool} {g g' : Graph} {id : NodeId}

theorem shadowedBy_empty : empty.ShadowedBy dynamicShapes empty where
  node i := by
    rw [getElem?_nodes_empty]
    exact .none
  others_eq := rfl

theorem ShadowedBy.size_eq (h : g.ShadowedBy dynamicShapes g') :
    g'.nodes.size = g.nodes.size :=
  Array.size_eq_of_rel h.node

theorem ShadowedBy.exists_node (h : g.ShadowedBy dynamicShapes g') {i : Nat} {n' : Node}
    (hn' : g'.nodes[i]? = some n') :
    ∃ n, g.nodes[i]? = some n ∧ n.ShadowedBy dynamicShapes n' := by
  have hrel := h.node i
  rw [hn'] at hrel
  generalize g.nodes[i]? = found at hrel ⊢
  cases hrel with
  | some hn => exact ⟨_, rfl, hn⟩

/-- A node that has an example has one in the shadow. -/
theorem ShadowedBy.exists_example (h : g.ShadowedBy dynamicShapes g') {v : Value}
    (hv : g.exampleOf id = .ok (some v)) :
    ∃ v', g'.exampleOf id = .ok (some v') ∧ v.ShadowedBy (dynamicShapes = true) v' := by
  obtain ⟨n, hn, hexample⟩ := exampleOf_eq_some_iff.mp hv
  have hrel := h.node id.index
  rw [hn] at hrel
  cases hn' : g'.nodes[id.index]? with
  | none =>
      rw [hn'] at hrel
      cases hrel
  | some n' =>
      rw [hn'] at hrel
      cases hrel with
      | some hnode =>
          have hvalue := hnode.example?
          rw [hexample] at hvalue
          cases hexample' : n'.example? with
          | none =>
              rw [hexample'] at hvalue
              cases hvalue
          | some v' =>
              rw [hexample'] at hvalue
              cases hvalue with
              | some hvalue =>
                  exact ⟨v', exampleOf_eq_some_iff.mpr ⟨n', hn', hexample'⟩, hvalue⟩

/-- Where shapes are static, no example is a number that the shadow does not know. -/
theorem ShadowedBy.agrees (h : g.ShadowedBy false g') (id : NodeId) : g.Agrees g' id := by
  intro v hv
  obtain ⟨v', hv', hvalue⟩ := h.exists_example hv
  obtain rfl := hvalue.known.resolve_left Bool.false_ne_true
  exact hv'

/-! ## Changes of a graph -/

theorem ShadowedBy.addGuards (h : g.ShadowedBy dynamicShapes g') (guards : GuardSet) :
    (g.addGuards guards).ShadowedBy dynamicShapes (g'.addGuards guards) where
  node := h.node
  others_eq := congrArg (Graph.addGuards · guards) h.others_eq

theorem ShadowedBy.newIdentity (h : g.ShadowedBy dynamicShapes g') :
    g'.newIdentity.1 = g.newIdentity.1 ∧
      g.newIdentity.2.ShadowedBy dynamicShapes g'.newIdentity.2 where
  left := (congrArg Graph.nextIdentity h.others_eq :)
  right := ⟨h.node, congrArg (fun g : Graph => g.newIdentity.2) h.others_eq⟩

theorem ShadowedBy.nextNode_eq (h : g.ShadowedBy dynamicShapes g') : g'.nextNode = g.nextNode :=
  congrArg NodeId.mk h.size_eq

theorem ShadowedBy.append (h : g.ShadowedBy dynamicShapes g') (target : Target)
    (args : List Operand) (kwargs : Named Operand) :
    (g.append target args kwargs).ShadowedBy dynamicShapes (g'.append target args kwargs) where
  node i := by
    rw [getElem?_nodes_append, getElem?_nodes_append, h.size_eq, h.nextNode_eq]
    by_cases hi : i = g.nodes.size
    · rw [if_pos hi, if_pos hi]
      exact .some ⟨rfl, rfl, rfl, rfl, .none⟩
    · rw [if_neg hi, if_neg hi]
      exact h.node i
  others_eq :=
    congrArg (fun other : Graph => { other with nodes := (g'.append target args kwargs).nodes })
      h.others_eq

theorem ShadowedBy.addInput (h : g.ShadowedBy dynamicShapes g') (name : String)
    (source : Source) :
    (g'.addInput name source).1 = (g.addInput name source).1 ∧
      (g.addInput name source).2.ShadowedBy dynamicShapes (g'.addInput name source).2 := by
  have happended := h.append (.placeholder name) [] []
  refine ⟨h.nextNode_eq, happended.node, ?_⟩
  have hinputs : g'.inputs = g.inputs := (congrArg Graph.inputs h.others_eq :)
  have hlisted : (g'.addInput name source).2.inputs = (g.addInput name source).2.inputs := by
    show g'.inputs ++ [⟨source, g'.nextNode, false⟩] = g.inputs ++ [⟨source, g.nextNode, false⟩]
    rw [hinputs, h.nextNode_eq]
  show ({ g' with
    nodes := (g'.addInput name source).2.nodes
    inputs := (g'.addInput name source).2.inputs } : Graph) = _
  rw [hlisted]
  exact congrArg (fun other : Graph => { other with
    nodes := (g'.addInput name source).2.nodes
    inputs := (g.addInput name source).2.inputs }) h.others_eq

/-- An example and its shadow are written into a node and its shadow. -/
theorem ShadowedBy.setExample (h : g.ShadowedBy dynamicShapes g') {v v' : Value}
    (hvalue : v.ShadowedBy (dynamicShapes = true) v') {u u' : Graph}
    (hset : g.setExample id v = .ok u) (hset' : g'.setExample id v' = .ok u') :
    u.ShadowedBy dynamicShapes u' where
  node i := by
    rw [getElem?_nodes_setExample hset, getElem?_nodes_setExample hset']
    by_cases hi : id.index = i
    · subst hi
      rw [if_pos rfl, if_pos rfl]
      have hrel := h.node id.index
      generalize g.nodes[id.index]? = found at hrel ⊢
      generalize g'.nodes[id.index]? = found' at hrel ⊢
      cases hrel with
      | none => exact .none
      | some hnode =>
          exact .some ⟨hnode.id_eq, hnode.target_eq, hnode.args_eq, hnode.kwargs_eq, .some hvalue⟩
    · rw [if_neg hi, if_neg hi]
      exact h.node i
  others_eq := by
    obtain ⟨rfl, -⟩ := setExample_eq_ok hset
    obtain ⟨rfl, -⟩ := setExample_eq_ok hset'
    exact congrArg (fun other : Graph => { other with
      nodes := g'.nodes.modify id.index fun n => { n with example? := some v' } }) h.others_eq

theorem Agrees.congr (h : g.Agrees g' id) {u u' : Graph} (hu : u.nodes = g.nodes)
    (hu' : u'.nodes = g'.nodes) : u.Agrees u' id := by
  unfold Agrees exampleOf node? at *
  rw [hu, hu']
  exact h

/-- Nodes that agree go on to agree when an operation is recorded. -/
theorem Agrees.append (h : g.Agrees g' id) (hid : id.index < g.nodes.size)
    (hid' : id.index < g'.nodes.size) (target : Target) (args : List Operand)
    (kwargs : Named Operand) :
    (g.append target args kwargs).Agrees (g'.append target args kwargs) id := by
  have hkept (g : Graph) (hid : id.index < g.nodes.size) :
      (g.append target args kwargs).exampleOf id = g.exampleOf id := by
    unfold exampleOf node?
    rw [getElem?_nodes_append, if_neg (by omega)]
  unfold Agrees
  rw [hkept g hid, hkept g' hid']
  exact h

end Graph

/-! ## Traces -/

/-- Both traces have these settings, but for placeholders, which only the shadow uses. They have the
same library. The graph is shadowed, and the modules differ in the elements of their parameters at
most. -/
structure Trace.ShadowedBy (settings : Config) (t t' : Trace) : Prop where
  eager : settings.placeholderPropagation = false
  config_eq : t.config = settings
  config_eq' : t'.config = { settings with placeholderPropagation := true }
  graph : t.graph.ShadowedBy settings.dynamicShapes t'.graph
  library_eq : t'.library = t.library
  depth_eq : t.library.placeholderDepth = 0
  modules : ∀ i : Nat, Option.Rel Module.Twin t.workshop.modules[i]? t'.workshop.modules[i]?

namespace Trace.ShadowedBy

variable {settings : Config} {t t' : Trace}

theorem withGraph (h : t.ShadowedBy settings t') {g g' : Graph}
    (hg : g.ShadowedBy settings.dynamicShapes g') :
    ({ t with graph := g } : Trace).ShadowedBy settings { t' with graph := g' } :=
  ⟨h.eager, h.config_eq, h.config_eq', hg, h.library_eq, h.depth_eq, h.modules⟩

theorem withWorkshop (h : t.ShadowedBy settings t') {w w' : Workshop}
    (hlibrary : w.library = t.workshop.library) (hlibrary' : w'.library = t'.workshop.library)
    (hmodules : ∀ i : Nat, Option.Rel Module.Twin w.modules[i]? w'.modules[i]?) :
    ({ t with workshop := w } : Trace).ShadowedBy settings { t' with workshop := w' } where
  eager := h.eager
  config_eq := h.config_eq
  config_eq' := h.config_eq'
  graph := h.graph
  library_eq := hlibrary'.trans (h.library_eq.trans hlibrary.symm)
  depth_eq := (congrArg Library.placeholderDepth hlibrary).trans h.depth_eq
  modules := hmodules

end Trace.ShadowedBy

/-! ## Steps that meet -/

namespace Capture

variable {α β : Type} {t t' : Trace}

/-- Where the step answers from the one trace and the other step from the other trace, the answers
and the traces afterwards are related. -/
def Meets (Q : α → Trace → α → Trace → Prop) (act act' : Capture α) (t t' : Trace) : Prop :=
  ∀ a u a' u', act.outcome t = (.ok a, u) → act'.outcome t' = (.ok a', u') → Q a u a' u'

/-- The answers are related, and the one trace is shadowed by the other. -/
abbrev Shadows (settings : Config) (E : α → α → Prop) :
    Capture α → Capture α → Trace → Trace → Prop :=
  Meets fun a u a' u' => E a a' ∧ u.ShadowedBy settings u'

section Rules

variable {Q : α → Trace → α → Trace → Prop} {P : β → Trace → β → Trace → Prop}
  {act act' : Capture α} {f f' : α → Capture β}

theorem meets_pure {a a' : α} (h : Q a t a' t') : Meets Q (pure a) (pure a') t t' := by
  intro b u b' u' hout hout'
  cases hout
  cases hout'
  exact h

theorem meets_throw (fault : Fault CaptureError) (act' : Capture α) :
    Meets Q (throw fault) act' t t' := by
  intro a u a' u' hout
  cases hout

theorem meets_fail (e : CaptureError) (act' : Capture α) : Meets Q (fail e) act' t t' :=
  meets_throw _ _

theorem meets_refuse (reason : Refusal) (act' : Capture α) : Meets Q (refuse reason) act' t t' :=
  meets_fail _ _

theorem meets_breach (b : Breach) (act' : Capture α) : Meets Q (breach b) act' t t' :=
  meets_fail _ _

/-- A step that ends here does not go on. -/
theorem meets_breach_bind (b : Breach) (f : β → Capture α) (act' : Capture α) :
    Meets Q (breach b >>= f) act' t t' := by
  intro a u a' u' hout
  obtain ⟨_, _, hbreach, -⟩ := outcome_bind_eq_ok hout
  cases hbreach

theorem meets_bind (h : Meets Q act act' t t')
    (hf : ∀ a u a' u', Q a u a' u' → Meets P (f a) (f' a') u u') :
    Meets P (act >>= f) (act' >>= f') t t' := by
  intro b v b' v' hout hout'
  obtain ⟨a, u, hact, hnext⟩ := outcome_bind_eq_ok hout
  obtain ⟨a', u', hact', hnext'⟩ := outcome_bind_eq_ok hout'
  exact hf a u a' u' (h a u a' u' hact hact') b v b' v' hnext hnext'

theorem meets_imp {Q' : α → Trace → α → Trace → Prop} (h : Meets Q act act' t t')
    (hQ : ∀ a u a' u', Q a u a' u' → Q' a u a' u') : Meets Q' act act' t t' :=
  fun a u a' u' hout hout' => hQ a u a' u' (h a u a' u' hout hout')

theorem meets_map {g g' : α → β} (h : Meets Q act act' t t')
    (hg : ∀ a u a' u', Q a u a' u' → P (g a) u (g' a') u') :
    Meets P (g <$> act) (g' <$> act') t t' := by
  rw [map_eq_pure_bind, map_eq_pure_bind]
  exact meets_bind h fun a u a' u' hQ => meets_pure (hg a u a' u' hQ)

theorem meets_ite (c : Prop) [Decidable c] {other other' : Capture α}
    (h : Meets Q act act' t t') (hother : Meets Q other other' t t') :
    Meets Q (if c then act else other) (if c then act' else other') t t' := by
  by_cases hc : c
  · rw [if_pos hc, if_pos hc]
    exact h
  · rw [if_neg hc, if_neg hc]
    exact hother

end Rules

/-! ## Steps that only look -/

theorem meets_get : Meets (fun a u a' u' => a = t ∧ u = t ∧ a' = t' ∧ u' = t') get get t t' := by
  intro a u a' u' hout hout'
  cases hout
  cases hout'
  exact ⟨rfl, rfl, rfl, rfl⟩

theorem meets_ofExcept (r r' : Except CaptureError α) :
    Meets (fun a u a' u' => r = .ok a ∧ u = t ∧ r' = .ok a' ∧ u' = t') (ofExcept r) (ofExcept r')
      t t' := by
  intro a u a' u' hout hout'
  obtain ⟨hr, rfl⟩ := ofExcept_eq_ok hout
  obtain ⟨hr', rfl⟩ := ofExcept_eq_ok hout'
  exact ⟨hr, rfl, hr', rfl⟩

/-! ## Steps that change the trace -/

section Steps

variable {settings : Config} (h : t.ShadowedBy settings t')

include h

theorem meets_config :
    Meets (fun c u c' u' => c = settings ∧ c' = { settings with placeholderPropagation := true } ∧
      u = t ∧ u' = t') config config t t' := by
  intro c u c' u' hout hout'
  cases hout
  cases hout'
  exact ⟨h.config_eq, h.config_eq', rfl, rfl⟩

theorem meets_node (id : NodeId) :
    Meets (fun n u n' u' => t.graph.nodes[id.index]? = some n ∧
        n.ShadowedBy settings.dynamicShapes n' ∧ u = t ∧ u' = t') (node id) (node id) t t' := by
  intro n u n' u' hout hout'
  obtain ⟨hn, rfl⟩ := node_eq_ok hout
  obtain ⟨hn', rfl⟩ := node_eq_ok hout'
  obtain ⟨found, hfound, hnode⟩ := h.graph.exists_node (Graph.node?_eq_ok hn')
  have hn := Graph.node?_eq_ok hn
  obtain rfl : found = n := Option.some.inj (hfound.symm.trans hn)
  exact ⟨hn, hnode, rfl, rfl⟩

theorem shadows_say (level : Log.Level) (channel : Log.Channel) (text : String) :
    Shadows settings Eq (say level channel text) (say level channel text) t t' := by
  intro a u a' u' hout hout'
  cases hout
  cases hout'
  exact ⟨rfl, h.withWorkshop rfl rfl h.modules⟩

theorem meets_addGuards (guards : GuardSet) :
    Meets (fun _ u _ u' => u.ShadowedBy settings u' ∧ u.graph.nodes = t.graph.nodes ∧
      u'.graph.nodes = t'.graph.nodes) (addGuards guards) (addGuards guards) t t' := by
  intro a u a' u' hout hout'
  cases hout
  cases hout'
  exact ⟨h.withGraph (h.graph.addGuards guards), rfl, rfl⟩

theorem shadows_newIdentity : Shadows settings Eq newIdentity newIdentity t t' := by
  intro a u a' u' hout hout'
  cases hout
  cases hout'
  obtain ⟨hidentity, hgraph⟩ := h.graph.newIdentity
  exact ⟨hidentity.symm, h.withGraph hgraph⟩

theorem shadows_addInput (name : String) (source : Source) :
    Shadows settings Eq (addInput name source) (addInput name source) t t' := by
  intro a u a' u' hout hout'
  cases hout
  cases hout'
  obtain ⟨hid, hgraph⟩ := h.graph.addInput name source
  exact ⟨hid.symm, h.withGraph hgraph⟩

/-- The same operation is recorded under the same identity. It has no example yet, and the operands
agree as they did before. -/
theorem meets_record (target : Target) (args : List Operand) (kwargs : Named Operand) :
    Meets (fun id u id' u' => id' = id ∧ u.ShadowedBy settings u' ∧
        u.graph.nodes[id.index]? = some ⟨id, target, args, kwargs, none⟩ ∧
        ∀ operand ∈ Operand.nodesOfAll args ++ Operand.nodesOfAll kwargs.values,
          t.graph.Agrees t'.graph operand → u.graph.Agrees u'.graph operand)
      (record target args kwargs) (record target args kwargs) t t' := by
  intro id u id' u' hout hout'
  obtain ⟨rfl, hoperands, _, rfl⟩ := record_eq_ok hout
  obtain ⟨rfl, hoperands', _, rfl⟩ := record_eq_ok hout'
  have hgraph := h.graph.append target args kwargs
  refine ⟨h.graph.nextNode_eq, (h.withGraph hgraph).withWorkshop rfl rfl h.modules, ?_, ?_⟩
  · show (t.graph.append target args kwargs).nodes[t.graph.nodes.size]? = _
    rw [Graph.getElem?_nodes_append, if_pos rfl]
  · intro operand hoperand hagrees
    exact hagrees.append (hoperands operand hoperand) (hoperands' operand hoperand) target args
      kwargs

theorem meets_recordItem (id : NodeId) (index : Nat) :
    Meets (fun child u child' u' => child' = child ∧ u.ShadowedBy settings u' ∧
        u.graph.nodes[child.index]? = some ⟨child, .builtin .getItem,
          [.node id, .literal (.int (Word.signed index))], [], none⟩)
      (recordItem id index) (recordItem id index) t t' := by
  refine meets_ite _ ?_ (meets_breach _ _)
  refine meets_imp (meets_record h _ _ _) fun child u child' u' hrecorded => ?_
  obtain ⟨hchild, hu, hn, -⟩ := hrecorded
  exact ⟨hchild, hu, hn⟩

/-- An example and its shadow are written. -/
theorem shadows_setExample (id : NodeId) {v v' : Value}
    (hvalue : v.ShadowedBy (settings.dynamicShapes = true) v') :
    Shadows settings Eq (setExample id v) (setExample id v') t t' := by
  intro _ u _ u' hout hout'
  obtain ⟨g, hset, rfl⟩ := setExample_eq_ok hout
  obtain ⟨g', hset', rfl⟩ := setExample_eq_ok hout'
  exact ⟨rfl, h.withGraph (h.graph.setExample hvalue hset hset')⟩

end Steps

end Capture

end TensorCapture
