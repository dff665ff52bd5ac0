import TensorCapture.Proofs.Graph.WellFormed
import TensorCapture.Proofs.Rerun.Follows
import TensorCapture.Proofs.Unpacking.Created

set_option autoImplicit false

/-! # Classification behind the old nodes

Classifying a node that was just recorded leaves alone every node that was there before it: what
it writes are examples of nodes from a position on, and what it records are subscripts behind
all others. This holds whether or not classification comes to an answer.
-/

namespace TensorCapture

open Capture Trace

/-! ## Nodes from a position on -/

/-- A later trace, in which the nodes before a position are as they were, and every node that was
added is a subscript. -/
structure Trace.Beyond (position : Nat) (t u : Trace) : Prop where
  grows : t.graph.Grows u.graph
  before : ∀ i < position, u.graph.nodes[i]? = t.graph.nodes[i]?
  added : ∀ (i : Nat) (n : Node), t.graph.nodes.size ≤ i → u.graph.nodes[i]? = some n →
    n.target = .builtin .getItem

namespace Trace

variable {position : Nat} {t u : Trace}

instance : IsPreorder Trace (Beyond position) where
  refl t := by
    refine ⟨.refl _, fun _ _ => rfl, fun i n hi hn => ?_⟩
    have hlt := (Array.getElem?_eq_some_iff.mp hn).1
    omega
  trans t u v h h' := by
    refine ⟨h.grows.trans h'.grows, fun i hi => (h'.before i hi).trans (h.before i hi),
      fun i n hi hn => ?_⟩
    by_cases hlt : i < u.graph.nodes.size
    · -- the node was added before, and its target is what it was
      have hbefore : u.graph.nodes[i]? = some u.graph.nodes[i] := Array.getElem?_eq_getElem hlt
      obtain ⟨n', hn', hgrows⟩ := h'.grows.node i _ hbefore
      obtain rfl : n = n' := Option.some.inj (hn.symm.trans hn')
      rw [hgrows.target_eq]
      exact h.added i _ hi hbefore
    · exact h'.added i n (by omega) hn

theorem Beyond.size_le (h : t.Beyond position u) : t.graph.nodes.size ≤ u.graph.nodes.size := by
  refine Nat.le_of_not_lt fun hlt => ?_
  have hlast : t.graph.nodes[u.graph.nodes.size]? = some t.graph.nodes[u.graph.nodes.size] :=
    Array.getElem?_eq_getElem hlt
  obtain ⟨n, hn, -⟩ := h.grows.node _ _ hlast
  have hbound := (Array.getElem?_eq_some_iff.mp hn).1
  omega

/-- With the same nodes nothing was added. -/
theorem Beyond.of_nodes_eq (hgrows : t.graph.Grows u.graph)
    (hnodes : u.graph.nodes = t.graph.nodes) : t.Beyond position u := by
  refine ⟨hgrows, fun i _ => by rw [hnodes], fun i n hi hn => ?_⟩
  rw [hnodes] at hn
  have hlt := (Array.getElem?_eq_some_iff.mp hn).1
  omega

/-- The nodes that were there come first, and the others are subscripts. -/
theorem Beyond.nodes_eq (h : t.Beyond t.graph.nodes.size u) :
    ∃ new, u.graph.nodes.toList = t.graph.nodes.toList ++ new ∧
      ∀ n ∈ new, n.target = .builtin .getItem := by
  refine ⟨u.graph.nodes.toList.drop t.graph.nodes.size, ?_, fun n hn => ?_⟩
  · have hfirst : u.graph.nodes.toList.take t.graph.nodes.size = t.graph.nodes.toList := by
      refine List.ext_getElem? fun i => ?_
      by_cases hi : i < t.graph.nodes.size
      · simpa [List.getElem?_take, hi] using h.before i hi
      · have hle : t.graph.nodes.size ≤ i := Nat.not_lt.mp hi
        rw [List.getElem?_eq_none (Nat.le_trans (List.length_take_le _ _) hle),
          List.getElem?_eq_none (by simpa using hle)]
    calc u.graph.nodes.toList
        = u.graph.nodes.toList.take t.graph.nodes.size ++
            u.graph.nodes.toList.drop t.graph.nodes.size := (List.take_append_drop _ _).symm
      _ = t.graph.nodes.toList ++ u.graph.nodes.toList.drop t.graph.nodes.size := by rw [hfirst]
  · obtain ⟨i, hi⟩ := List.mem_iff_getElem?.mp hn
    rw [List.getElem?_drop] at hi
    exact h.added _ n (Nat.le_add_right _ i) (by simpa using hi)

end Trace

/-! ## Classification behind the old nodes -/

namespace Capture

variable {α β : Type} {position : Nat} {t : Trace} {id : NodeId} {items : Capture (List Variable)}

theorem beyond_bind {act : Capture α} {f : α → Capture β}
    (h : t.Beyond position (act.outcome t).2)
    (hf : ∀ a u, act.outcome t = (.ok a, u) → t.Beyond position u →
      u.Beyond position ((f a).outcome u).2) :
    t.Beyond position ((act >>= f).outcome t).2 := by
  refine related_bind h fun a u hout => hf a u hout ?_
  rw [hout] at h
  exact h

/-- A step that reaches a trace with the same nodes. -/
theorem beyond_of_nodes_eq {act : Capture α} (h : Keeps (Reaches fun _ => True) act)
    (hnodes : (act.outcome t).2.graph.nodes = t.graph.nodes) :
    t.Beyond position (act.outcome t).2 :=
  .of_nodes_eq (h t).grows hnodes

theorem beyond_say (level : Log.Level) (channel : Log.Channel) (text : String) :
    t.Beyond position ((say level channel text).outcome t).2 :=
  beyond_of_nodes_eq (reaches_say level channel text) rfl

theorem beyond_setExample (hid : position ≤ id.index) (e : Value) :
    t.Beyond position ((setExample id e).outcome t).2 := by
  have hreaches : Keeps (Reaches fun _ => True) (setExample id e) := reaches_setExample id e
  have hgrows := (hreaches t).grows
  unfold setExample at hgrows ⊢
  rw [outcome_bind_ok (outcome_get t)] at hgrows ⊢
  cases hset : t.graph.setExample id e with
  | error fault => exact Std.Refl.refl t
  | ok g =>
      rw [hset] at hgrows
      refine ⟨hgrows, fun i hi => ?_, fun i n hi hn => ?_⟩
      · have hnodes := Graph.getElem?_nodes_setExample hset i
        rw [if_neg (by omega)] at hnodes
        exact hnodes
      · have hsize := Graph.size_nodes_setExample hset
        have hlt : i < g.nodes.size := (Array.getElem?_eq_some_iff.mp hn).1
        omega

theorem beyond_recordItem (hposition : position ≤ t.graph.nodes.size) (index : Nat) :
    t.Beyond position ((recordItem id index).outcome t).2 := by
  have hgrows := (reaches_parts.recordItem (R := Reaches fun _ => True) id index t).grows
  unfold recordItem at hgrows ⊢
  split at hgrows
  · rename_i hindex
    rw [if_pos hindex]
    unfold record at hgrows ⊢
    rw [outcome_bind_ok (outcome_get t)] at hgrows ⊢
    cases hrec : t.graph.record (.builtin .getItem)
        [.node id, .literal (.int (Word.signed index))] [] with
    | error fault => exact Std.Refl.refl t
    | ok recorded =>
        obtain ⟨child, g⟩ := recorded
        rw [hrec] at hgrows
        obtain ⟨rfl, -⟩ := Graph.record_eq_ok hrec
        refine ⟨hgrows, fun i hi => ?_, fun i n hi hn => ?_⟩
        · have hnodes := t.graph.getElem?_nodes_append (.builtin .getItem)
            [.node id, .literal (.int (Word.signed index))] [] i
          rw [if_neg (by omega)] at hnodes
          exact hnodes
        · change (t.graph.append _ _ _).nodes[i]? = some n at hn
          rw [Graph.getElem?_nodes_append] at hn
          split at hn
          · rw [← Option.some.inj hn]
          · have hlt := (Array.getElem?_eq_some_iff.mp hn).1
            omega
  · rename_i hindex
    rw [if_neg hindex]
    exact Std.Refl.refl t

/-- The node of a subscript comes behind the nodes that were there. -/
theorem index_of_recordItem {index : Nat} {child : NodeId} {u : Trace}
    (h : (recordItem id index).outcome t = (.ok child, u)) : child.index = t.graph.nodes.size := by
  unfold recordItem at h
  split at h
  · unfold record at h
    obtain ⟨_, _, hget, hrest⟩ := outcome_bind_eq_ok h
    cases hget
    obtain ⟨⟨recorded, g⟩, _, hchecked, hwrite⟩ := outcome_bind_eq_ok hrest
    obtain ⟨hrecord, rfl⟩ := ofExcept_eq_ok hchecked
    cases hwrite
    unfold Graph.record at hrecord
    split at hrecord
    · cases hrecord
    · cases hrecord
      rfl
  · cases h

section Rules

variable (role : TensorRole) (p : Provenance) (hid : position ≤ id.index)

include hid

theorem beyond_setExample_pure (e : Value) (answer : α) :
    t.Beyond position ((do setExample id e; return answer : Capture α).outcome t).2 :=
  beyond_bind (beyond_setExample hid e) fun _ u _ _ => keeps_pure _ u

theorem beyond_buildTensor (supplied : Option Tensor) (x : Tensor) :
    t.Beyond position ((buildTensor role p id supplied x).outcome t).2 :=
  beyond_bind (keeps_config t) fun _ _ _ _ => beyond_setExample_pure hid _ _

end Rules

/-- Extents are recorded behind the old nodes, and their own nodes get examples. -/
theorem beyond_buildExtents (hposition : position ≤ t.graph.nodes.size) (index : Nat)
    (extents : List Nat) : t.Beyond position ((buildExtents id index extents).outcome t).2 := by
  induction extents generalizing t index with
  | nil => exact keeps_pure _ t
  | cons extent rest ih =>
      refine beyond_bind (beyond_recordItem hposition index) fun child u hout hu => ?_
      have hchild := index_of_recordItem hout
      have hsize := hu.size_le
      by_cases hextent : extent < Word.signedBound
      · simp only [hextent, if_true]
        refine beyond_bind (beyond_setExample (by omega) _) fun _ v _ hv => ?_
        have hlater := hv.size_le
        exact beyond_bind (ih (by omega) (index + 1)) fun _ w _ _ => keeps_pure _ w
      · simp only [hextent, if_false]
        exact beyond_bind (keeps_breach _ u) fun _ _ hbreach _ => by cases hbreach

theorem beyond_containerProvenance (kind : ContainerKind) (p : Provenance) :
    t.Beyond position ((containerProvenance kind p).outcome t).2 := by
  refine beyond_of_nodes_eq (reaches_parts.containerProvenance kind p) ?_
  unfold containerProvenance
  split <;> rfl

section Classify

variable (role : TensorRole) (p : Provenance)

/-- A container is made of its items once these are walked behind the old nodes. -/
theorem beyond_contents (kind : ContainerKind) (hitems : t.Beyond position (items.outcome t).2) :
    t.Beyond position ((do
      let contents ← items
      return .container kind contents none (← containerProvenance kind p) :
        Capture Variable).outcome t).2 :=
  beyond_bind hitems fun _ _ _ _ =>
    beyond_bind (beyond_containerProvenance kind p) fun _ v _ _ => keeps_pure _ v

theorem beyond_buildSequence (kind : ContainerKind) (e : Value) (hid : position ≤ id.index)
    (hposition : position ≤ t.graph.nodes.size)
    (hitems : ∀ u : Trace, position ≤ u.graph.nodes.size → u.Beyond position (items.outcome u).2) :
    t.Beyond position ((buildSequence p id kind e items).outcome t).2 := by
  refine beyond_bind (beyond_setExample hid e) fun _ u _ hu => ?_
  have hsize := hu.size_le
  exact beyond_contents p kind (hitems u (by omega))

theorem beyond_buildAs (target : Target) (supplied : Option Tensor) (erased : Bool)
    (value : Value) (rule : Rule) (hid : position ≤ id.index)
    (hposition : position ≤ t.graph.nodes.size)
    (hitems : ∀ u : Trace, position ≤ u.graph.nodes.size → u.Beyond position (items.outcome u).2) :
    t.Beyond position
      ((buildAs role p id target supplied erased value items rule).outcome t).2 := by
  unfold buildAs
  split
  · exact beyond_buildTensor role p hid supplied _
  · refine beyond_bind (beyond_setExample hid _) fun _ u _ hu => ?_
    have hsize := hu.size_le
    exact beyond_bind (beyond_buildExtents (by omega) 0 _) fun _ w _ _ => keeps_pure _ w
  · exact beyond_setExample_pure hid _ _
  · exact beyond_buildSequence p _ _ hid hposition hitems
  · exact beyond_buildSequence p _ _ hid hposition hitems
  · exact beyond_buildSequence p _ _ hid hposition hitems
  · exact keeps_pure _ t
  · split
    · exact beyond_setExample_pure hid _ _
    · exact beyond_setExample_pure hid _ _
    · exact beyond_setExample_pure hid _ _
    · refine beyond_bind (keeps_config t) fun config u hout _ => ?_
      exact beyond_bind (beyond_say _ _ _) fun _ v _ _ => beyond_buildTensor _ p hid _ _
    · exact keeps_breach _ t

theorem beyond_classifyWith (target : Target) (supplied : Option Tensor) (erased : Bool)
    (value : Value) (hid : position ≤ id.index) (hposition : position ≤ t.graph.nodes.size)
    (hitems : ∀ u : Trace, position ≤ u.graph.nodes.size → u.Beyond position (items.outcome u).2) :
    t.Beyond position
      ((classifyWith role p id target supplied erased value items).outcome t).2 := by
  refine beyond_bind (keeps_config t) fun config u _ hu => ?_
  have hsize := hu.size_le
  split
  · exact keeps_breach _ u
  · refine beyond_bind (beyond_say _ _ _) fun _ v _ hv => ?_
    have hlater := hv.size_le
    exact beyond_buildAs role p target supplied erased value _ hid (by omega) hitems

mutual

/-- Classifying a node behind the position leaves alone what is before it. -/
theorem beyond_classify {t : Trace} {id : NodeId} (target : Target) (supplied : Option Tensor)
    (erased : Bool) (value : Value) (hid : position ≤ id.index)
    (hposition : position ≤ t.graph.nodes.size) :
    t.Beyond position ((classify role p id target supplied erased value).outcome t).2 := by
  cases value with
  | tuple vs =>
      exact beyond_classifyWith role p target _ _ _ hid hposition fun u hu =>
        beyond_classifyItems erased 0 vs hu
  | list vs =>
      exact beyond_classifyWith role p target _ _ _ hid hposition fun u hu =>
        beyond_classifyItems erased 0 vs hu
  | record type vs =>
      exact beyond_classifyWith role p target _ _ _ hid hposition fun u hu =>
        beyond_classifyItems erased 0 vs hu
  | _ => exact beyond_classifyWith role p target _ _ _ hid hposition fun u _ => keeps_pure _ u

/-- The items of a container get nodes behind those that are there. -/
theorem beyond_classifyItems {t : Trace} {id : NodeId} (erased : Bool) (index : Nat)
    (vs : List Value) (hposition : position ≤ t.graph.nodes.size) :
    t.Beyond position ((classifyItems role p id erased index vs).outcome t).2 := by
  cases vs with
  | nil => exact keeps_pure _ t
  | cons item rest =>
      unfold classifyItems
      have others (first : Variable) (u : Trace) (hu : position ≤ u.graph.nodes.size) :
          u.Beyond position ((do
            let others ← classifyItems role p id erased (index + 1) rest
            return first :: others : Capture (List Variable)).outcome u).2 :=
        beyond_bind (beyond_classifyItems erased (index + 1) rest hu) fun _ v _ _ => keeps_pure _ v
      split
      · exact others _ t hposition
      · refine beyond_bind (beyond_recordItem hposition index) fun child u hout hu => ?_
        have hchild := index_of_recordItem hout
        have hsize := hu.size_le
        have hguards : u.Beyond position ((addGuards p.guards).outcome u).2 :=
          beyond_of_nodes_eq (reaches_addGuards p.guards) rfl
        refine beyond_bind hguards fun _ v _ hv => ?_
        have hsize' := hv.size_le
        refine beyond_bind (keeps_config v) fun config w hconfig _ => ?_
        cases hconfig
        refine beyond_bind (beyond_classify (.builtin .getItem) (prepared erased item).toTensor?
          v.config.placeholderPropagation item (by omega) (by omega)) fun first z _ hz =>
            others first z ?_
        have hsize'' := hz.size_le
        omega

end

end Classify

end Capture

end TensorCapture
