import TensorCapture.Proofs.Elements.Rows
import TensorCapture.Proofs.Extents.Asked

set_option autoImplicit false

/-! # Rows that a trace unpacks

A trace unpacks a tensor whose extents it knows by recording a subscript for each position along the
first axis. Each subscript is run as it is classified, so the example of its node is the row that
the library gives, and the rows come behind the nodes that were there, in order. The library is in
the same mode for all of them.
-/

namespace TensorCapture

/-! ## Later traces -/

namespace Trace

variable {t u : Trace} {id : NodeId} {e : Value} {new : List Node}

/-- The nodes that were there keep their examples. -/
theorem Adds.stored (h : t.Adds new u) (he : t.graph.stored? id = some e) :
    u.graph.stored? id = some e := by
  obtain ⟨n, hn, hexample⟩ := Option.bind_eq_some_iff.mp he
  refine Option.bind_eq_some_iff.mpr ⟨n, ?_, hexample⟩
  have hlt : id.index < t.graph.nodes.toList.length := (Array.getElem?_eq_some_iff.mp hn).1
  rw [← Array.getElem?_toList, h.nodes_eq, List.getElem?_append_left hlt, Array.getElem?_toList]
  exact hn

end Trace

/-- The tensor as a trace uses it: without elements where it uses placeholders. -/
def Tensor.called (placeholders : Bool) (x : Tensor) : Tensor :=
  if placeholders then x.erase else x

theorem Tensor.size_called (placeholders : Bool) (x : Tensor) :
    (x.called placeholders).size = x.size := by
  cases placeholders <;> rfl

theorem Tensor.wellFormed_called {x : Tensor} (h : x.WellFormed) (placeholders : Bool) :
    (x.called placeholders).WellFormed := by
  cases placeholders with
  | false => exact h
  | true => exact ⟨h.1, trivial⟩

theorem Capture.prepared_tensor_eq (placeholders : Bool) (x : Tensor) :
    prepared placeholders (.tensor x) = .tensor (x.called placeholders) := by
  cases placeholders <;> rfl

namespace Capture

open Trace

variable {α : Type} {c : Prop} {t : Trace} {id : NodeId} {P : α → Trace → Prop}

/-- A trace that goes on keeps its library. -/
theorem answersIff_continues {act : Capture α} (h : AnswersIff c act t P)
    (hact : Keeps (Follows fun _ => False) act) :
    AnswersIff c act t fun a u => P a u ∧ u.library = t.library := by
  have hcontinues := (hact t).continues
  rcases h with ⟨hc, a, u, hout, ha⟩ | herror
  · rw [hout] at hcontinues
    exact .inl ⟨hc, a, u, hout, ha, hcontinues.library_eq⟩
  · exact .inr herror

/-! ## One row -/

/-- A node whose example value is a tensor is classified as that tensor. -/
theorem answersIff_create_tensor {n : Node} {x : Tensor} {p : Provenance}
    (hdynamic : t.config.dynamicPropagation = true) (hnode : t.graph.nodes[id.index]? = some n)
    (hexample : n.example? = none) (hclass : x.runtimeClass = .tensor)
    (hgot : ((exampleValue id none none).outcome (t.merging p)).1 = .ok (.tensor x)) :
    AnswersIff True (create id none none .plain p) t fun v u =>
      v = .tensor ⟨id, some (x.captured t.config), none, .plain, p⟩ ∧
        t.Fills id (.tensor x) [] u := by
  have hcreate : AnswersIff True (create id none none .plain p) t
      (Stands .plain p t id (.tensor x)) := by
    refine answersIff_create_of_example hdynamic hnode hexample hgot fun u hu => ?_
    have hlacks := lacks_after hu ⟨n, hnode, hexample⟩
    refine answersIff_classifyWith .plain p (Rule.first?_tensor _ _ x) fun w hw => ?_
    have hbuild := answersIff_buildTensor .plain p (lacks_after hw hlacks) none x
    refine answersIff_imp hbuild fun v z hv => ?_
    obtain ⟨rfl, hfills⟩ := hv
    have hunpacks : Unpacks w.config .plain p id w.graph.nodes.size (.tensor x) (.tensor
        ⟨id, some (x.captured w.config), if x.runtimeClass = .parameter then some x else none,
          .plain, p⟩) [] := .tensor id _ x
    rw [hclass] at hunpacks ⊢
    exact ⟨[], hunpacks, hfills⟩
  refine answersIff_imp hcreate fun v u hv => ?_
  obtain ⟨new, hunpacks, hfills⟩ := hv
  cases hunpacks with
  | tensor =>
      rw [hclass]
      exact ⟨rfl, hfills⟩
  | number id next hdynamic hnumber => cases hnumber

/-- The subscript that a trace records of a node, once it is run, has the row as its example. -/
theorem answersIff_create_row {u : Trace} {y : NodeId} {e : Value} {index : Nat} {x : Tensor}
    {p : Provenance} (hdynamic : t.config.dynamicPropagation = true)
    (hstored : t.graph.stored? y = some e) (hclass : x.runtimeClass = .tensor)
    (hrow : Kernel.subscript (t.running t.config.placeholderPropagation).mode
      (prepared t.config.placeholderPropagation e) (.int (Word.signed index)) = .ok (.tensor x))
    (hadds : t.Adds [.subscript ⟨t.graph.nodes.size⟩ y index none] u)
    (hlibrary : u.library = t.library) :
    AnswersIff True (create ⟨t.graph.nodes.size⟩ none none .plain p) u fun v w =>
      v = .tensor ⟨⟨t.graph.nodes.size⟩, some (x.captured t.config), none, .plain, p⟩ ∧
        t.Adds [.subscript ⟨t.graph.nodes.size⟩ y index (some (.tensor x))] w := by
  have hnode : u.graph.nodes[t.graph.nodes.size]? =
      some (.subscript ⟨t.graph.nodes.size⟩ y index none) := by
    rw [← Array.getElem?_toList, hadds.nodes_eq]
    simp
  have hstored' : (u.merging p).graph.stored? y = some e := hadds.stored hstored
  have hoperands : (u.merging p).graph.resolveOperands
      (.subscript ⟨t.graph.nodes.size⟩ y index none) =
        .ok ([e, .int (Word.signed index)], []) := by
    have hargs : (u.merging p).graph.resolveAll [.node y, .literal (.int (Word.signed index))] =
        .ok [e, .int (Word.signed index)] := by
      unfold Graph.resolveAll
      rw [resolve_node hstored']
      rfl
    unfold Graph.resolveOperands Node.subscript
    simp only [hargs]
    rfl
  have hconfig : (u.merging p).config = t.config := hadds.config_eq
  have hrunning : (u.merging p).running t.config.placeholderPropagation =
      t.running t.config.placeholderPropagation := by
    unfold running
    rw [show (u.merging p).library = t.library from hlibrary]
  have hkernel : (u.merging p).kernel? (.builtin .getItem)
      ([e, .int (Word.signed index)].map (prepared (u.merging p).config.placeholderPropagation))
      (Named.mapValues (prepared (u.merging p).config.placeholderPropagation) [])
      (u.merging p).config.placeholderPropagation = some (.ok (.tensor x)) := by
    have hliteral : prepared t.config.placeholderPropagation (.int (Word.signed index)) =
        .int (Word.signed index) := by
      cases t.config.placeholderPropagation <;> rfl
    rw [hconfig, List.map_cons, List.map_singleton, hliteral, ← hrow, ← hrunning]
    rfl
  have hgot := exampleValue_of_kernel (node?_merging hnode p) hoperands hkernel
  have hcreate := answersIff_create_tensor (p := p) (hadds.config_eq ▸ hdynamic) hnode rfl hclass
    hgot
  refine answersIff_imp hcreate fun v w hv => ?_
  obtain ⟨rfl, hfills⟩ := hv
  rw [hadds.config_eq]
  exact ⟨rfl, hadds.fills hfills⟩

/-! ## All rows -/

/-- Rows from an index on are recorded one after the other. -/
theorem answersIff_unpackFrom (v : SymbolicTensor) {e : Value} {row : Nat → Tensor}
    (hclass : ∀ k, (row k).runtimeClass = .tensor) (count index : Nat)
    (hindex : index + count ≤ Word.signedBound) (hdynamic : t.config.dynamicPropagation = true)
    (hstored : t.graph.stored? v.node = some e)
    (hrow : ∀ k, index ≤ k → k < index + count →
      Kernel.subscript (t.running t.config.placeholderPropagation).mode
        (prepared t.config.placeholderPropagation e) (.int (Word.signed k)) =
          .ok (.tensor (row k))) :
    AnswersIff True (unpackFrom v index count) t fun vs u =>
      vs = (List.range count).map (fun k => .tensor
        ⟨⟨t.graph.nodes.size + k⟩, some ((row (index + k)).captured t.config), none, .plain,
          v.propagated⟩) ∧
      t.Adds ((List.range count).map fun k =>
        .subscript ⟨t.graph.nodes.size + k⟩ v.node (index + k)
          (some (.tensor (row (index + k))))) u := by
  induction count generalizing t index with
  | zero => exact answersIff_pure ⟨rfl, .refl t⟩
  | succ count ih =>
      have hid : v.node.index < t.graph.nodes.size := by
        obtain ⟨n, hn, -⟩ := Option.bind_eq_some_iff.mp hstored
        exact (Array.getElem?_eq_some_iff.mp hn).1
      have hword : index < Word.signedBound := by omega
      have hrecord := answersIff_continues (answersIff_recordItem hid hword)
        (follows_recordItem v.node index)
      refine answersIff_after hrecord fun child u hu => ?_
      obtain ⟨⟨rfl, hrecorded⟩, hlibrary⟩ := hu
      have hfirst := hrow index (Nat.le_refl index) (by omega)
      have hcreate := answersIff_continues
        (answersIff_create_row (p := v.propagated) hdynamic hstored (hclass index) hfirst
          hrecorded hlibrary)
        (follows_create (.inr ⟨rfl, rfl⟩) .plain v.propagated)
      refine answersIff_after hcreate fun item w hw => ?_
      obtain ⟨⟨rfl, hadds⟩, hlibrary'⟩ := hw
      -- the trace goes on with the same settings and the same library
      have hrunning : w.running t.config.placeholderPropagation =
          t.running t.config.placeholderPropagation := by
        unfold running
        rw [hlibrary', hlibrary]
      have hothers := ih (t := w) (index + 1) (by omega)
        (hadds.config_eq ▸ hdynamic) (hadds.stored hstored) (by
          intro k hk hk'
          rw [hadds.config_eq, hrunning]
          exact hrow k (by omega) (by omega))
      refine answersIff_before hothers fun others z hz => ?_
      obtain ⟨rfl, hrest⟩ := hz
      -- the other rows are numbered from one node further on
      have hsize : w.graph.nodes.size = t.graph.nodes.size + 1 := hadds.size_eq
      have hall := hadds.trans hrest
      refine answersIff_pure ⟨?_, ?_⟩
      · rw [hsize, hadds.config_eq, List.range_succ_eq_map, List.map_cons, List.map_map]
        simp [Nat.add_assoc, Nat.add_comm 1]
      · rw [hsize] at hall
        rw [List.range_succ_eq_map, List.map_cons, List.map_map]
        simpa [Function.comp_def, Nat.add_assoc, Nat.add_comm 1] using hall

/-- The rows of a tensor, as a trace unpacks it. -/
def unpackedRow (t : Trace) (x : Tensor) (k : Nat) : Tensor :=
  (x.called t.config.placeholderPropagation).row
    (t.running t.config.placeholderPropagation).mode k

/-- A tensor whose extents are known is unpacked into a subscript for each row, and each of these
has the row as its example. -/
theorem answersIff_unpack {v : SymbolicTensor} {x : Tensor} {first : Nat} {rest : List Nat}
    (hrole : ∀ c, v.role ≠ .symbolicNumber c) (hextents : v.size? = some (first :: rest))
    (hdynamic : t.config.dynamicPropagation = true)
    (hstored : t.graph.stored? v.node = some (.tensor x)) (h : x.WellFormed)
    (hsize : x.size = first :: rest) (hfirst : first < Word.signedBound)
    {row : Nat} (hrow : Word.product? rest = some row) :
    AnswersIff True (unpack v) t fun vs u =>
      vs = (List.range first).map (fun k => .tensor
        ⟨⟨t.graph.nodes.size + k⟩, some ((unpackedRow t x k).captured t.config), none, .plain,
          v.propagated⟩) ∧
      t.Adds ((List.range first).map fun k =>
        .subscript ⟨t.graph.nodes.size + k⟩ v.node k (some (.tensor (unpackedRow t x k)))) u := by
  have hunpack : unpack v = unpackFrom v 0 first := by
    unfold unpack
    rw [hextents]
    cases hcase : v.role with
    | symbolicNumber c => exact absurd hcase (hrole c)
    | _ => rfl
  have hsame : (x.called t.config.placeholderPropagation).size = first :: rest :=
    (Tensor.size_called _ x).trans hsize
  have hclass : ∀ k, (unpackedRow t x k).runtimeClass = .tensor := fun _ => rfl
  have hrows := answersIff_unpackFrom v hclass first 0 (by omega) hdynamic hstored (by
      intro k _ hk
      rw [prepared_tensor_eq]
      exact Kernel.subscript_signed_eq (Tensor.wellFormed_called h _) hsame hfirst
        (fun _ => ⟨row, hrow⟩) (by omega))
  rw [hunpack]
  simpa using hrows

end Capture

end TensorCapture
