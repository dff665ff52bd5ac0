import Mathlib.Data.List.Forall2
import TensorCapture.Proofs.Folding.Positions
import TensorCapture.Proofs.Operands.Usable
import TensorCapture.Proofs.Rerun.Calls
import TensorCapture.Proofs.Unpacking.Refused

set_option autoImplicit false

/-! # What variables tell of extents

An extent is a number without a bound, and what a variable says of it is a signed word: a literal,
or the example of a symbolic number. The word is the extent exactly where the extent is a signed
word. A size tells each of its extents in this sense, and so does each item that is taken out of it,
now and in any later graph.

Classifying a node whose example is a size makes such a variable. Where sizes are literals it always
does. Where the extents are to be symbolic it does if and only if all of them are signed words.
-/

namespace TensorCapture

open Capture Trace

/-! ## Signed words -/

/-- Reading an extent as a signed word keeps it exactly where it is one. -/
theorem Word.toInt_signed_iff {n : Nat} : (signed n).toInt = n ↔ n < signedBound := by
  constructor
  · intro hsame
    have hlt := (signed n).toInt_lt
    unfold signedBound
    omega
  · exact Kernel.toInt_signed

namespace Variable

/-- The variable is an integer, a literal or by its example, that is the extent exactly where the
extent is a signed word. -/
def Tells (g : Graph) (v : Variable) (extent : Nat) : Prop :=
  ∃ i : Int64, v.reify? g = some (.int i) ∧ (i.toInt = extent ↔ extent < Word.signedBound)

/-- The variable is a container whose items tell the extents, in order. -/
def TellsAll (g : Graph) (v : Variable) (extents : List Nat) : Prop :=
  ∃ kind items node p, v = .container kind items node p ∧
    List.Forall₂ (fun item extent => item.Tells g extent) items extents

variable {g g' : Graph} {v index item : Variable} {extent : Nat} {extents : List Nat}

theorem tells_of_reify (h : v.reify? g = some (.int (Word.signed extent))) : v.Tells g extent :=
  ⟨_, h, Word.toInt_signed_iff⟩

theorem tells_constant (g : Graph) (extent : Nat) (p : Provenance) :
    (constant (.int (Word.signed extent)) p).Tells g extent := tells_of_reify rfl

/-- Guards do not matter. -/
theorem reify?_withProvenance (v : Variable) (p : Provenance) (g : Graph) :
    (v.withProvenance p).reify? g = v.reify? g := by
  cases v <;> simp [withProvenance, reify?]

theorem Tells.addGuards (h : v.Tells g extent) (guards : GuardSet) :
    (v.addGuards guards).Tells g extent := by
  obtain ⟨i, hreify, hsame⟩ := h
  exact ⟨i, (reify?_withProvenance v _ g).trans hreify, hsame⟩

theorem TellsAll.addGuard (h : v.TellsAll g extents) (guard : Guard) :
    (v.addGuard guard).TellsAll g extents := by
  obtain ⟨kind, items, node, p, rfl, hitems⟩ := h
  exact ⟨kind, items, node, _, rfl, hitems⟩

mutual

/-- What a variable denotes it denotes in any later graph. -/
theorem reify?_mono (hgrows : g.Grows g') (v : Variable) {value : Value}
    (h : v.reify? g = some value) : v.reify? g' = some value := by
  cases v with
  | tensor x => exact hgrows.stored h
  | constant literal p => exact h
  | container kind items node p =>
      obtain ⟨values, hvalues, rfl⟩ := Option.map_eq_some_iff.mp h
      exact Option.map_eq_some_iff.mpr ⟨values, reifyAll?_mono hgrows items hvalues, rfl⟩
  | object value p => exact h
  | override wrapped origin hook subclass p => exact reify?_mono hgrows wrapped h
  | _ => cases h

theorem reifyAll?_mono (hgrows : g.Grows g') (vs : List Variable) {values : List Value}
    (h : reifyAll? g vs = some values) : reifyAll? g' vs = some values := by
  cases vs with
  | nil => exact h
  | cons v rest =>
      unfold reifyAll? at h ⊢
      cases hfirst : v.reify? g with
      | none =>
          rw [hfirst] at h
          cases h
      | some value =>
          cases hrest : reifyAll? g rest with
          | none =>
              rw [hfirst, hrest] at h
              cases h
          | some others =>
              rw [hfirst, hrest] at h
              rw [reify?_mono hgrows v hfirst, reifyAll?_mono hgrows rest hrest]
              exact h

end

theorem Tells.mono (h : v.Tells g extent) (hgrows : g.Grows g') : v.Tells g' extent := by
  obtain ⟨i, hreify, hsame⟩ := h
  exact ⟨i, reify?_mono hgrows v hreify, hsame⟩

theorem TellsAll.mono (h : v.TellsAll g extents) (hgrows : g.Grows g') : v.TellsAll g' extents := by
  obtain ⟨kind, items, node, p, rfl, hitems⟩ := h
  exact ⟨kind, items, node, p, rfl, hitems.imp fun _ _ hitem => hitem.mono hgrows⟩

/-- An index that is not resolved selects no item. -/
theorem TellsAll.itemAt_eq_error (h : v.TellsAll g extents) {e : CaptureError}
    (hposition : resolveIndex index extents.length = .error e) : v.itemAt index = .error e := by
  obtain ⟨kind, items, node, p, rfl, hitems⟩ := h
  unfold Variable.itemAt
  dsimp only
  rw [hitems.length_eq, hposition]
  rfl

/-- The item at the position that the index resolves to tells the extent there. -/
theorem TellsAll.exists_itemAt (h : v.TellsAll g extents) {position : Nat}
    (hposition : resolveIndex index extents.length = .ok position) :
    ∃ item extent, v.itemAt index = .ok item ∧ extents[position]? = some extent ∧
      item.Tells g extent := by
  obtain ⟨kind, items, node, p, rfl, hitems⟩ := h
  have hlt : position < extents.length := lt_of_resolveIndex hposition
  have hlt' : position < items.length := by rwa [hitems.length_eq]
  have htells : items[position].Tells g extents[position] := hitems.get hlt' hlt
  refine ⟨_, _, ?_, List.getElem?_eq_getElem hlt, htells.addGuards (p.guards ∪ index.guards)⟩
  unfold Variable.itemAt
  dsimp only
  rw [hitems.length_eq, hposition]
  show Except.ok ((items[position]?.getD index).addGuards (p.guards ∪ index.guards)) = _
  rw [List.getElem?_eq_getElem hlt']
  rfl

/-- A size of literals tells its extents. -/
theorem tellsAll_ofExtents (g : Graph) (kind : ContainerKind) (extents : List Nat)
    (p : Provenance) : (ofExtents kind extents p).TellsAll g extents := by
  refine ⟨kind, _, none, p, rfl, List.forall₂_map_left_iff.mpr ?_⟩
  exact List.forall₂_same.mpr fun extent _ => tells_constant g extent .none

end Variable

/-! ## Classified sizes and integers -/

namespace Capture

variable {t u : Trace} {id : NodeId} {role : TensorRole} {p : Provenance} {v : Variable}

/-- The node has the value that was filled in as its example. -/
theorem stored_of_fills {e : Value} {new : List Node} (hid : id.index < t.graph.nodes.size)
    (h : t.Fills id e new u) : u.graph.stored? id = some e := by
  have hlt : id.index < t.graph.nodes.toList.length := by simpa using hid
  unfold Graph.stored?
  rw [← Array.getElem?_toList, h.nodes_eq, Graph.nodesWith, List.getElem?_append_left (by simpa)]
  simp [List.getElem?_eq_getElem hlt]

/-- A node behind those that were there has the example that it was filled in with. -/
theorem stored_of_fills_new {e : Value} {new : List Node} {k : Nat} {n : Node}
    (h : t.Fills id e new u) (hn : new[k]? = some n) :
    u.graph.stored? ⟨t.graph.nodes.size + k⟩ = n.example? := by
  have hlength : (t.graph.nodesWith id e).length = t.graph.nodes.size := by
    simp [Graph.nodesWith]
  unfold Graph.stored?
  rw [← Array.getElem?_toList, h.nodes_eq, List.getElem?_append_right (by simp [hlength]), hlength]
  simp [hn]

/-- What stands for a size tells its extents. -/
theorem Stands.tellsAll {extents : List Nat} (h : Stands role p t id (.size extents) v u) :
    v.TellsAll u.graph extents := by
  obtain ⟨new, hunpacks, hfills⟩ := h
  cases hunpacks with
  | number _ _ _ hnumber => cases hnumber
  | size _ _ _ _ => exact Variable.tellsAll_ofExtents u.graph .size extents p
  | symbolicSize _ _ _ _ =>
      refine ⟨.size, _, _, p, rfl, List.forall₂_iff_get.mpr ⟨by simp, fun k hk hk' => ?_⟩⟩
      refine Variable.tells_of_reify ?_
      simp only [List.get_eq_getElem, List.getElem_mapIdx]
      show u.graph.stored? ⟨t.graph.nodes.size + k⟩ = _
      rw [stored_of_fills_new hfills (List.getElem?_eq_getElem (by simpa using hk'))]
      simp [Node.subscript]

/-- What stands for an integer is that integer. -/
theorem Stands.reify {i : Int64} (h : Stands role p t id (.int i) v u)
    (hid : id.index < t.graph.nodes.size) : v.reify? u.graph = some (.int i) := by
  obtain ⟨new, hunpacks, hfills⟩ := h
  cases hunpacks with
  | number _ _ _ _ => exact stored_of_fills hid hfills

end Capture

end TensorCapture
