import TensorCapture.Capture.Classification
import TensorCapture.Proofs.Rerun.Replays

set_option autoImplicit false

/-! # Examples that running a node gives back

Where classification writes the example of a node, it has the example from one of two places.
Either the node was run, and the example is what this gave, or the tensor that holds the number it
gave. Or the node is the subscript of a container that is the example of another node, and the
example is the item of that container, which was not computed by running the subscript.

Both stay true in later traces. In both cases running the node gives the example back: the
subscript finds in the container what the example was taken from.
-/

namespace TensorCapture

/-! ## Captured numbers -/

/-- The example that classification writes of a value that a target gave: of a captured number,
the tensor that holds it. -/
def Config.exampleFor (config : Config) (target : Target) (value : Value) : Value :=
  match Rule.first? config target value, value.toScalar? with
  | some .scalarOutput, some number =>
      .tensor <|
        if config.placeholderPropagation then (Tensor.scalar number).erase else .scalar number
  | _, _ => value

namespace Config

variable {config : Config} {target : Target} {value : Value}

theorem exampleFor_of_ne {rule : Rule} (h : Rule.first? config target value = some rule)
    (hrule : rule ≠ .scalarOutput) : config.exampleFor target value = value := by
  unfold exampleFor
  rw [h]
  cases rule with
  | scalarOutput => exact absurd rfl hrule
  | _ => rfl

theorem exampleFor_of_scalarOutput {number : Scalar}
    (h : Rule.first? config target value = some .scalarOutput)
    (hnumber : value.toScalar? = some number) :
    config.exampleFor target value = .tensor
      (if config.placeholderPropagation then (Tensor.scalar number).erase else .scalar number) := by
  unfold exampleFor
  rw [h, hnumber]

/-- Only targets that compute one number have their results captured. -/
theorem exampleFor_of_not_yieldsScalar (h : Rule.yieldsScalar target = false) :
    config.exampleFor target value = value := by
  cases hfirst : Rule.first? config target value with
  | none =>
      unfold exampleFor
      rw [hfirst]
  | some rule =>
      refine exampleFor_of_ne hfirst ?_
      rintro rfl
      have haccepts : Rule.scalarOutput.accepts config target value = true :=
        List.find?_some (p := fun rule : Rule => rule.accepts config target value) hfirst
      rw [Rule.accepts, h, Bool.and_false, Bool.false_and] at haccepts
      cases haccepts

end Config

/-! ## Items -/

namespace Value

/-- The item of a container, or the extent of a size, at a position. -/
def item? : Value → Nat → Option Value
  | tuple items, index | list items, index | record _ items, index => items[index]?
  | size extents, index => extents[index]?.map fun extent => int (Word.signed extent)
  | _, _ => Option.none

/-- The positions in a container or a size are signed words. In memory no sequence is longer. -/
def Indexable : Value → Prop
  | tuple items | list items | record _ items => items.length < Word.signedBound
  | size extents => extents.length < Word.signedBound
  | _ => True

end Value

namespace Capture

/-- What is erased later need not be erased before. -/
theorem prepared_prepared {erased placeholders : Bool} (h : erased = true → placeholders = true)
    (v : Value) : prepared placeholders (prepared erased v) = prepared placeholders v := by
  cases erased with
  | false => rfl
  | true =>
      rw [h rfl]
      exact v.erase_erase

/-- Numbers have nothing to erase. -/
theorem prepared_of_toScalar? {v : Value} {number : Scalar} (h : v.toScalar? = some number)
    (placeholders : Bool) : prepared placeholders v = v := by
  cases placeholders with
  | false => rfl
  | true =>
      cases v with
      | int value => rfl
      | bool value => rfl
      | float value => rfl
      | _ => cases h

theorem item?_prepared (placeholders : Bool) (v : Value) (index : Nat) :
    (prepared placeholders v).item? index = (v.item? index).map (prepared placeholders) := by
  cases placeholders with
  | false =>
      show v.item? index = (v.item? index).map id
      rw [Option.map_id, id_eq]
  | true =>
      have hitems (items : List Value) :
          (Value.eraseAll items)[index]? = items[index]?.map Value.erase := by
        rw [Value.eraseAll_eq_map, List.getElem?_map]
      cases v with
      | tuple items => exact hitems items
      | list items => exact hitems items
      | record type items => exact hitems items
      | size extents =>
          show extents[index]?.map _ = (extents[index]?.map _).map Value.erase
          rw [Option.map_map]
          rfl
      | _ => rfl

theorem indexable_prepared (placeholders : Bool) {v : Value} (h : v.Indexable) :
    (prepared placeholders v).Indexable := by
  cases placeholders with
  | false => exact h
  | true =>
      have hitems (items : List Value) (hlt : items.length < Word.signedBound) :
          (Value.eraseAll items).length < Word.signedBound := by
        rw [Value.length_eraseAll]
        exact hlt
      cases v with
      | tuple items => exact hitems items h
      | list items => exact hitems items h
      | record type items => exact hitems items h
      | _ => exact h

end Capture

namespace Kernel

/-- A position counted from the start is found. -/
theorem resolveIndex_signed {index size : Nat} (hlt : index < size)
    (hsize : size < Word.signedBound) :
    resolveIndex (Word.signed index) size = .ok index := by
  have hindex : index < 2 ^ 63 := Nat.lt_trans hlt hsize
  have hnonnegative : ¬ Word.signed index < 0 := by
    rw [Int64.lt_iff_toInt_lt, Word.signed, Int64.toInt_ofNat_of_lt hindex]
    exact Int.not_lt.mpr (Int.natCast_nonneg index)
  have hbelow : ¬ Word.signed size ≤ Word.signed index := by
    rw [Word.signed, Word.signed, Int64.ofNat_le_iff_le hsize hindex]
    omega
  unfold resolveIndex
  rw [if_neg hnonnegative]
  show (if _ then _ else _) = _
  rw [if_neg (by simp only [hnonnegative, hbelow, decide_false, Bool.or_false, Bool.false_eq_true,
    not_false_eq_true])]
  rw [Word.signed, Int64.toInt_ofNat_of_lt hindex, Int.toNat_natCast]

theorem itemOf_of_getElem? {items : List Value} {index : Nat} {item : Value}
    (h : items[index]? = some item) (hlength : items.length < Word.signedBound) :
    itemOf items (Word.signed index) = .ok item := by
  have hlt : index < items.length := (List.getElem?_eq_some_iff.mp h).1
  unfold itemOf
  rw [resolveIndex_signed hlt hlength]
  show Outcome.ofBounded items[index]? = _
  rw [h]
  rfl

/-- The subscript finds the item. -/
theorem subscript_of_item {v item : Value} {index : Nat} (h : v.item? index = some item)
    (hv : v.Indexable) (mode : Mode) :
    subscript mode v (.int (Word.signed index)) = .ok item := by
  cases v with
  | tuple items => exact itemOf_of_getElem? h hv
  | list items => exact itemOf_of_getElem? h hv
  | record type items => exact itemOf_of_getElem? h hv
  | size extents =>
      obtain ⟨extent, hextent, rfl⟩ := Option.map_eq_some_iff.mp h
      have hlt : index < extents.length := (List.getElem?_eq_some_iff.mp hextent).1
      show (do
        let position ← resolveIndex (Word.signed index) extents.length
        let extent ← Outcome.ofBounded extents[position]?
        .ok (.int (Word.signed extent)) : Kernel Value) = _
      rw [resolveIndex_signed hlt hv]
      show (do
        let extent ← Outcome.ofBounded extents[index]?
        .ok (.int (Word.signed extent)) : Kernel Value) = _
      rw [hextent]
      rfl
  | _ => cases h

end Kernel

/-! ## Examples that are accounted for -/

/-- The node is the subscript of another node with a constant position. -/
structure Node.Subscripts (n : Node) (parent : NodeId) (index : Nat) : Prop where
  target_eq : n.target = .builtin .getItem
  args_eq : n.args = [.node parent, .literal (.int (Word.signed index))]
  kwargs_eq : n.kwargs = []

/-- Where the example of a node comes from. -/
inductive Trace.Accounted (t : Trace) (id : NodeId) (e : Value) : Prop where
  /-- Running the node gives it, but for the capturing of a number. -/
  | run {n : Node} {v : Value} (hnode : t.graph.node? id = .ok n) (h : t.Replays id v)
      (he : e = t.config.exampleFor n.target v)
  /-- It is an item of the example of another node. -/
  | item {n : Node} {parent : NodeId} {index : Nat} {container item : Value}
      (hnode : t.graph.node? id = .ok n) (hn : n.Subscripts parent index)
      (hcontainer : t.graph.exampleOf parent = .ok (some container))
      (hitem : container.item? index = some item)
      (he : e = Capture.prepared t.config.placeholderPropagation item)

namespace Trace

open Capture

variable {t u : Trace} {id : NodeId} {e : Value}

/-- What is accounted for stays so. -/
theorem Accounted.continues (h : t.Accounted id e) (hu : t.Continues u) : u.Accounted id e := by
  cases h with
  | @run n v hnode hv he =>
      obtain ⟨n', hnode', hgrows⟩ := hu.node?_eq_ok hnode
      refine .run hnode' (hv.continues hu) ?_
      rw [hu.config_eq, hgrows.target_eq]
      exact he
  | item hnode hn hcontainer hitem he =>
      obtain ⟨n', hnode', hgrows⟩ := hu.node?_eq_ok hnode
      have hn' : n'.Subscripts _ _ :=
        ⟨hgrows.target_eq.trans hn.target_eq, hgrows.args_eq.trans hn.args_eq,
          hgrows.kwargs_eq.trans hn.kwargs_eq⟩
      refine .item hnode' hn' (hu.keepsExamples _ _ hcontainer) hitem ?_
      rw [hu.config_eq]
      exact he

/-- Running the subscript of a container gives the item that is there. -/
theorem replays_of_subscripts {n : Node} {parent : NodeId} {index : Nat} {container item : Value}
    (hnode : t.graph.node? id = .ok n) (hn : n.Subscripts parent index)
    (hcontainer : t.graph.exampleOf parent = .ok (some container))
    (hitem : container.item? index = some item) (hindexable : container.Indexable) :
    t.Replays id (prepared t.config.placeholderPropagation item) := by
  have hresolve : t.graph.resolve (.node parent) = .ok container := by
    unfold Graph.resolve
    rw [hcontainer]
  have hoperands : t.graph.resolveOperands n =
      .ok ([container, .int (Word.signed index)], []) := by
    unfold Graph.resolveOperands
    rw [hn.args_eq, hn.kwargs_eq]
    simp only [Graph.resolveAll, hresolve]
    rfl
  have hindex : prepared t.config.placeholderPropagation (.int (Word.signed index)) =
      .int (Word.signed index) := by
    cases t.config.placeholderPropagation <;> rfl
  have hprepared : (prepared t.config.placeholderPropagation container).item? index =
      some (prepared t.config.placeholderPropagation item) := by
    rw [item?_prepared, hitem]
    rfl
  refine ⟨n, _, _, .ok (prepared t.config.placeholderPropagation item),
    .ok (prepared t.config.placeholderPropagation item), hnode, hoperands, ?_, rfl, rfl⟩
  rw [hn.target_eq, List.map_cons, List.map_cons, List.map_nil, hindex]
  refine congrArg some ?_
  exact Kernel.subscript_of_item hprepared (indexable_prepared _ hindexable) _

/-- Running a node whose example is accounted for gives the example back. -/
theorem Accounted.replays (h : t.Accounted id e)
    (hindexable : ∀ id v, t.graph.exampleOf id = .ok (some v) → v.Indexable) :
    ∃ n v, t.graph.node? id = .ok n ∧ t.Replays id v ∧ e = t.config.exampleFor n.target v := by
  cases h with
  | run hnode hv he => exact ⟨_, _, hnode, hv, he⟩
  | item hnode hn hcontainer hitem he =>
      have hreplays := replays_of_subscripts hnode hn hcontainer hitem (hindexable _ _ hcontainer)
      refine ⟨_, _, hnode, hreplays, ?_⟩
      rw [hn.target_eq, Config.exampleFor_of_not_yieldsScalar rfl]
      exact he

end Trace

end TensorCapture
