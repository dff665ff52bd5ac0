import TensorCapture.Proofs.Extents.Classified
import TensorCapture.Proofs.Shadow.Running

set_option autoImplicit false

/-! # Recorded questions for one extent

Where the metadata do not answer, a node is recorded that asks the library for an extent: a size
along an axis, a length, or a subscript of a size. The library answers with a signed word, and this
word is the example of the node. It tells the extent that was asked for.
-/

namespace TensorCapture

open Capture Trace

namespace Capture

variable {t : Trace} {id : NodeId} {role : TensorRole} {p : Provenance}

/-! ## Targets -/

/-- Targets that ask for an extent. The library answers them whatever the operands, its errors stay
errors, and an integer that it answers is classified where shapes are symbolic. -/
structure AsksLibrary (target : Target) : Prop where
  item : target.isMethod "item" = false
  kernel (t : Trace) (args : List Value) (kwargs : Named Value) (placeholders : Bool) :
    ∃ k, t.kernel? target args kwargs placeholders = some k
  rule (config : Config) (i : Int64) : Rule.first? config target (.int i) =
    if config.dynamicShapes then some .dynamicScalar else none

theorem asksLibrary_size : AsksLibrary (.method "size") where
  item := rfl
  kernel _ args _ _ := by cases args <;> exact ⟨_, rfl⟩
  rule config _ := by
    obtain ⟨dynamicShapes, captureScalarOutputs, placeholders, dynamicPropagation⟩ := config
    cases dynamicShapes <;> rfl

theorem asksLibrary_len : AsksLibrary (.builtin .len) where
  item := rfl
  kernel _ _ _ _ := ⟨_, rfl⟩
  rule config _ := by
    obtain ⟨dynamicShapes, captureScalarOutputs, placeholders, dynamicPropagation⟩ := config
    cases dynamicShapes <;> rfl

theorem asksLibrary_getItem : AsksLibrary (.builtin .getItem) where
  item := rfl
  kernel _ _ _ _ := ⟨_, rfl⟩
  rule config _ := Rule.first?_number config rfl

/-- An integer is classified where shapes are symbolic, and is the example of its node. -/
theorem answersIff_create_integer {n : Node} {supplied : Option Value} {module? : Option Nat}
    {i : Int64} (hdynamic : t.config.dynamicPropagation = true)
    (hnode : t.graph.nodes[id.index]? = some n) (hexample : n.example? = none)
    (htarget : AsksLibrary n.target)
    (hgot : ((exampleValue id supplied module?).outcome (t.merging p)).1 = .ok (.int i)) :
    AnswersIff (t.config.dynamicShapes = true) (create id supplied module? role p) t fun v u =>
      v.reify? u.graph = some (.int i) := by
  have hid : id.index < t.graph.nodes.size := (Array.getElem?_eq_some_iff.mp hnode).1
  have hcreate : AnswersIff (t.config.dynamicShapes = true) (create id supplied module? role p) t
      (Stands role p t id (.int i)) := by
    refine answersIff_create_of_example hdynamic hnode hexample hgot fun u hu => ?_
    have hlacks := lacks_after hu ⟨n, hnode, hexample⟩
    have hrule := htarget.rule u.config i
    rw [← hu.config_eq]
    by_cases hshapes : u.config.dynamicShapes = true
    · rw [if_pos hshapes] at hrule
      refine answersIff_congr (answersIff_classifyWith role p hrule fun w hw => ?_)
        (by simp [hshapes] : True ↔ _)
      refine answersIff_after (answersIff_setExample (lacks_after hw hlacks) _) fun _ x hx => ?_
      refine answersIff_pure ⟨[], .number id _ ?_ rfl, hx⟩
      rw [hw.config_eq]
      exact hshapes
    · rw [if_neg hshapes] at hrule
      exact answersIff_congr (answersIff_classifyWith_none role p hrule) (by simp [hshapes])
  exact answersIff_imp hcreate fun _ _ hstands => hstands.reify hid

/-! ## Running a recorded question -/

/-- The value of a node that is run is what the library says of the values of its operands. -/
theorem kernel_of_exampleValue {n : Node} (hnode : t.graph.node? id = .ok n)
    (htarget : AsksLibrary n.target) {value : Value}
    (h : ((exampleValue id none none).outcome t).1 = .ok value) :
    let placeholders := t.config.placeholderPropagation
    ∃ args kwargs, t.graph.resolveOperands n = .ok (args, kwargs) ∧
      t.kernel? n.target (args.map (prepared placeholders))
        (kwargs.mapValues (prepared placeholders)) placeholders = some (.ok value) := by
  obtain ⟨u, hrun, -⟩ := runNode_of_exampleValue (Prod.ext h rfl)
  obtain ⟨n', args, kwargs, r, hnode', hoperands, hcall, hsettle⟩ := callTarget_of_runNode hrun
  rw [hnode] at hnode'
  cases hnode'
  obtain ⟨-, rfl | ⟨-, hitem, -⟩⟩ := settle_eq_ok (Prod.ext hsettle rfl)
  case inr =>
    have hother := htarget.item
    rw [hitem] at hother
    cases hother
  obtain ⟨k, hk⟩ := htarget.kernel t (args.map (prepared t.config.placeholderPropagation))
    (kwargs.mapValues (prepared t.config.placeholderPropagation)) t.config.placeholderPropagation
  have hreply := answer_callTarget hk
  rw [hcall] at hreply
  refine ⟨args, kwargs, hoperands, hk.trans ?_⟩
  cases k with
  | ok found =>
      cases hreply
      rfl
  | error fault => cases fault <;> cases hreply

/-- A node whose operands have values is run to what the library says of them. -/
theorem exampleValue_of_kernel {n : Node} (hnode : t.graph.node? id = .ok n) {args : List Value}
    {kwargs : Named Value} (hoperands : t.graph.resolveOperands n = .ok (args, kwargs))
    {value : Value}
    (hkernel : t.kernel? n.target (args.map (prepared t.config.placeholderPropagation))
      (kwargs.mapValues (prepared t.config.placeholderPropagation))
      t.config.placeholderPropagation = some (.ok value)) :
    ((exampleValue id none none).outcome t).1 = .ok value :=
  Trace.Replays.answer ⟨n, args, kwargs, .ok value, .ok value, hnode, hoperands, hkernel, rfl, rfl⟩

/-- Where classifying a node that asks the library comes to an answer, the library gave a value. -/
theorem kernel_of_create {n : Node} (hdynamic : t.config.dynamicPropagation = true)
    (hnode : t.graph.nodes[id.index]? = some n) (htarget : AsksLibrary n.target) {v : Variable}
    {u : Trace} (hout : (create id none none role p).outcome t = (.ok v, u)) :
    let placeholders := t.config.placeholderPropagation
    ∃ args kwargs value, t.graph.resolveOperands n = .ok (args, kwargs) ∧
      t.kernel? n.target (args.map (prepared placeholders))
        (kwargs.mapValues (prepared placeholders)) placeholders = some (.ok value) ∧
      n.example? = none := by
  have hfound := node?_merging hnode p
  cases hexample : n.example? with
  | some e =>
      unfold create at hout
      rw [outcome_bind_ok (show (addGuards p.guards).outcome t = (.ok (), t.merging p) from rfl),
        outcome_bind_ok (outcome_node hfound), hexample] at hout
      cases hout
  | none =>
      rw [outcome_create hdynamic hnode hexample] at hout
      obtain ⟨value, w, hgot, -⟩ := outcome_bind_eq_ok hout
      obtain ⟨args, kwargs, hoperands, hkernel⟩ :=
        kernel_of_exampleValue hfound htarget (congrArg Prod.fst hgot)
      -- merged guards matter neither to the operands nor to the library
      have hsame : (t.merging p).graph.KeepsExamples t.graph := Graph.keepsExamples_of_nodes_eq rfl
      exact ⟨args, kwargs, value, hsame.resolveOperands rfl rfl hoperands, hkernel, rfl⟩

end Capture

/-! ## What the library says -/

namespace Library

variable {value found : Value}

/-- What is found of a position that is found only within the bounds. -/
theorem located_eq_ok_iff {index : Int64} {length position : Nat} {e : Failure} :
    (if Word.InRange index length then .ok (Word.position index length).toNat
      else Kernel.fail e : Kernel Nat) = .ok position ↔
      Word.InRange index length ∧ position = (Word.position index length).toNat := by
  by_cases hrange : Word.InRange index length
  · rw [if_pos hrange]
    exact ⟨fun h => ⟨hrange, (Except.ok.inj h).symm⟩, fun h => congrArg Except.ok h.2.symm⟩
  · rw [if_neg hrange]
    refine ⟨fun h => ?_, fun h => absurd h.1 hrange⟩
    cases h

/-- Reading an entry of a list of extents, where indices are resolved to the positions that they
denote. -/
theorem entry_eq_ok_iff {resolve : Int64 → Kernel Nat} {extents : List Nat}
    (hresolve : ∀ index position, position < extents.length → (resolve index = .ok position ↔
      Word.InRange index extents.length ∧
        position = (Word.position index extents.length).toNat)) :
    (do
      let index ← Kernel.integerOf value
      let position ← resolve index
      let n ← Outcome.ofBounded extents[position]?
      .ok (.int (Word.signed n)) : Kernel Value) = .ok found ↔
      ∃ extent, (∃ index, Kernel.integerOf value = .ok index ∧
        Word.InRange index extents.length ∧
        extents[(Word.position index extents.length).toNat]? = some extent) ∧
        found = .int (Word.signed extent) := by
  constructor
  · intro h
    obtain ⟨index, hindex, h⟩ := Except.exists_of_bind_eq_ok h
    obtain ⟨position, hposition, h⟩ := Except.exists_of_bind_eq_ok h
    obtain ⟨extent, hextent, h⟩ := Except.exists_of_bind_eq_ok h
    have hfound := Outcome.ofBounded_eq_ok_iff.mp hextent
    have hlt : position < extents.length := (List.getElem?_eq_some_iff.mp hfound).1
    cases h
    obtain ⟨hrange, rfl⟩ := (hresolve index position hlt).mp hposition
    exact ⟨extent, ⟨index, hindex, hrange, hfound⟩, rfl⟩
  · rintro ⟨extent, ⟨index, hindex, hrange, hextent⟩, rfl⟩
    have hposition := (hresolve index _ hrange.toNat_lt).mpr ⟨hrange, rfl⟩
    simp only [hindex, hposition, hextent, Outcome.ofBounded, bind, Except.bind]

/-- The extent along an axis. -/
theorem axisQuery_size_eq_ok_iff {e : Tensor} (hrank : e.ndim < Word.signedBound) {all : Value} :
    axisQuery "size" e e.size all [value] = .ok found ↔
      ∃ extent, (∃ index, Kernel.integerOf value = .ok index ∧
        Word.InRange index e.size.length ∧
        e.size[(Word.position index e.size.length).toNat]? = some extent) ∧
        found = .int (Word.signed extent) := by
  have hresolve (index : Int64) (position : Nat) (hlt : position < e.ndim) :
      Kernel.resolveAxis index e.ndim = .ok position ↔
        Word.InRange index e.ndim ∧ position = (Word.position index e.ndim).toNat := by
    -- the position is that of an axis, so the tensor has axes
    rw [Kernel.resolveAxis_eq (Nat.zero_lt_of_lt hlt) hrank]
    exact located_eq_ok_iff
  exact entry_eq_ok_iff hresolve

/-- An extent of a size. -/
theorem subscript_size_eq_ok_iff {mode : Mode} {extents : List Nat}
    (hlength : extents.length < Word.signedBound) :
    Kernel.subscript mode (.size extents) value = .ok found ↔
      ∃ extent, (∃ index, Kernel.integerOf value = .ok index ∧
        Word.InRange index extents.length ∧
        extents[(Word.position index extents.length).toNat]? = some extent) ∧
        found = .int (Word.signed extent) := by
  have hresolve (index : Int64) (position : Nat) (_ : position < extents.length) :
      Kernel.resolveIndex index extents.length = .ok position ↔
        Word.InRange index extents.length ∧
          position = (Word.position index extents.length).toNat := by
    rw [Kernel.resolveIndex_eq hlength]
    exact located_eq_ok_iff
  exact entry_eq_ok_iff hresolve

/-- The first extent. -/
theorem length_eq_ok_iff {e : Tensor} : Kernel.length (.tensor e) = .ok found ↔
    ∃ extent, e.size.head? = some extent ∧ found = .int (Word.signed extent) := by
  unfold Kernel.length
  cases hsize : e.size with
  | nil =>
      constructor
      · intro h
        simp only [hsize] at h
        cases h
      · rintro ⟨extent, hhead, -⟩
        cases hhead
  | cons first rest => simp [hsize, eq_comm]

end Library

/-! ## Nodes that ask for an extent -/

/-- The operand is an index that denotes this position among so many. -/
def Operand.Selects (g : Graph) (operand : Operand) (length position : Nat) : Prop :=
  ∃ value index, g.resolve operand = .ok value ∧ Kernel.integerOf value = .ok index ∧
    Word.InRange index length ∧ position = (Word.position index length).toNat

/-- The extent is the one that the index selects, or the first one where there is no index. -/
def Graph.Picks (g : Graph) (extents : List Nat) : Option Operand → Nat → Prop
  | some operand, extent =>
      ∃ position, operand.Selects g extents.length position ∧ extents[position]? = some extent
  | none, extent => extents.head? = some extent

/-- The question of the node for one of the extents is open and has an answer. No example has been
set, the operands have values, and there is the extent. -/
structure Node.Answerable (g : Graph) (n : Node) (extents : List Nat) (choice : Option Operand) :
    Prop where
  unset : n.example? = none
  operands : ∃ operands, g.resolveOperands n = .ok operands
  extent : ∃ extent, g.Picks extents choice extent

/-- The node asks for one extent of what another node holds: along an axis of a tensor, for the
length of a tensor, or for an item of a size. -/
inductive Node.AsksFor (g : Graph) (n : Node) : List Nat → Option Operand → Prop where
  | along {y : NodeId} {e : Tensor} {axis : Operand} (htarget : n.target = .method "size")
      (hargs : n.args = [.node y, axis]) (hstored : g.stored? y = some (.tensor e)) :
      n.AsksFor g e.size (some axis)
  | length {y : NodeId} {e : Tensor} (htarget : n.target = .builtin .len)
      (hargs : n.args = [.node y]) (hstored : g.stored? y = some (.tensor e)) :
      n.AsksFor g e.size none
  | item {y : NodeId} {extents : List Nat} {index : Operand}
      (htarget : n.target = .builtin .getItem) (hargs : n.args = [.node y, index])
      (hstored : g.stored? y = some (.size extents)) : n.AsksFor g extents (some index)

namespace Capture

variable {t u : Trace} {id y : NodeId} {role : TensorRole} {p : Provenance} {n : Node}
  {extents : List Nat} {choice : Option Operand}

theorem asksLibrary_of_asksFor (h : n.AsksFor t.graph extents choice) : AsksLibrary n.target := by
  cases h with
  | along htarget _ _ => exact htarget ▸ asksLibrary_size
  | length htarget _ _ => exact htarget ▸ asksLibrary_len
  | item htarget _ _ => exact htarget ▸ asksLibrary_getItem

/-- An integer is as good without its elements. -/
theorem integerOf_prepared (placeholders : Bool) (value : Value) :
    Kernel.integerOf (prepared placeholders value) = Kernel.integerOf value := by
  cases placeholders with
  | false => rfl
  | true => exact Kernel.integerOf_erase value

/-- A tensor has its extents without its elements. -/
theorem prepared_tensor (placeholders : Bool) (e : Tensor) :
    ∃ e' : Tensor, prepared placeholders (.tensor e) = .tensor e' ∧ e'.size = e.size := by
  cases placeholders with
  | false => exact ⟨e, rfl, rfl⟩
  | true => exact ⟨e.erase, rfl, rfl⟩

/-- The value of an operand that is a node. -/
theorem resolve_node {g : Graph} {e : Value} (h : g.stored? y = some e) :
    g.resolve (.node y) = .ok e := by
  simp [Graph.resolve, Graph.stored?_eq_some_iff.mp h]

/-- The values of a node and other operands. -/
theorem args_of_node {g : Graph} {e : Value} {rest : List Operand}
    (hargs : n.args = .node y :: rest) (hstored : g.stored? y = some e) {args : List Value}
    {kwargs : Named Value} (h : g.resolveOperands n = .ok (args, kwargs)) :
    ∃ others, g.resolveAll rest = .ok others ∧ args = e :: others := by
  have hall := (Graph.resolveOperands_eq_ok h).1
  rw [hargs] at hall
  obtain ⟨first, others, hfirst, hothers, rfl⟩ := Graph.resolveAll_cons hall
  rw [resolve_node hstored] at hfirst
  cases hfirst
  exact ⟨others, hothers, rfl⟩

/-- The values of a node and an index. -/
theorem args_of_pair {g : Graph} {e : Value} {index : Operand}
    (hargs : n.args = [.node y, index]) (hstored : g.stored? y = some e) {args : List Value}
    {kwargs : Named Value} (h : g.resolveOperands n = .ok (args, kwargs)) :
    ∃ value, g.resolve index = .ok value ∧ args = [e, value] := by
  obtain ⟨others, hothers, rfl⟩ := args_of_node hargs hstored h
  obtain ⟨value, none, hvalue, hnone, rfl⟩ := Graph.resolveAll_cons hothers
  cases hnone
  exact ⟨value, hvalue, rfl⟩

/-- What is picked by an operand is picked by the value that it has. -/
theorem picks_iff {g : Graph} {operand : Operand} {value : Value} {extent : Nat}
    (h : g.resolve operand = .ok value) : g.Picks extents (some operand) extent ↔
      ∃ index, Kernel.integerOf value = .ok index ∧ Word.InRange index extents.length ∧
        extents[(Word.position index extents.length).toNat]? = some extent := by
  constructor
  · rintro ⟨position, ⟨found, index, hfound, hindex, hrange, rfl⟩, hextent⟩
    rw [h] at hfound
    cases hfound
    exact ⟨index, hindex, hrange, hextent⟩
  · rintro ⟨index, hindex, hrange, hextent⟩
    exact ⟨_, ⟨value, index, h, hindex, hrange, rfl⟩, hextent⟩

/-- The library answers with the extent that the node asks for, if and only if there is one. -/
theorem kernel_eq_ok_iff_of_asksFor (h : n.AsksFor t.graph extents choice)
    (hlength : extents.length < Word.signedBound) (placeholders : Bool) {args : List Value}
    {kwargs : Named Value} (hoperands : t.graph.resolveOperands n = .ok (args, kwargs))
    {value : Value} :
    t.kernel? n.target (args.map (prepared placeholders))
        (kwargs.mapValues (prepared placeholders)) placeholders = some (.ok value) ↔
      ∃ extent, t.graph.Picks extents choice extent ∧ value = .int (Word.signed extent) := by
  cases h with
  | along htarget hargs hstored =>
      rename_i y e axis
      obtain ⟨index, hindex, rfl⟩ := args_of_pair hargs hstored hoperands
      obtain ⟨e', he', hsame⟩ := prepared_tensor placeholders e
      have hndim : e'.ndim < Word.signedBound := by rwa [Tensor.ndim, hsame]
      have hquery : t.kernel? (.method "size") [.tensor e', prepared placeholders index]
          (kwargs.mapValues (prepared placeholders)) placeholders =
          some (Library.axisQuery "size" e' e'.size (.size e'.size)
            [prepared placeholders index]) := rfl
      rw [htarget, List.map_cons, he', List.map_singleton, hquery, Option.some_inj,
        Library.axisQuery_size_eq_ok_iff hndim, hsame, integerOf_prepared]
      exact exists_congr fun extent => and_congr_left' (picks_iff hindex).symm
  | length htarget hargs hstored =>
      rename_i y e
      obtain ⟨others, hothers, rfl⟩ := args_of_node hargs hstored hoperands
      cases hothers
      obtain ⟨e', he', hsame⟩ := prepared_tensor placeholders e
      have hquery : t.kernel? (.builtin .len) [.tensor e']
          (kwargs.mapValues (prepared placeholders)) placeholders =
          some (Kernel.length (.tensor e')) := rfl
      rw [htarget, List.map_cons, he', List.map_nil, hquery, Option.some_inj,
        Library.length_eq_ok_iff, hsame]
      rfl
  | item htarget hargs hstored =>
      rename_i y subscript
      obtain ⟨index, hindex, rfl⟩ := args_of_pair hargs hstored hoperands
      have hsize : prepared placeholders (.size extents) = .size extents := by
        cases placeholders <;> rfl
      have hquery : t.kernel? (.builtin .getItem) [.size extents, prepared placeholders index]
          (kwargs.mapValues (prepared placeholders)) placeholders =
          some (Kernel.subscript (t.running placeholders).mode (.size extents)
            (prepared placeholders index)) := rfl
      rw [htarget, List.map_cons, hsize, List.map_singleton, hquery, Option.some_inj,
        Library.subscript_size_eq_ok_iff hlength, integerOf_prepared]
      exact exists_congr fun extent => and_congr_left' (picks_iff hindex).symm

/-- The step answers exactly under the condition, and the answer tells an extent that is as
said. -/
def TellsExtent (c : Prop) (act : Capture Variable) (t : Trace) (P : Nat → Prop) : Prop :=
  AnswersIff c act t fun v u => ∃ extent, P extent ∧ v.Tells u.graph extent

/-- Classifying a node that asks for an extent answers exactly where shapes are symbolic and the
question has an answer, and tells this extent. -/
theorem tellsExtent_create (hdynamic : t.config.dynamicPropagation = true)
    (hnode : t.graph.nodes[id.index]? = some n) (hasks : n.AsksFor t.graph extents choice)
    (hlength : extents.length < Word.signedBound) :
    TellsExtent (t.config.dynamicShapes = true ∧ n.Answerable t.graph extents choice)
      (create id none none role p) t (t.graph.Picks extents choice) := by
  have htarget := asksLibrary_of_asksFor hasks
  by_cases hanswerable : n.Answerable t.graph extents choice
  · -- the library is asked, and the answer is classified
    obtain ⟨⟨args, kwargs⟩, hoperands⟩ := hanswerable.operands
    obtain ⟨extent, hextent⟩ := hanswerable.extent
    have hkernel := (kernel_eq_ok_iff_of_asksFor hasks hlength t.config.placeholderPropagation
      hoperands).mpr ⟨extent, hextent, rfl⟩
    have hsame : t.graph.KeepsExamples (t.merging p).graph := Graph.keepsExamples_of_nodes_eq rfl
    have hgot := exampleValue_of_kernel (node?_merging hnode p)
      (hsame.resolveOperands rfl rfl hoperands) hkernel
    have hcreate : AnswersIff (t.config.dynamicShapes = true) (create id none none role p) t
        fun v u => v.reify? u.graph = some (.int (Word.signed extent)) :=
      answersIff_create_integer hdynamic hnode hanswerable.unset htarget hgot
    refine answersIff_congr (answersIff_imp hcreate fun v u hreify => ?_)
      (and_iff_left hanswerable).symm
    exact ⟨extent, hextent, Variable.tells_of_reify hreify⟩
  · -- an answer would be that of the library
    rcases hout : (create id none none role p).outcome t with ⟨e | v, u⟩
    · exact .inr ⟨fun h => hanswerable h.2, e, u, hout⟩
    · obtain ⟨args, kwargs, value, hoperands, hkernel, hexample⟩ :=
        kernel_of_create hdynamic hnode htarget hout
      obtain ⟨extent, hextent, -⟩ := (kernel_eq_ok_iff_of_asksFor hasks hlength
        t.config.placeholderPropagation hoperands).mp hkernel
      exact absurd ⟨hexample, ⟨_, hoperands⟩, extent, hextent⟩ hanswerable

end Capture

end TensorCapture
