import TensorCapture.Proofs.Extents.Asked
import TensorCapture.Proofs.Folding.Agreement

set_option autoImplicit false

/-! # What is reported of extents

The extents of a tensor are asked for as its shape, as its size, along an axis, and as its length.
Where shapes are static the metadata answer with literals. Where they are symbolic a node is
recorded and classified by what the library says of the example. Either way an answer tells the
extents.

An extent that is no signed word is reported as another number, then. It is refused only where
shapes are symbolic and all extents are asked for at once.
-/

namespace TensorCapture

open Capture Trace

/-! ## Indices -/

/-- An index that the trace resolves is an operand that selects the same position. -/
theorem Variable.selects_of_resolveIndex {index : Variable} {length position : Nat}
    (h : resolveIndex index length = .ok position) (g : Graph) :
    ∃ operand, index.toOperand = .ok operand ∧ operand.Selects g length position := by
  obtain ⟨literal, word, hliteral, hword, hrange, rfl⟩ := exists_of_resolveIndex h
  refine ⟨.literal literal, ?_, .ofLiteral literal, word, rfl, Library.integerOf_ofLiteral hword,
    hrange, rfl⟩
  cases index with
  | constant value p =>
      cases hliteral
      rfl
  | object value p => exact congrArg (Except.map Operand.literal) hliteral
  | container kind items node p =>
      obtain ⟨literals, -, rfl⟩ := Except.exists_of_map_eq_ok hliteral
      cases hword
  | _ => cases hliteral

/-! ## Values of operands -/

namespace Graph

variable {g g' : Graph} {extents : List Nat} {choice : Option Operand} {extent : Nat}

theorem Grows.keepsExamples (h : g.Grows g') : g.KeepsExamples g' := fun _ _ hv =>
  stored?_eq_some_iff.mp (h.stored (stored?_eq_some_iff.mpr hv))

/-- What is picked is picked in every graph that has the values. -/
theorem Picks.of_keepsExamples (h : g.Picks extents choice extent) (hkeeps : g.KeepsExamples g') :
    g'.Picks extents choice extent := by
  cases choice with
  | none => exact h
  | some operand =>
      obtain ⟨position, ⟨value, index, hvalue, hindex⟩, hextent⟩ := h
      exact ⟨position, ⟨value, index, hkeeps.resolve hvalue, hindex⟩, hextent⟩

/-- Where an extent is picked the operands of the question for it have values. -/
theorem Picks.exists_values {n : Node} (h : g.Picks extents choice extent)
    (hasks : n.AsksFor g extents choice) : ∃ values, g.resolveAll n.args = .ok values := by
  cases hasks with
  | along _ hargs hstored | item _ hargs hstored =>
      obtain ⟨_, ⟨value, _, hvalue, -⟩, -⟩ := h
      rw [hargs]
      simp [resolveAll, Capture.resolve_node hstored, hvalue, Except.map]
  | length _ hargs hstored =>
      rw [hargs]
      simp [resolveAll, Capture.resolve_node hstored, Except.map]

end Graph

/-! ## Recorded questions -/

namespace Capture

variable {w : Trace} {x : SymbolicTensor} {e : Tensor} {extents : List Nat} {p : Provenance}

/-- The node that was recorded last. -/
theorem getElem?_nextNode (g : Graph) (target : Target) (args : List Operand)
    (kwargs : Named Operand) : (g.append target args kwargs).nodes[g.nextNode.index]? =
      some ⟨g.nextNode, target, args, kwargs, none⟩ := by
  rw [Graph.getElem?_nodes_append]
  exact if_pos rfl

/-- A recorded node that asks for an extent is classified by it, where shapes are symbolic and there
is the extent. -/
theorem tellsExtent_record (hdynamic : w.config.dynamicPropagation = true) {target : Target}
    {args : List Operand} {choice : Option Operand}
    (hasks : ∀ g, w.graph.Grows g →
      (⟨w.graph.nextNode, target, args, [], none⟩ : Node).AsksFor g extents choice)
    (hlength : extents.length < Word.signedBound) :
    TellsExtent (w.config.dynamicShapes = true ∧ ∃ extent, w.graph.Picks extents choice extent)
      (do let id ← record target args []; createDerived x id p) w
      (w.graph.Picks extents choice) := by
  -- the new node has no example, so the same values are there before and after it is recorded
  have hgrows : w.graph.Grows (w.graph.append target args []) :=
    (w.graph.growsBehind_append target args []).toGrows
  have hkeeps := w.graph.keepsExamples_append target args []
  have hclassify (id : NodeId) (u : Trace) (hu : id = w.graph.nextNode ∧ u.config = w.config ∧
      u.graph = w.graph.append target args []) :
      TellsExtent (w.config.dynamicShapes = true ∧
          (⟨w.graph.nextNode, target, args, [], none⟩ : Node).Answerable
            (w.graph.append target args []) extents choice)
        (createDerived x id p) u (w.graph.Picks extents choice) := by
    obtain ⟨rfl, hconfig, hgraph⟩ := hu
    have hnode := getElem?_nextNode w.graph target args []
    rw [← hgraph] at hnode hgrows hkeeps ⊢
    rw [← hconfig] at hdynamic ⊢
    refine answersIff_imp (tellsExtent_create hdynamic hnode (hasks _ hgrows) hlength)
      fun v u' htells => ?_
    obtain ⟨extent, hextent, htells⟩ := htells
    exact ⟨extent, hextent.of_keepsExamples hkeeps, htells⟩
  refine answersIff_congr (answersIff_bind (answersIff_record w target args []) hclassify) ?_
  constructor
  · rintro ⟨-, hsymbolic, hanswerable⟩
    obtain ⟨extent, hextent⟩ := hanswerable.extent
    exact ⟨hsymbolic, extent, hextent.of_keepsExamples hkeeps⟩
  · rintro ⟨hsymbolic, extent, hextent⟩
    obtain ⟨values, hvalues⟩ := hextent.exists_values (hasks w.graph (.refl _))
    have hlater := hgrows.keepsExamples
    refine ⟨?_, hsymbolic, rfl, ⟨(values, []), ?_⟩, extent, hextent.of_keepsExamples hlater⟩
    · have hnodes : ∀ id ∈ Operand.nodesOfAll args, id.index < w.graph.nodes.size :=
        fun _ hid => Graph.lt_size_of_resolveAll args hvalues hid
      simpa [Operand.nodesOfAll, Named.values] using hnodes
    · simp [Graph.resolveOperands, hlater.resolveAll hvalues, Graph.resolveNamed, bind, Except.bind]

/-- After a step that keeps the settings the extents are told as by what follows. -/
theorem tellsExtents_after {α : Type} {act : Capture α} {f : α → Capture Variable} {a : α}
    {w' : Trace} (hact : act.outcome w = (.ok a, w')) (hconfig : w'.config = w.config)
    (h : TellsExtents (f a) w' extents) : TellsExtents (act >>= f) w extents := by
  unfold TellsExtents
  rw [outcome_bind_ok hact, ← hconfig]
  exact h

/-- What a node gets that asks for the size of a tensor. -/
theorem exampleValue_size {t : Trace} {id y : NodeId} {n : Node} (hnode : t.graph.node? id = .ok n)
    (htarget : n.target = .method "size") (hargs : n.args = [.node y]) (hkwargs : n.kwargs = [])
    (hstored : t.graph.stored? y = some (.tensor e)) :
    ((exampleValue id none none).outcome t).1 = .ok (.size e.size) := by
  have hoperands : t.graph.resolveOperands n = .ok ([.tensor e], []) := by
    simp [Graph.resolveOperands, hargs, hkwargs, Graph.resolveAll, Graph.resolveNamed,
      resolve_node hstored]
    rfl
  refine exampleValue_of_kernel hnode hoperands ?_
  obtain ⟨e', he', hsame⟩ := prepared_tensor t.config.placeholderPropagation e
  rw [htarget, List.map_cons, he', ← hsame]
  rfl

/-- A recorded node that asks for the size of a tensor is classified by it. -/
theorem tellsExtents_record (hdynamic : w.config.dynamicPropagation = true)
    (hstored : w.graph.stored? x.node = some (.tensor e)) (hrank : e.ndim < Word.signedBound) :
    TellsExtents (do let id ← record (.method "size") [.node x.node] []; createDerived x id p) w
      e.size := by
  obtain ⟨n, hn, -⟩ := Option.bind_eq_some_iff.mp hstored
  have hnodes : ∀ found ∈ Operand.nodesOfAll [.node x.node] ++ Operand.nodesOfAll (Named.values []),
      found.index < w.graph.nodes.size := by
    simpa [Operand.nodesOfAll, Operand.nodes, Named.values] using
      (Array.getElem?_eq_some_iff.mp hn).1
  obtain ⟨text, hrecord⟩ := outcome_record hnodes (.method "size")
  refine tellsExtents_after hrecord rfl ?_
  have hnode := getElem?_nextNode w.graph (.method "size") [.node x.node] []
  have hgrows := (w.graph.growsBehind_append (.method "size") [.node x.node] []).toGrows
  refine tellsExtents_create hdynamic hnode rfl hrank ?_
  exact exampleValue_size (node?_merging hnode p) rfl rfl rfl (hgrows.stored hstored)

end Capture

/-! ## Questions to a tensor -/

/-- The variable locates one of the extents. Where shapes are symbolic the library decides what the
operand for it selects, and otherwise it is to be a constant. -/
def Variable.Locates (w : Trace) (extents : List Nat) (axis : Variable) : Prop :=
  if w.config.dynamicShapes = true then
    ∃ operand extent, axis.toOperand = .ok operand ∧ w.graph.Picks extents (some operand) extent
  else ∃ position, resolveIndex axis extents.length = .ok position

/-- The questions for extents of a tensor. All of them are asked for as the shape or the size, and
one of them along an axis or as the length. -/
structure SymbolicTensor.Tells (x : SymbolicTensor) (w : Trace) (extents : List Nat) : Prop where
  shape : TellsExtents (readMember x "shape") w extents
  size : TellsExtents (callMethod x "size" [] []) w extents
  along (axis : Variable) : TellsExtent (axis.Locates w extents) (callMethod x "size" [axis] []) w
    fun extent => ∃ operand, axis.toOperand = .ok operand ∧
      w.graph.Picks extents (some operand) extent
  length : TellsExtent (extents ≠ []) (callMethod x "__len__" [] []) w
    (w.graph.Picks extents none)

namespace SymbolicTensor

variable {w : Trace} {x : SymbolicTensor} {e : Tensor} {extents : List Nat}

/-- Without a layout the size is a question for the library. -/
theorem outcome_callMethod_size (hlayout : x.layout? = none) (args : List Variable) (w : Trace) :
    ∃ p, (callMethod x "size" args []).outcome w = (do
      let operands ← ofExcept (callOperands x args [])
      let id ← record (.method "size") operands.1 operands.2
      createDerived x id p : Capture Variable).outcome w := by
  refine ⟨.propagate (.tensor x :: args ++ Named.values []), ?_⟩
  have hquery (p : Provenance) : x.query? "size" p = none := by simp [query?, hlayout]
  unfold callMethod
  dsimp only
  rw [hquery, outcome_bind_ok (outcome_config w)]
  show (recordMethod x "size" args [] _).outcome w = _
  unfold recordMethod
  rw [outcome_bind_ok (outcome_config w)]
  rfl

/-- The operands for a question along an axis. -/
theorem callOperands_axis (x : SymbolicTensor) (axis : Variable) : callOperands x [axis] [] =
    axis.toOperand.map fun operand => ([.node x.node, operand], []) := by
  unfold callOperands
  cases haxis : axis.toOperand <;>
    simp [Variable.toOperands, Variable.toOperand, haxis, Named.values, Except.map, bind,
      Except.bind]

/-- The type guard on the source of a tensor joins the answer. -/
theorem tellsExtents_readMember {name : String} (hname : name ≠ "__class__")
    (h : TellsExtents (memberOf x name) w extents) :
    TellsExtents (readMember x name) w extents := by
  unfold readMember
  rw [if_neg hname]
  rcases h with ⟨v, u, hout, htells, hextents⟩ | ⟨hsymbolic, fault, hfault, hoverflows⟩
  · unfold TellsExtents
    rw [outcome_bind_ok hout]
    cases x.provenance.guardOn? .typeMatch with
    | none => exact .inl ⟨v, u, rfl, htells, hextents⟩
    | some g => exact .inl ⟨v.addGuard g, u, rfl, htells.addGuard g, hextents⟩
  · refine .inr ⟨hsymbolic, fault, ?_, hoverflows⟩
    rw [outcome_bind_error (Prod.ext hfault rfl)]

/-- The shape is the layout's size, or the size that the library is asked for. -/
theorem memberOf_shape (x : SymbolicTensor) : memberOf x "shape" =
    match x.layout? with
    | some layout => pure (.ofExtents .shape layout.size x.propagated)
    | none => callMethod x "size" [] [] := by
  obtain ⟨node, metadata, parameter, role, provenance⟩ := x
  cases metadata <;> rfl

variable (hdynamic : w.config.dynamicPropagation = true)
  (hstored : w.graph.stored? x.node = some (.tensor e))
  (hmetadata : x.metadata = some (e.captured w.config)) (hrank : e.ndim < Word.signedBound)

include hdynamic hstored hmetadata hrank

/-- The size is that of the layout, or that of the example. -/
theorem tellsExtents_size : TellsExtents (callMethod x "size" [] []) w e.size := by
  have hlayout := layout?_of_captured hmetadata
  by_cases hsymbolic : w.config.dynamicShapes = true
  · -- nothing is remembered of the extents, so the library is asked
    rw [if_pos hsymbolic] at hlayout
    obtain ⟨p, hout⟩ := outcome_callMethod_size hlayout [] w
    unfold TellsExtents
    rw [hout, outcome_bind_ok (show (ofExcept (callOperands x [] [])).outcome w =
      (.ok ([.node x.node], []), w) from rfl)]
    exact tellsExtents_record hdynamic hstored hrank
  · -- the remembered extents are those of the example
    rw [if_neg hsymbolic] at hlayout
    have hquery (p : Provenance) : x.query? "size" p = some (.ok (.ofExtents .size e.size p)) := by
      simp [query?, hlayout]
    obtain ⟨p, hout⟩ := outcome_callMethod hquery [] w
    exact .inl ⟨_, _, hout, Variable.tellsAll_ofExtents w.graph .size e.size p,
      fun h => absurd h hsymbolic⟩

/-- The library is asked for the size along an axis. -/
theorem tellsExtent_along_symbolic (hsymbolic : w.config.dynamicShapes = true) (axis : Variable) :
    TellsExtent (axis.Locates w e.size) (callMethod x "size" [axis] []) w fun extent =>
      ∃ operand, axis.toOperand = .ok operand ∧ w.graph.Picks e.size (some operand) extent := by
  have hlayout := layout?_of_captured hmetadata
  rw [if_pos hsymbolic] at hlayout
  obtain ⟨p, hrecorded⟩ := outcome_callMethod_size hlayout [axis] w
  unfold Variable.Locates TellsExtent AnswersIff
  rw [if_pos hsymbolic, hrecorded, callOperands_axis]
  cases haxis : axis.toOperand with
  | error fault =>
      refine .inr ⟨?_, _, w, rfl⟩
      rintro ⟨operand, extent, hoperand, -⟩
      cases hoperand
  | ok operand =>
      have hrecord : TellsExtent
          (w.config.dynamicShapes = true ∧ ∃ extent, w.graph.Picks e.size (some operand) extent)
          (do let id ← record (.method "size") [.node x.node, operand] []; createDerived x id p) w
          (w.graph.Picks e.size (some operand)) :=
        tellsExtent_record hdynamic (fun g hgrows => .along rfl rfl (hgrows.stored hstored)) hrank
      refine answersIff_congr (answersIff_imp hrecord fun v u htells => ?_) (by simp [hsymbolic])
      obtain ⟨extent, hpicks, htells⟩ := htells
      exact ⟨extent, ⟨operand, rfl, hpicks⟩, htells⟩

omit hdynamic hstored hrank in
/-- The size along an axis is an item of the layout's size. -/
theorem tellsExtent_along_static (hstatic : ¬w.config.dynamicShapes = true) (axis : Variable) :
    TellsExtent (axis.Locates w e.size) (callMethod x "size" [axis] []) w fun extent =>
      ∃ operand, axis.toOperand = .ok operand ∧ w.graph.Picks e.size (some operand) extent := by
  have hlayout := layout?_of_captured hmetadata
  rw [if_neg hstatic] at hlayout
  have hquery (p : Provenance) : x.query? "size" p = some (.ok (.ofExtents .size e.size p)) := by
    simp [query?, hlayout]
  obtain ⟨p, hanswer⟩ := outcome_callMethod hquery [axis] w
  change _ = (Capture.ofExcept ((Variable.ofExtents .size e.size p).itemAt axis)).outcome w
    at hanswer
  have hitems := Variable.tellsAll_ofExtents w.graph .size e.size p
  unfold Variable.Locates TellsExtent AnswersIff
  rw [if_neg hstatic, hanswer]
  cases hposition : Variable.resolveIndex axis e.size.length with
  | error fault =>
      rw [hitems.itemAt_eq_error hposition]
      refine .inr ⟨?_, .error fault, w, rfl⟩
      rintro ⟨position, hfound⟩
      cases hfound
  | ok position =>
      obtain ⟨item, extent, hitem, hextent, htells⟩ := hitems.exists_itemAt hposition
      obtain ⟨operand, hoperand, hselects⟩ := Variable.selects_of_resolveIndex hposition w.graph
      rw [hitem]
      have hpicks : w.graph.Picks e.size (some operand) extent := ⟨position, hselects, hextent⟩
      exact .inl ⟨⟨position, rfl⟩, item, w, rfl, extent, ⟨operand, hoperand, hpicks⟩, htells⟩

/-- The length is the first extent of the layout, or what the library says. -/
theorem tellsExtent_length :
    TellsExtent (e.size ≠ []) (callMethod x "__len__" [] []) w (w.graph.Picks e.size none) := by
  have hlayout := layout?_of_captured hmetadata
  have hsize : x.size? = if w.config.dynamicShapes = true then none else some e.size := by
    unfold size?
    rw [hlayout]
    split <;> rfl
  show TellsExtent _ (length x _) w _
  unfold length
  split
  · -- the first extent is remembered
    rename_i first rest hknown
    rw [hsize] at hknown
    split at hknown
    · cases hknown
    · have hextents : e.size = first :: rest := Option.some.inj hknown
      have hnonempty : e.size ≠ [] := by simp [hextents]
      have htells := Variable.tells_constant w.graph first
      exact .inl ⟨hnonempty, _, w, rfl, first, congrArg List.head? hextents, htells _⟩
  · rename_i hunknown
    refine answersIff_congr (tellsExtent_record hdynamic
      (fun g hgrows => .length rfl rfl (hgrows.stored hstored)) hrank) ?_
    constructor
    · rintro ⟨-, extent, hextent⟩ hempty
      rw [hempty] at hextent
      cases hextent
    · intro hnonempty
      obtain ⟨first, rest, hextents⟩ := List.exists_cons_of_ne_nil hnonempty
      refine ⟨?_, first, congrArg List.head? hextents⟩
      by_contra hstatic
      rw [if_neg hstatic, hextents] at hsize
      exact hunknown first rest hsize

/-- Every question is answered by what the metadata or the library say of the extents. -/
theorem tells_of_captured : x.Tells w e.size where
  shape := by
    have hsize := tellsExtents_size hdynamic hstored hmetadata hrank
    refine tellsExtents_readMember (by decide) ?_
    rw [memberOf_shape]
    cases hlayout : x.layout? with
    | none => exact hsize
    | some layout =>
        have hknown := layout?_of_captured hmetadata
        rw [hlayout] at hknown
        split at hknown
        · cases hknown
        · rename_i hstatic
          cases hknown
          exact .inl ⟨_, _, rfl, Variable.tellsAll_ofExtents w.graph .shape e.size _,
            fun h => absurd h hstatic⟩
  size := tellsExtents_size hdynamic hstored hmetadata hrank
  along axis := by
    by_cases hsymbolic : w.config.dynamicShapes = true
    · exact tellsExtent_along_symbolic hdynamic hstored hmetadata hrank hsymbolic axis
    · exact tellsExtent_along_static hmetadata hsymbolic axis
  length := tellsExtent_length hdynamic hstored hmetadata hrank

end SymbolicTensor

/-! ## The theorem -/

/-- The trace remembers the example of a tensor that classification made, now and later. -/
theorem exists_remembered {t u : Trace} {id : NodeId} {supplied : Option Value}
    {module? : Option Nat} {role : TensorRole} {p : Provenance} {v : Variable} {x : SymbolicTensor}
    (hdynamic : t.config.dynamicPropagation = true)
    (hcreate : (create id supplied module? role p).outcome t = (.ok v, u))
    (hwithin : (Variable.tensor x).Within v) (hrole : ∀ c, x.role ≠ .symbolicNumber c) :
    ∃ e, ∀ past w, Trace.Runs Trace.Advances u past w → w.config.dynamicPropagation = true ∧
      w.graph.stored? x.node = some (.tensor e) ∧ x.metadata = some (e.captured w.config) := by
  have hreaches : Reaches (fun _ => True) t ((create id supplied module? role p).outcome t).2 :=
    reaches_parts.create id supplied module? role trivial t
  rw [hcreate] at hreaches
  rw [← hreaches.config_eq] at hdynamic
  have hmade : v.Made u.Remembers p := makes_create id supplied module? role hcreate
  obtain ⟨e, hstored, hmetadata⟩ := hmade.known_within hwithin hrole hdynamic
  refine ⟨e, fun past w hrun => ?_⟩
  have hlater : u.Advances w := (chronicle_backs.runs (fun _ _ h => h.backs) hrun).1
  rw [hlater.1]
  exact ⟨hdynamic, hlater.2.stored hstored, hmetadata⟩

/-- Where operations are run for their examples, every way of asking for extents tells them or
fails, and it fails only where it is said to: the questions to a tensor that occurs in what
classification made, now and at any later time, the classification of a node whose example value is
a size, the classification of a node that asks for one extent, and the items of a variable that
tells extents, then and later on. -/
theorem extents_told {t : Trace} (hdynamic : t.config.dynamicPropagation = true) (id : NodeId)
    (role : TensorRole) (p : Provenance) :
    (∀ supplied module? v u x, (create id supplied module? role p).outcome t = (.ok v, u) →
      (Variable.tensor x).Within v → (∀ c, x.role ≠ .symbolicNumber c) →
      ∃ e, ∀ past w, Trace.Runs Trace.Advances u past w →
        w.graph.stored? x.node = some (.tensor e) ∧
        (e.ndim < Word.signedBound → x.Tells w e.size)) ∧
    (∀ supplied module? n extents, t.graph.nodes[id.index]? = some n → n.example? = none →
      extents.length < Word.signedBound →
      ((exampleValue id supplied module?).outcome (t.merging p)).1 = .ok (.size extents) →
      TellsExtents (create id supplied module? role p) t extents) ∧
    (∀ n extents choice, t.graph.nodes[id.index]? = some n → n.AsksFor t.graph extents choice →
      extents.length < Word.signedBound →
      TellsExtent (t.config.dynamicShapes = true ∧ n.Answerable t.graph extents choice)
        (create id none none role p) t (t.graph.Picks extents choice)) ∧
    ∀ v index g g' extents, Variable.TellsAll g v extents → g.Grows g' →
      (∀ fault, Variable.resolveIndex index extents.length = .error fault →
        v.itemAt index = .error fault) ∧
      ∀ position, Variable.resolveIndex index extents.length = .ok position →
        ∃ item extent, v.itemAt index = .ok item ∧ extents[position]? = some extent ∧
          item.Tells g' extent := by
  refine ⟨?_, ?_, ?_, ?_⟩
  · intro supplied module? v u x hcreate hwithin hrole
    obtain ⟨e, hremembers⟩ := exists_remembered hdynamic hcreate hwithin hrole
    refine ⟨e, fun past w hrun => ?_⟩
    obtain ⟨hlater, hstored, hmetadata⟩ := hremembers past w hrun
    exact ⟨hstored, SymbolicTensor.tells_of_captured hlater hstored hmetadata⟩
  · intro supplied module? n extents hnode hexample hlength hgot
    exact tellsExtents_create hdynamic hnode hexample hlength hgot
  · intro n extents choice hnode hasks hlength
    exact tellsExtent_create hdynamic hnode hasks hlength
  · intro v index g g' extents htells hgrows
    exact ⟨fun fault hfault => htells.itemAt_eq_error hfault,
      fun position hposition => (htells.mono hgrows).exists_itemAt hposition⟩

/-- The settings under which shapes are symbolic. -/
def Config.symbolic : Config := { Config.standard with dynamicShapes := true }

/-- A trace with one input, where shapes are symbolic. -/
def Trace.ofSymbolicInput (name : String) : Trace := { ofInput name with config := .symbolic }

/-- The tensor variable of the same example where shapes are symbolic. -/
def SymbolicTensor.vastSymbolic : SymbolicTensor :=
  { vast with
    metadata := some ((Tensor.placeholder [Word.signedBound, 0] .f32).captured .symbolic) }

/-- Where shapes are symbolic, asking for the shape of a tensor fails for an extent that is no
signed word, and the error names it. -/
theorem extents_told_overflow :
    ∃ u, (create ⟨0⟩ (some (.tensor (.placeholder [Word.signedBound, 0] .f32))) none .plain
        .none).outcome (.ofSymbolicInput "x") =
        (.ok (.tensor .vastSymbolic), u) ∧
      ((readMember .vastSymbolic "shape").outcome u).1 =
        .error (.error (.internal (.extentOverflow Word.signedBound))) := by
  obtain ⟨u, hcreate, hstored, hconfig⟩ : ∃ u,
      (create ⟨0⟩ (some (.tensor (.placeholder [Word.signedBound, 0] .f32))) none .plain
        .none).outcome (.ofSymbolicInput "x") =
        (.ok (.tensor .vastSymbolic), u) ∧
      u.graph.stored? ⟨0⟩ = some (.tensor (.placeholder [Word.signedBound, 0] .f32)) ∧
      u.config = .symbolic := ⟨_, rfl, rfl, rfl⟩
  have hdynamic : (Trace.ofSymbolicInput "x").config.dynamicPropagation = true := rfl
  obtain ⟨e, htells⟩ := (extents_told hdynamic ⟨0⟩ .plain .none).1 _ _ _ _ _ hcreate .self
    fun c hrole => by cases hrole
  obtain ⟨he, htells⟩ := htells _ _ .start
  obtain rfl : e = .placeholder [Word.signedBound, 0] .f32 := by
    change u.graph.stored? ⟨0⟩ = _ at he
    rw [hstored] at he
    exact (Value.tensor.inj (Option.some.inj he)).symm
  refine ⟨u, hcreate, ?_⟩
  rcases (htells (by decide)).shape with ⟨v, w, -, -, hextents⟩ | ⟨-, fault, hfault, hoverflows⟩
  · have hextent := hextents (by rw [hconfig]; rfl) Word.signedBound (List.mem_cons_self ..)
    exact absurd hextent (Nat.lt_irrefl _)
  · rw [hfault]
    obtain ⟨extent, hmem, hoverflow, rfl⟩ := hoverflows
    have hvast : extent = Word.signedBound := by
      have hmem' : extent ∈ [Word.signedBound, 0] := hmem
      simp only [List.mem_cons, List.not_mem_nil, or_false] at hmem'
      rcases hmem' with rfl | rfl
      · rfl
      · exact absurd hoverflow (by decide)
    rw [hvast]

/-- Where shapes are static, the length of a tensor is reported as another number. -/
theorem exists_extent_misreported :
    ∃ u, (create ⟨0⟩ (some (.tensor (.placeholder [Word.signedBound, 0] .f32))) none .plain
        .none).outcome (.ofInput "x") = (.ok (.tensor .vast), u) ∧
      u.graph.stored? ⟨0⟩ = some (.tensor (.placeholder [Word.signedBound, 0] .f32)) ∧
      ∃ length : Int64, (callMethod .vast "__len__" [] []).outcome u =
          (.ok (.constant (.int length) .none), u) ∧
        length.toInt = -Word.signedBound := by
  refine ⟨_, rfl, rfl, _, rfl, ?_⟩
  decide

end TensorCapture
