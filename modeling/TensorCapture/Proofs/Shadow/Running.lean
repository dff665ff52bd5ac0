import TensorCapture.Proofs.Placeholder.Running
import TensorCapture.Proofs.Shadow.Modules

set_option autoImplicit false

/-! # Running nodes in a trace and its shadow

A node is run eagerly and on placeholders. Up to unknown numbers, the run on placeholders gives the
eager result without elements, as long as it gets the right counts. `item` is the source of unknown
numbers: on placeholders it gives a zero of the class of the number that the eager run gives.
-/

namespace TensorCapture

/-! ## Nodes that counts are taken from -/

/-- The nodes from which the operation takes an index, an axis, a count or an extent. -/
def Graph.counted (g : Graph) (target : Target) (args : List Operand) : List NodeId :=
  if target.takesCounts ((g.resolveAll args).toOption.getD []) then
    Operand.nodesOfAll (target.countsIn args)
  else []

theorem Target.countsIn_eraseAll (target : Target) (args : List Value) :
    target.countsIn (Value.eraseAll args) = Value.eraseAll (target.countsIn args) := by
  unfold countsIn
  by_cases h : target.hasReceiver = true
  · rw [if_pos h, if_pos h, Value.eraseAll_eq_map, Value.eraseAll_eq_map, List.map_tail]
  · rw [if_neg h, if_neg h]

namespace Graph

variable {g g' : Graph} {operands : List Operand} {args args' : List Value}

theorem resolveAll_countsIn (h : g.resolveAll operands = .ok args) (target : Target) :
    g.resolveAll (target.countsIn operands) = .ok (target.countsIn args) := by
  unfold Target.countsIn
  by_cases hreceiver : target.hasReceiver = true
  · rw [if_pos hreceiver, if_pos hreceiver]
    cases operands with
    | nil =>
        cases h
        rfl
    | cons operand rest =>
        obtain ⟨v, vs, -, hvs, rfl⟩ := resolveAll_cons h
        exact hvs
  · rw [if_neg hreceiver, if_neg hreceiver]
    exact h

/-- Where the nodes that counts are taken from agree, the counts do. -/
theorem sameCounts_of_counted (hargs : g.resolveAll operands = .ok args)
    (hargs' : g'.resolveAll operands = .ok args') {target : Target}
    (h : ∀ id ∈ g.counted target operands, g.Agrees g' id) :
    target.SameCounts args (Value.eraseAll args') := by
  intro htakes
  have hcounted : g.counted target operands = Operand.nodesOfAll (target.countsIn operands) := by
    unfold counted
    rw [hargs]
    exact if_pos htakes
  rw [hcounted] at h
  have hcounts := resolveAll_countsIn hargs target
  have hcounts' := resolveAll_countsIn hargs' target
  rw [target.countsIn_eraseAll]
  exact resolveAll_agrees _ h hcounts hcounts'

/-- Graphs with the same nodes have the same counts. -/
theorem counted_congr (h : g'.nodes = g.nodes) (target : Target) (operands : List Operand) :
    g'.counted target operands = g.counted target operands := by
  have hkept : g.KeepsExamples g' := keepsExamples_of_nodes_eq h
  have hkept' : g'.KeepsExamples g := keepsExamples_of_nodes_eq h.symm
  have hvalues : (g'.resolveAll operands).toOption = (g.resolveAll operands).toOption := by
    cases hresolved : g.resolveAll operands with
    | ok values => rw [hkept.resolveAll hresolved]
    | error e =>
        cases hresolved' : g'.resolveAll operands with
        | ok values =>
            rw [hkept'.resolveAll hresolved'] at hresolved
            cases hresolved
        | error e' => rfl
  unfold counted
  rw [hvalues]

/-- No count is taken where no operand follows the receiver. -/
theorem counted_of_receiver (g : Graph) {target : Target} (h : target.hasReceiver = true)
    (id : NodeId) (index : Int64) :
    g.counted target [.node id] = [] ∧
      g.counted target [.node id, .literal (.int index)] = [] := by
  unfold counted Target.countsIn
  rw [if_pos h, if_pos h]
  exact ⟨ite_self _, ite_self _⟩

theorem mem_nodes_of_mem_counted {target : Target} {id : NodeId}
    (h : id ∈ g.counted target operands) : id ∈ Operand.nodesOfAll operands := by
  unfold counted at h
  split at h
  · unfold Target.countsIn at h
    split at h
    · cases operands with
      | nil => exact h
      | cons _ _ => exact List.mem_append_right _ h
    · exact h
  · cases h

end Graph

/-! ## Calls -/

/-- The operands of a call in a trace and in its shadow. -/
structure CallShadowed (unknown : Prop) (target : Target) (args args' : List Value)
    (kwargs kwargs' : Named Value) : Prop where
  plain : ∀ v ∈ args, v.Plain
  blurs : List.Forall₂ Value.BlursTo args args'
  named : Value.NamedBlurTo kwargs kwargs'
  counts : target.SameCounts args args'
  known : unknown ∨ args' = Value.eraseAll args ∧ kwargs' = kwargs.mapValues Value.erase

/-- The values that a call gives. An item is a number of which only the class is known. -/
def Value.ShadowedAs (unknown : Prop) (target : Target) (v v' : Value) : Prop :=
  v.ShadowedBy unknown v' ∨ target = .method "item" ∧ v.SameClass v'

namespace Capture

variable {settings : Config} {t t' : Trace} {args args' : List Value}
  {kwargs kwargs' : Named Value} {unknown : Prop}

/-! ## Targets -/

/-- A kernel that was run has replied, and has changed the library alone. -/
theorem runKernel_eq_ok {placeholders : Bool} {act : Library → Kernel Value × Library}
    {r : Except LibraryError Value} {u : Trace}
    (hout : (inMode placeholders (runKernel act)).outcome t = (.ok r, u)) :
    reply (act (t.running placeholders)).1 = .ok r ∧ u.graph = t.graph ∧
      u.workshop.modules = t.workshop.modules := by
  have hanswer : ((inMode placeholders (runKernel act)).outcome t).1 =
      reply (act (t.running placeholders)).1 := answer_inMode_runKernel act t
  rw [hout] at hanswer
  refine ⟨hanswer.symm, ?_⟩
  cases placeholders with
  | false =>
      change (runKernel act).outcome t = _ at hout
      rw [outcome_runKernel] at hout
      obtain ⟨-, rfl⟩ := Prod.mk.inj hout
      exact ⟨rfl, rfl⟩
  | true =>
      change (inPlaceholderMode (runKernel act)).outcome t = _ at hout
      unfold inPlaceholderMode at hout
      rw [outcome_ofFunction] at hout
      dsimp only at hout
      rw [outcome_runKernel] at hout
      obtain ⟨-, rfl⟩ := Prod.mk.inj hout
      exact ⟨rfl, rfl⟩

theorem meets_runKernel (h : t.Abreast t') {act act' : Library → Kernel Value × Library}
    (hact : ∀ v v', (act (t.running false)).1 = .ok v → (act' (t'.running true)).1 = .ok v' →
      v.ShadowedBy unknown v') :
    Meets (RepliesShadowed unknown) (inMode false (runKernel act)) (inMode true (runKernel act'))
      t t' := by
  intro r u r' u' hout hout' v v' hv hv'
  subst hv hv'
  obtain ⟨hreply, hgraph, hmodules⟩ := runKernel_eq_ok hout
  obtain ⟨hreply', hgraph', hmodules'⟩ := runKernel_eq_ok hout'
  refine ⟨hact v v' (reply_eq_ok hreply) (reply_eq_ok hreply'), ?_, ?_⟩
  · rw [hgraph, hgraph', h.module?_eq]
  · rw [hmodules, hmodules']
    exact h.modules

section Targets

variable (h : t.Abreast t') (hlibrary : t'.library = t.library)
  (hdepth : t.library.placeholderDepth = 0)

include hlibrary hdepth

theorem running_eq : t.running false = ⟨t.library.generator, 0⟩ ∧
    t'.running true = ⟨t.library.generator, 0 + 1⟩ := by
  show t.library = _ ∧ t'.library.enter = _
  rw [hlibrary]
  show t.library = _ ∧ (⟨t.library.generator, t.library.placeholderDepth + 1⟩ : Library) = _
  rw [hdepth]
  refine ⟨?_, rfl⟩
  rw [← hdepth]

include h

theorem meets_callFunction {target : Target}
    (hcall : CallShadowed unknown target args args' kwargs kwargs') :
    Meets (RepliesShadowed unknown)
      (inMode false (runKernel fun library => library.callFunction target args kwargs))
      (inMode true (runKernel fun library => library.callFunction target args' kwargs')) t t' := by
  refine meets_runKernel h fun v v' hv hv' => ?_
  obtain ⟨hrunning, hrunning'⟩ := running_eq hlibrary hdepth
  rw [hrunning] at hv
  rw [hrunning'] at hv'
  have hvalue := Library.callFunction_plain _ target kwargs hcall.plain v hv
  have hblurs := Library.callFunction_blurs _ 0 hcall.blurs hcall.named hcall.counts v v' hv hv'
  refine ⟨hvalue, hblurs, hcall.known.imp_right ?_⟩
  rintro ⟨rfl, rfl⟩
  exact (Library.callFunction_abstracts _ 0 target args kwargs).eq_erase hv hv'

theorem meets_runMethod {name : String}
    (hcall : CallShadowed unknown (.method name) args args' kwargs kwargs') :
    Meets (RepliesShadowed unknown) (inMode false (runMethod name args kwargs))
      (inMode true (runMethod name args' kwargs')) t t' := by
  obtain ⟨-, hblurs, -, hcounts, hknown⟩ := hcall
  cases hblurs with
  | nil =>
      intro r u r' u' hout hout' v v' hv
      cases hout
      cases hv
  | @cons receiver receiver' rest rest' hreceiver hrest =>
      show Meets (RepliesShadowed unknown)
        (inMode false (runKernel fun library =>
          (library.callMethod name receiver rest kwargs, library)))
        (inMode true (runKernel fun library =>
          (library.callMethod name receiver' rest' kwargs', library))) t t'
      refine meets_runKernel h fun v v' hv hv' => ?_
      obtain ⟨hrunning, hrunning'⟩ := running_eq hlibrary hdepth
      rw [hrunning] at hv
      rw [hrunning'] at hv'
      have hvalue := Library.callMethod_plain _ name receiver rest kwargs v hv
      have hresult := Library.callMethod_blurs _ _ rfl rfl name hreceiver hrest hcounts v v' hv hv'
      refine ⟨hvalue, hresult, hknown.imp_right ?_⟩
      rintro ⟨hargs, rfl⟩
      obtain ⟨rfl, rfl⟩ := List.cons.inj hargs
      exact (Library.callMethod_abstracts _ 0 name receiver rest kwargs).eq_erase hv hv'

theorem meets_callTarget {target : Target} (module? : Option Nat)
    (hcall : CallShadowed unknown target args args' kwargs kwargs') :
    Meets (RepliesShadowed unknown) (callTarget target module? args kwargs false)
      (callTarget target module? args' kwargs' true) t t' := by
  cases target with
  | placeholder name => exact meets_breach _ _
  | builtin b => exact meets_callFunction h hlibrary hdepth hcall
  | function name => exact meets_callFunction h hlibrary hdepth hcall
  | method name => exact meets_runMethod h hlibrary hdepth hcall
  | module path => exact meets_callModule h hcall.blurs kwargs kwargs' unknown path module?

end Targets

/-! ## Items -/

theorem item_eq_ok {lib : Library} {receiver : Value} {rest : List Value} {kwargs : Named Value}
    {v : Value} (h : lib.callMethod "item" receiver rest kwargs = .ok v) :
    ∃ (this : Tensor) (x : Float), receiver = .tensor this ∧
      v = .ofScalar (.ofElement this.elementType x) := by
  cases receiver with
  | tensor this =>
      change Kernel.item lib.mode this = .ok v at h
      unfold Kernel.item at h
      split at h
      · cases h
      · cases helements : Kernel.elementsOf this with
        | error fault =>
            rw [helements] at h
            cases h
        | ok a =>
            rw [helements] at h
            simp only [bind, Except.bind] at h
            split at h
            · rename_i x _
              cases h
              exact ⟨this, x, rfl, rfl⟩
            · cases h
  | _ => cases h

/-- The zero of a type is a number of the same class as every element of the type. -/
theorem class_zero (t : ElementType) (x : Float) :
    (Scalar.zero t).runtimeClass = (Scalar.ofElement t x).runtimeClass := by
  unfold Scalar.zero Scalar.ofElement
  by_cases hbool : t = .bool
  · rw [if_pos hbool, if_pos hbool]
    rfl
  · rw [if_neg hbool, if_neg hbool]
    by_cases hfloating : t.isFloating = true
    · rw [if_pos hfloating, if_pos hfloating]
      rfl
    · rw [if_neg hfloating, if_neg hfloating]
      rfl

/-- The one error that becomes a value: the item of a placeholder is a zero. -/
theorem interpretError_eq_ok {target : Target} {placeholders : Bool} {e : LibraryError} {v : Value}
    {u : Trace} (h : (interpretError target args placeholders e).outcome t = (.ok v, u)) :
    u = t ∧ placeholders = true ∧ target = .method "item" ∧
      ∃ this, args.head?.bind Value.toTensor? = some this ∧
        v = .ofScalar (.zero this.elementType) := by
  unfold interpretError at h
  split at h
  · cases h
  · cases h
  · rw [outcome_bind_ok (outcome_config t)] at h
    split at h
    · rename_i hitem
      split at h
      · rename_i this hthis
        cases h
        refine ⟨rfl, rfl, ?_, this, hthis, rfl⟩
        exact of_decide_eq_true (Bool.and_eq_true_iff.mp hitem).2
      · cases h
    · cases h
  · cases h
  · cases h

theorem settle_eq_ok {target : Target} {placeholders : Bool} {r : Except LibraryError Value}
    {v : Value} {u : Trace} (h : (settle target args placeholders r).outcome t = (.ok v, u)) :
    u = t ∧ (r = .ok v ∨ placeholders = true ∧ target = .method "item" ∧
      ∃ this, args.head?.bind Value.toTensor? = some this ∧
        v = .ofScalar (.zero this.elementType)) := by
  cases r with
  | ok value =>
      cases h
      exact ⟨rfl, .inl rfl⟩
  | error e =>
      obtain ⟨hu, hitem⟩ := interpretError_eq_ok h
      exact ⟨hu, .inr hitem⟩

theorem runMethod_eq_ok {placeholders : Bool} {name : String} {receiver : Value}
    {rest : List Value} {r : Except LibraryError Value} {u : Trace}
    (hout : (inMode placeholders (runMethod name (receiver :: rest) kwargs)).outcome t =
      (.ok r, u)) :
    reply ((t.running placeholders).callMethod name receiver rest kwargs) = .ok r ∧
      u.graph = t.graph ∧ u.workshop.modules = t.workshop.modules := by
  change (inMode placeholders (runKernel fun library =>
    (library.callMethod name receiver rest kwargs, library))).outcome t = _ at hout
  exact runKernel_eq_ok hout

theorem toScalar?_ofScalar (number : Scalar) : (Value.ofScalar number).toScalar? = some number := by
  cases number <;> rfl

/-- The item of a tensor and what stands for it: numbers of the class that the element type has. -/
theorem meets_runItem (h : t.Abreast t') (hargs : List.Forall₂ Value.BlursTo args args') :
    Meets (fun v u v' u' => v.SameClass v' ∧ u.Abreast u')
      (inMode false (runMethod "item" args kwargs) >>= settle (.method "item") args false)
      (inMode true (runMethod "item" args' kwargs') >>= settle (.method "item") args' true)
      t t' := by
  intro v u v' u' hout hout'
  obtain ⟨r, t₁, hrun, hsettle⟩ := outcome_bind_eq_ok hout
  obtain ⟨r', t₁', hrun', hsettle'⟩ := outcome_bind_eq_ok hout'
  obtain ⟨rfl, rfl | ⟨hmode, -⟩⟩ := settle_eq_ok hsettle
  · cases hargs with
    | nil => cases hrun
    | @cons receiver receiver' rest rest' hreceiver hrest =>
        obtain ⟨hreply, hgraph, hmodules⟩ := runMethod_eq_ok hrun
        obtain ⟨hreply', hgraph', hmodules'⟩ := runMethod_eq_ok hrun'
        obtain ⟨this, x, rfl, rfl⟩ := item_eq_ok (reply_eq_ok hreply)
        obtain rfl := hreceiver.eq_of_tensor
        have habreast : u.Abreast t₁' := by
          refine ⟨?_, ?_⟩
          · rw [hgraph, hgraph', h.module?_eq]
          · rw [hmodules, hmodules']
            exact h.modules
        have number (b : Scalar)
            (hb : b.runtimeClass = (Scalar.zero this.elementType).runtimeClass) :
            (Value.ofScalar (.ofElement this.elementType x)).SameClass (.ofScalar b) :=
          ⟨_, b, toScalar?_ofScalar _, toScalar?_ofScalar b, hb.trans (class_zero _ x)⟩
        obtain ⟨rfl, rfl | ⟨-, -, other, hother, rfl⟩⟩ := settle_eq_ok hsettle'
        · obtain ⟨other, y, hother, rfl⟩ := item_eq_ok (reply_eq_ok hreply')
          obtain rfl := Value.tensor.inj hother
          exact ⟨number _ (class_zero _ y).symm, habreast⟩
        · obtain rfl : this.erase = other := Option.some.inj hother
          exact ⟨number _ rfl, habreast⟩
  · cases hmode

/-! ## Nodes -/

theorem meets_runTarget (h : t.Abreast t') (hlibrary : t'.library = t.library)
    (hdepth : t.library.placeholderDepth = 0) {target : Target} (module? : Option Nat)
    (hcall : CallShadowed unknown target args args' kwargs kwargs') :
    Meets (fun v u v' u' => v.ShadowedAs unknown target v' ∧ u.Abreast u')
      (callTarget target module? args kwargs false >>= settle target args false)
      (callTarget target module? args' kwargs' true >>= settle target args' true) t t' := by
  by_cases hitem : target = .method "item"
  · subst hitem
    refine meets_imp (meets_runItem h hcall.blurs) ?_
    rintro v u v' u' ⟨hclass, habreast⟩
    exact ⟨.inr ⟨rfl, hclass⟩, habreast⟩
  · refine meets_bind (meets_callTarget h hlibrary hdepth module? hcall) ?_
    intro r t₁ r' t₁' hreplies v u v' u' hout hout'
    obtain ⟨rfl, rfl | ⟨-, htarget, -⟩⟩ := settle_eq_ok hout
    · obtain ⟨rfl, rfl | ⟨-, htarget, -⟩⟩ := settle_eq_ok hout'
      · obtain ⟨hvalue, habreast⟩ := hreplies v v' rfl rfl
        exact ⟨.inl hvalue, habreast⟩
      · exact absurd htarget hitem
    · exact absurd htarget hitem

theorem map_prepared_false (values : List Value) : values.map (prepared false) = values :=
  List.map_id' values

theorem mapValues_prepared_false (values : Named Value) :
    values.mapValues (prepared false) = values :=
  List.map_id' values

/-- Where shapes are dynamic, the nodes from which an operation may take counts agree. -/
def CountsAgree (settings : Config) (t t' : Trace) (ids : List NodeId) : Prop :=
  settings.dynamicShapes = true → ∀ id ∈ ids, t.graph.Agrees t'.graph id

/-- The operands of a node in a trace and in its shadow. -/
theorem callShadowed_of_resolve (h : t.ShadowedBy settings t') {n : Node}
    (hargs : t.graph.resolveAll n.args = .ok args)
    (hargs' : t'.graph.resolveAll n.args = .ok args')
    (hkwargs : t.graph.resolveNamed n.kwargs = .ok kwargs)
    (hkwargs' : t'.graph.resolveNamed n.kwargs = .ok kwargs')
    (hcounted : CountsAgree settings t t' (t.graph.counted n.target n.args)) :
    CallShadowed (settings.dynamicShapes = true) n.target args (Value.eraseAll args') kwargs
      (kwargs'.mapValues Value.erase) := by
  -- no number is unknown where shapes are static
  have hstatic (hdynamic : settings.dynamicShapes = false) (id : NodeId) :
      t.graph.Agrees t'.graph id := by
    have hgraph := h.graph
    rw [hdynamic] at hgraph
    exact hgraph.agrees id
  refine ⟨h.graph.resolveAll_plain n.args hargs, h.graph.resolveAll_blursTo n.args hargs hargs',
    h.graph.resolveNamed_blurTo hkwargs hkwargs', ?_, ?_⟩
  · refine Graph.sameCounts_of_counted hargs hargs' fun id hid => ?_
    by_cases hdynamic : settings.dynamicShapes = true
    · exact hcounted hdynamic id hid
    · exact hstatic (eq_false_of_ne_true hdynamic) id
  · by_cases hdynamic : settings.dynamicShapes = true
    · exact .inl hdynamic
    · have hagrees := hstatic (eq_false_of_ne_true hdynamic)
      exact .inr ⟨Graph.resolveAll_agrees n.args (fun id _ => hagrees id) hargs hargs',
        Graph.resolveNamed_agrees (fun id _ => hagrees id) hkwargs hkwargs'⟩

/-- A node that is run in a trace and in its shadow. -/
theorem meets_runNode (h : t.ShadowedBy settings t') {id : NodeId} {n : Node}
    (hn : t.graph.nodes[id.index]? = some n) (module? : Option Nat)
    (hcounted : CountsAgree settings t t' (t.graph.counted n.target n.args)) :
    Meets (fun v u v' u' =>
        v.ShadowedAs (settings.dynamicShapes = true) n.target v' ∧ u.Abreast u')
      (runNode id module?) (runNode id module?) t t' := by
  rw [runNode_eq]
  refine meets_bind (meets_config h) ?_
  rintro settings _ _ _ ⟨rfl, rfl, rfl, rfl⟩
  rw [h.eager]
  refine meets_bind (meets_node h id) ?_
  rintro found _ n' _ ⟨hfound, hnode, rfl, rfl⟩
  obtain rfl : found = n := Option.some.inj (hfound.symm.trans hn)
  refine meets_bind meets_get ?_
  rintro _ _ _ _ ⟨rfl, rfl, rfl, rfl⟩
  refine meets_bind (meets_ofExcept _ _) ?_
  rintro ⟨args, kwargs⟩ u ⟨args', kwargs'⟩ u' ⟨hoperands, rfl, hoperands', rfl⟩
  obtain ⟨hargs, hkwargs⟩ := Graph.resolveOperands_eq_ok hoperands
  obtain ⟨hargs', hkwargs'⟩ := Graph.resolveOperands_eq_ok hoperands'
  rw [hnode.args_eq] at hargs'
  rw [hnode.kwargs_eq] at hkwargs'
  dsimp only
  rw [hnode.target_eq, map_prepared_false, mapValues_prepared_false, map_prepared_true]
  have hcall := callShadowed_of_resolve h hargs hargs' hkwargs hkwargs' hcounted
  exact meets_runTarget h.abreast h.library_eq h.depth_eq module? hcall

/-! ## Example values -/

theorem keepingGenerator_eq_ok {α : Type} {act : Capture α} {a : α} {u : Trace}
    (h : (keepingGenerator act).outcome t = (.ok a, u)) :
    ∃ t₁, act.outcome t = (.ok a, t₁) ∧ u.workshop.modules = t₁.workshop.modules := by
  unfold keepingGenerator at h
  rw [outcome_ofFunction] at h
  rcases hact : act.outcome t with ⟨result, t₁⟩
  rw [hact] at h
  obtain ⟨rfl, rfl⟩ := Prod.mk.inj h
  exact ⟨t₁, rfl, rfl⟩

theorem meets_supplied (h : t.ShadowedBy settings t') {value : Value} (hvalue : value.Plain)
    (target : Target) :
    Meets (fun v u v' u' => v.ShadowedAs unknown target v' ∧ u.Abreast u')
      (do return prepared (← config).placeholderPropagation value)
      (do return prepared (← config).placeholderPropagation value) t t' := by
  refine meets_bind (meets_config h) ?_
  rintro settings _ _ _ ⟨rfl, rfl, rfl, rfl⟩
  rw [h.eager]
  exact meets_pure ⟨.inl (hvalue.shadowedBy unknown), h.abreast⟩

/-- The example of a node and its shadow, from which the traces go on. -/
theorem meets_exampleValue (h : t.ShadowedBy settings t') {id : NodeId} {n : Node}
    (hn : t.graph.nodes[id.index]? = some n) {supplied : Option Value}
    (hsupplied : ∀ v ∈ supplied, v.Plain) (module? : Option Nat)
    (hcounted : supplied = none → CountsAgree settings t t' (t.graph.counted n.target n.args)) :
    Meets (fun v u v' u' =>
        v.ShadowedAs (settings.dynamicShapes = true) n.target v' ∧
          u.ShadowedBy settings u' ∧ u.graph = t.graph)
      (exampleValue id supplied module?) (exampleValue id supplied module?) t t' := by
  intro v u v' u' hout hout'
  obtain ⟨w, hw, hlibrary⟩ := exampleValue_works id supplied module? t
  obtain ⟨w', hw', hlibrary'⟩ := exampleValue_works id supplied module? t'
  rw [hout] at hw
  rw [hout'] at hw'
  dsimp only at hw hw'
  subst hw hw'
  obtain ⟨t₁, hrun, hmodules⟩ := keepingGenerator_eq_ok hout
  obtain ⟨t₁', hrun', hmodules'⟩ := keepingGenerator_eq_ok hout'
  obtain ⟨hvalue, habreast⟩ :
      v.ShadowedAs (settings.dynamicShapes = true) n.target v' ∧ t₁.Abreast t₁' := by
    cases supplied with
    | none => exact meets_runNode h hn module? (hcounted rfl) v t₁ v' t₁' hrun hrun'
    | some value => exact meets_supplied h (hsupplied value rfl) n.target v t₁ v' t₁' hrun hrun'
  refine ⟨hvalue, h.withWorkshop hlibrary hlibrary' fun i => ?_, rfl⟩
  have hcell := habreast.modules i
  rw [← hmodules, ← hmodules'] at hcell
  exact hcell

end Capture

end TensorCapture
