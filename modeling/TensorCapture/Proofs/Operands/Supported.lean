import TensorCapture.Proofs.Operands.Reify
import TensorCapture.Proofs.Rerun.Follows

set_option autoImplicit false

/-! # Classified nodes have examples

Where operations are run for their examples, classification answers with a variable that is
supported: each node in it has an example. A node gets its example before the variable for it is
made, and the nodes of items and extents are in turn classified. Since examples stay, the first
items are still supported once the last ones are classified.
-/

namespace TensorCapture

open Capture Trace

/-! ## Conditions on answers -/

theorem Trace.Reaches.config_eq {literals : Option Inliner → Prop} {t u : Trace}
    (h : Reaches literals t u) : u.config = t.config := by
  induction h with
  | refl => rfl
  | tail _ hstep ih => cases hstep <;> exact ih

namespace Capture

variable {α β : Type} {P : Graph → α → Prop} {Q : Graph → β → Prop}

/-- Whatever the step answers satisfies the condition in the graph after it. This is asked only
where operations are run for their examples. -/
def Answers (P : Graph → α → Prop) (act : Capture α) : Prop :=
  ∀ ⦃t u a⦄, t.config.dynamicPropagation = true → act.outcome t = (.ok a, u) → P u.graph a

/-- The step is made of small steps. -/
abbrev Proceeds (act : Capture α) : Prop := Keeps (Reaches fun _ => True) act

theorem answers_pure {a : α} (h : ∀ g, P g a) : Answers P (pure a) := by
  intro t u b _ hout
  cases hout
  exact h t.graph

theorem answers_fail (e : CaptureError) : Answers P (fail e) := by
  intro t u a _ hout
  cases hout

theorem answers_breach (b : Breach) : Answers P (breach b) := answers_fail _

theorem answers_refuse (reason : Refusal) : Answers P (refuse reason) := answers_fail _

theorem answers_throw (e : Fault CaptureError) : Answers P (throw e : Capture α) := by
  intro t u a _ hout
  cases hout

theorem answers_ofExcept {r : Except CaptureError α} (h : ∀ a, r = .ok a → ∀ g, P g a) :
    Answers P (ofExcept r) := by
  intro t u a _ hout
  obtain ⟨ha, -⟩ := ofExcept_eq_ok hout
  exact h a ha u.graph

theorem answers_ite (c : Prop) [Decidable c] {act act' : Capture α} (h : Answers P act)
    (h' : Answers P act') : Answers P (if c then act else act') := by
  by_cases hc : c <;> simpa [hc]

/-- The second step gives the answer. -/
theorem answers_bind {act : Capture α} {f : α → Capture β} (hact : Proceeds act)
    (hf : ∀ a, Answers Q (f a)) : Answers Q (act >>= f) := by
  intro t u b hconfig hout
  obtain ⟨a, t', hfirst, hsecond⟩ := outcome_bind_eq_ok hout
  have hreaches : Reaches _ t (act.outcome t).2 := hact t
  rw [hfirst] at hreaches
  have hconfig' : t'.config.dynamicPropagation = true := by
    rw [hreaches.config_eq]
    exact hconfig
  exact hf a hconfig' hsecond

/-- The second step makes the answer of what the first one answered, in a graph that may have
grown meanwhile. -/
theorem answers_bind_of {act : Capture α} {f : α → Capture β} (h : Answers P act)
    (hact : Proceeds act) (hf : ∀ a, Proceeds (f a))
    (hanswer : ∀ (a : α) (t u : Trace) (b : β), t.config.dynamicPropagation = true →
      P t.graph a → t.graph.Grows u.graph → (f a).outcome t = (.ok b, u) → Q u.graph b) :
    Answers Q (act >>= f) := by
  intro t u b hconfig hout
  obtain ⟨a, t', hfirst, hsecond⟩ := outcome_bind_eq_ok hout
  have hreaches : Reaches _ t (act.outcome t).2 := hact t
  rw [hfirst] at hreaches
  have hconfig' : t'.config.dynamicPropagation = true := by
    rw [hreaches.config_eq]
    exact hconfig
  have hgrows : Reaches _ t' ((f a).outcome t').2 := hf a t'
  rw [hsecond] at hgrows
  exact hanswer a t' u b hconfig' (h hconfig hfirst) hgrows.grows hsecond

/-! ## Classification -/

/-- The step answers with a variable that is supported. -/
abbrev Supports (act : Capture Variable) : Prop := Answers (fun g v => v.Supported g) act

/-- The step answers with variables that are supported. -/
abbrev SupportsAll (act : Capture (List Variable)) : Prop := Answers Variable.SupportedAll act

theorem supported_ofExtents (kind : ContainerKind) (extents : List Nat) (p : Provenance)
    (g : Graph) : (Variable.ofExtents kind extents p).Supported g := by
  refine ⟨Variable.supportedAll_iff.mpr fun item hitem => ?_, fun _ item hitem => ?_⟩
  all_goals
    obtain ⟨n, -, rfl⟩ := List.mem_map.mp hitem
    simp [Variable.Supported, Variable.isExtent]

/-- One supported variable before others that are supported already. -/
theorem supportsAll_cons {act : Capture Variable} {rest : Capture (List Variable)}
    (h : Supports act) (hact : Proceeds act) (hrest : SupportsAll rest) (hgo : Proceeds rest) :
    SupportsAll (act >>= fun first => rest >>= fun others => pure (first :: others)) := by
  refine answers_bind_of h hact (fun _ => keeps_bind hgo fun _ => keeps_pure _) ?_
  intro first t u vs hconfig hfirst hgrows hout
  obtain ⟨others, u', hothers, hpure⟩ := outcome_bind_eq_ok hout
  cases hpure
  exact ⟨Variable.Supported.mono hgrows first hfirst, hrest hconfig hothers⟩

/-- A tensor is supported once its node has an example. -/
theorem answers_setExample (id : NodeId) (value : Value) :
    Answers (fun g _ => (g.stored? id).isSome) (setExample id value) := by
  intro t u _ _ hout
  have he := exampleOf_of_setExample hout
  exact Option.isSome_iff_exists.mpr ⟨value, Graph.stored?_eq_some_iff.mpr he⟩

theorem supports_symbolic (id : NodeId) (value : Value) {tensor : SymbolicTensor}
    (hnode : tensor.node = id) :
    Supports (do setExample id value; return .tensor tensor) := by
  refine answers_bind_of (answers_setExample id value) (reaches_setExample id value)
    (fun _ => keeps_pure _) ?_
  intro _ t u v _ hstored _ hpure
  cases hpure
  rw [← hnode] at hstored
  exact hstored

theorem supports_buildTensor (role : TensorRole) (p : Provenance) (id : NodeId)
    (supplied : Option Tensor) (tensor : Tensor) :
    Supports (buildTensor role p id supplied tensor) :=
  answers_bind keeps_config fun _ => supports_symbolic id _ rfl

theorem supports_buildSymbolicNumber (p : Provenance) (id : NodeId) (value : Value)
    (number : Scalar) : Supports (buildSymbolicNumber p id value number) :=
  supports_symbolic id value rfl

/-- Symbolic extents are tensors that are supported. -/
theorem answers_buildExtents (id : NodeId) (index : Nat) (extents : List Nat) :
    Answers (fun g vs => Variable.SupportedAll g vs ∧ ∀ v ∈ vs, v.isExtent = true)
      (buildExtents id index extents) := by
  induction extents generalizing index with
  | nil => exact answers_pure fun g => ⟨trivial, by simp⟩
  | cons extent rest ih =>
      refine answers_bind (reaches_parts.recordItem id index) fun item => ?_
      by_cases hextent : extent < Word.signedBound
      · simp only [hextent, if_true]
        refine answers_bind_of (answers_setExample item _) (reaches_setExample item _) (fun _ =>
          keeps_bind (reaches_parts.buildExtents id _ rest) fun _ => keeps_pure _) ?_
        intro _ t u vs hconfig hstored hgrows hout
        obtain ⟨others, u', hothers, hpure⟩ := outcome_bind_eq_ok hout
        obtain ⟨hsupported, hextents⟩ := ih (index + 1) hconfig hothers
        cases hpure
        have hitem := Variable.Supported.mono hgrows (symbolicNumber item .int .none) hstored
        exact ⟨⟨hitem, hsupported⟩, by simpa [symbolicNumber, Variable.isExtent] using hextents⟩
      · simp only [hextent, if_false]
        intro t u vs _ hout
        obtain ⟨_, _, hbreach, -⟩ := outcome_bind_eq_ok hout
        cases hbreach

theorem supports_buildSymbolicSize (p : Provenance) (id : NodeId) (extents : List Nat) :
    Supports (buildSymbolicSize p id extents) := by
  refine answers_bind (reaches_setExample id _) fun _ => ?_
  refine answers_bind_of (answers_buildExtents id 0 extents) (reaches_parts.buildExtents id 0 _)
    (fun _ => keeps_pure _) ?_
  intro items t u v _ hitems _ hpure
  cases hpure
  exact ⟨hitems.1, fun _ => hitems.2⟩

theorem supports_buildSize (p : Provenance) (id : NodeId) (extents : List Nat) :
    Supports (buildSize p id extents) :=
  answers_bind (reaches_setExample id _) fun _ => answers_pure (supported_ofExtents .size _ p)

theorem supports_buildLiteral (p : Provenance) (id : NodeId) (value : Value) (number : Scalar) :
    Supports (buildLiteral p id value number) :=
  answers_bind (reaches_setExample id _) fun _ => answers_pure fun _ => trivial

theorem supports_buildScalar (p : Provenance) (id : NodeId) (number : Scalar) :
    Supports (buildScalar p id number) :=
  answers_bind keeps_config fun _ =>
    answers_bind (reaches_say _ _ _) fun _ => supports_buildTensor _ p id _ _

theorem supports_buildSequence (p : Provenance) (id : NodeId) (kind : ContainerKind)
    (hkind : kind.isSize = false) (value : Value) {items : Capture (List Variable)}
    (hitems : SupportsAll items) (hgo : Proceeds items) :
    Supports (buildSequence p id kind value items) := by
  refine answers_bind (reaches_setExample id _) fun _ => ?_
  have hprovenance := reaches_parts.containerProvenance (R := Reaches fun _ => True) kind p
  refine answers_bind_of hitems hgo (fun _ => keeps_bind hprovenance fun _ => keeps_pure _) ?_
  intro contents t u v _ hcontents hgrows hout
  obtain ⟨q, u', -, hpure⟩ := outcome_bind_eq_ok hout
  cases hpure
  refine ⟨Variable.SupportedAll.mono hgrows contents hcontents, fun hsize => ?_⟩
  rw [hkind] at hsize
  cases hsize

theorem supports_buildAs (role : TensorRole) (p : Provenance) (id : NodeId) (target : Target)
    (supplied : Option Tensor) (erased : Bool) (value : Value) {items : Capture (List Variable)}
    (hitems : SupportsAll items) (hgo : Proceeds items) (rule : Rule) :
    Supports (buildAs role p id target supplied erased value items rule) := by
  unfold buildAs
  split
  · exact supports_buildTensor role p id supplied _
  · exact supports_buildSymbolicSize p id _
  · exact supports_buildSize p id _
  · exact supports_buildSequence p id .tuple rfl _ hitems hgo
  · exact supports_buildSequence p id .list rfl _ hitems hgo
  · exact supports_buildSequence p id (.record _) rfl _ hitems hgo
  · exact answers_pure fun _ => trivial
  · split
    · exact supports_buildSymbolicNumber p id value _
    · exact supports_buildSymbolicNumber p id value _
    · exact supports_buildLiteral p id value _
    · exact supports_buildScalar p id _
    · exact answers_breach _

theorem supports_classifyWith (role : TensorRole) (p : Provenance) (id : NodeId)
    (target : Target) (supplied : Option Tensor) (erased : Bool) (value : Value)
    {items : Capture (List Variable)} (hitems : SupportsAll items) (hgo : Proceeds items) :
    Supports (classifyWith role p id target supplied erased value items) := by
  refine answers_bind keeps_config fun config => ?_
  split
  · exact answers_breach _
  · exact answers_bind (reaches_say _ _ _) fun _ =>
      supports_buildAs role p id target supplied erased value hitems hgo _

mutual

theorem supports_classify (role : TensorRole) (p : Provenance) (id : NodeId) (target : Target)
    (supplied : Option Tensor) (erased : Bool) (value : Value) :
    Supports (classify role p id target supplied erased value) := by
  have hgo (items : List Value) : Proceeds (classifyItems role p id erased 0 items) :=
    reaches_parts.classifyItems role trivial id erased 0 items
  unfold classify
  cases value with
  | tuple items =>
      exact supports_classifyWith role p id target _ _ _
        (supportsAll_classifyItems role p id erased 0 items) (hgo items)
  | list items =>
      exact supports_classifyWith role p id target _ _ _
        (supportsAll_classifyItems role p id erased 0 items) (hgo items)
  | record type items =>
      exact supports_classifyWith role p id target _ _ _
        (supportsAll_classifyItems role p id erased 0 items) (hgo items)
  | _ =>
      exact supports_classifyWith role p id target _ _ _ (answers_pure fun _ => trivial)
        (keeps_pure _)

theorem supportsAll_classifyItems (role : TensorRole) (p : Provenance) (id : NodeId)
    (erased : Bool) (index : Nat) (items : List Value) :
    SupportsAll (classifyItems role p id erased index items) := by
  cases items with
  | nil => exact answers_pure fun _ => trivial
  | cons item rest =>
      unfold classifyItems
      have hrest := supportsAll_classifyItems role p id erased (index + 1) rest
      have hgo : Proceeds (classifyItems role p id erased (index + 1) rest) :=
        reaches_parts.classifyItems role trivial id erased (index + 1) rest
      by_cases hnone : item.isNone = true
      · simp only [hnone, if_true]
        exact supportsAll_cons (answers_pure fun _ => trivial) (keeps_pure _) hrest hgo
      · -- the item gets a node of its own and is classified in turn
        simp only [hnone, Bool.false_eq_true, if_false]
        refine answers_bind (reaches_parts.recordItem id index) fun child => ?_
        refine answers_bind (reaches_addGuards p.guards) fun _ => ?_
        refine answers_bind keeps_config fun config => ?_
        have hclassify := supports_classify role p child (.builtin .getItem)
          (prepared erased item).toTensor? config.placeholderPropagation item
        exact supportsAll_cons hclassify
          (reaches_parts.classify role trivial child (.builtin .getItem) _ _ item) hrest hgo

end

/-- A node that was classified has an example, unless the variable does not refer to it. -/
theorem supports_create (id : NodeId) (supplied : Option Value) (module? : Option Nat)
    (role : TensorRole) (p : Provenance) : Supports (create id supplied module? role p) := by
  intro t u v hconfig hout
  unfold create at hout
  obtain ⟨_, t₁, hguards, hout⟩ := outcome_bind_eq_ok hout
  cases hguards
  obtain ⟨n, t₂, hnode, hout⟩ := outcome_bind_eq_ok hout
  obtain ⟨-, rfl⟩ := node_eq_ok hnode
  split at hout
  · obtain ⟨_, _, hbreach, -⟩ := outcome_bind_eq_ok hout
    cases hbreach
  · obtain ⟨config, t₃, hasks, hout⟩ := outcome_bind_eq_ok hout
    cases hasks
    -- operations are run for their examples, so the value is classified
    simp only [hconfig, if_true] at hout
    have hclassified : Supports (do
        let value ← exampleValue id supplied module?
        classify role p id (← node id).target (supplied.bind Value.toTensor?) false value) :=
      answers_bind (reaches_exampleValue id supplied module?) fun value =>
        answers_bind (keeps_node id) fun n => supports_classify role p id n.target _ _ value
    refine hclassified ?_ hout
    exact hconfig

end Capture

end TensorCapture
