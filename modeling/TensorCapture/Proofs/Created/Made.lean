import TensorCapture.Proofs.Operands.Usable
import TensorCapture.Proofs.Unpacking.Shape

set_option autoImplicit false

/-! # What classification makes

Whatever rule classifies a node, the variable is one of a few: a tensor, a symbolic number, a
literal, a size with its extents, or a container of variables that were made in the same way.
All of them have the provenance that was asked for, but for the identity that a list gets, and
for the extents of sizes, which have none.

Of a tensor that was made, the trace remembers the metadata of the example that its node has. The
example stays and so do the metadata, so this holds at any later time.
-/

namespace TensorCapture

open Capture Trace

/-! ## Conditions on answers -/

namespace Capture

variable {α β : Type} {P : Trace → α → Prop} {Q : Trace → β → Prop}

/-- Whatever the step answers satisfies the condition in the trace after it. -/
def Ensures (P : Trace → α → Prop) (act : Capture α) : Prop :=
  ∀ ⦃t u a⦄, act.outcome t = (.ok a, u) → P u a

theorem ensures_pure {a : α} (h : ∀ t, P t a) : Ensures P (pure a) := by
  intro t u b hout
  cases hout
  exact h t

theorem ensures_breach (b : Breach) : Ensures P (breach b) := by
  intro t u a hout
  cases hout

/-- The second step gives the answer. -/
theorem ensures_bind {act : Capture α} {f : α → Capture β} (hf : ∀ a, Ensures Q (f a)) :
    Ensures Q (act >>= f) := by
  intro t u b hout
  obtain ⟨a, t', -, hsecond⟩ := outcome_bind_eq_ok hout
  exact hf a hsecond

/-- The second step makes the answer of what the first one answered. Meanwhile small steps may
have been taken. -/
theorem ensures_bind_of {act : Capture α} {f : α → Capture β} (h : Ensures P act)
    (hf : ∀ a, Proceeds (f a))
    (hanswer : ∀ (a : α) (t u : Trace) (b : β), P t a → t.Advances u →
      (f a).outcome t = (.ok b, u) → Q u b) : Ensures Q (act >>= f) := by
  intro t u b hout
  obtain ⟨a, t', hfirst, hsecond⟩ := outcome_bind_eq_ok hout
  have hreaches : Reaches _ t' ((f a).outcome t').2 := hf a t'
  rw [hsecond] at hreaches
  exact hanswer a t' u b (h hfirst) hreaches.advances hsecond

end Capture

/-! ## Variables that were made -/

/-- Where operations are run for their examples, the node of the tensor has an example, and the
metadata are those of the example. -/
def Trace.Remembers (t : Trace) (x : SymbolicTensor) : Prop :=
  t.config.dynamicPropagation = true →
    ∃ e, t.graph.stored? x.node = some (.tensor e) ∧ x.metadata = some (e.captured t.config)

theorem Trace.Remembers.advance {t u : Trace} {x : SymbolicTensor} (h : t.Remembers x)
    (hlater : t.Advances u) : u.Remembers x := by
  intro hconfig
  rw [hlater.1] at hconfig ⊢
  obtain ⟨e, hstored, hmetadata⟩ := h hconfig
  exact ⟨e, hlater.2.stored hstored, hmetadata⟩

/-- What classification makes of a node, where it is asked for a provenance and knows of some
tensors what they are. -/
inductive Variable.Made (known : SymbolicTensor → Prop) (p : Provenance) : Variable → Prop where
  | tensor {x : SymbolicTensor} (hknown : known x) (hprovenance : x.provenance = p) :
      Made known p (.tensor x)
  | number (id : NodeId) (runtimeClass : RuntimeClass) :
      Made known p (symbolicNumber id runtimeClass p)
  | literal (value : Literal) : Made known p (.constant value p)
  /-- The extents are literals without a provenance. -/
  | size (extents : List Nat) : Made known p (.ofExtents .size extents p)
  /-- The extents are symbolic numbers without a provenance. -/
  | symbolicSize {extents : List Variable}
      (hextents : ∀ extent ∈ extents, ∃ id, extent = symbolicNumber id .int .none) (id : NodeId) :
      Made known p (.container .size extents id p)
  /-- A list has an identity of its own. -/
  | sequence {kind : ContainerKind} (hkind : kind.isSize = false) {items : List Variable}
      (hitems : ∀ item ∈ items, Made known p item) (identity : Option Nat) :
      Made known p (.container kind items none { p with identity })

namespace Variable.Made

variable {known known' : SymbolicTensor → Prop} {p : Provenance} {v : Variable}

theorem imp (himp : ∀ x, known x → known' x) (h : v.Made known p) : v.Made known' p := by
  induction h with
  | tensor hknown hprovenance => exact .tensor (himp _ hknown) hprovenance
  | number id runtimeClass => exact .number id runtimeClass
  | literal value => exact .literal value
  | size extents => exact .size extents
  | symbolicSize hextents id => exact .symbolicSize hextents id
  | sequence hkind _ identity ih => exact .sequence hkind ih identity

/-- The variable itself carries the guards that were asked for. -/
theorem guards_eq (h : v.Made known p) : v.guards = p.guards := by
  cases h with
  | tensor _ hprovenance => exact congrArg Provenance.guards hprovenance
  | number _ _ => rfl
  | literal _ => rfl
  | size _ => rfl
  | symbolicSize _ _ => rfl
  | sequence _ _ _ => rfl

/-- What was made is still known at a later time. -/
theorem advance {t u : Trace} (h : v.Made t.Remembers p) (hlater : t.Advances u) :
    v.Made u.Remembers p := h.imp fun _ hx => hx.advance hlater

end Variable.Made

/-! ## The rules -/

namespace Capture

/-- The step answers with a variable that was made as asked for. -/
abbrev Makes (p : Provenance) (act : Capture Variable) : Prop :=
  Ensures (fun t v => v.Made t.Remembers p) act

/-- The step answers with variables that were made as asked for. -/
abbrev MakesAll (p : Provenance) (act : Capture (List Variable)) : Prop :=
  Ensures (fun t vs => ∀ v ∈ vs, v.Made t.Remembers p) act

variable {p : Provenance}

/-- The metadata are read off the tensor that becomes the example. -/
theorem makes_buildTensor (role : TensorRole) (id : NodeId) (supplied : Option Tensor)
    (tensor : Tensor) : Makes p (buildTensor role p id supplied tensor) := by
  intro t u v hout
  obtain ⟨config, t', hconfig, hout⟩ := outcome_bind_eq_ok hout
  cases hconfig
  obtain ⟨_, t', hset, hpure⟩ := outcome_bind_eq_ok hout
  cases hpure
  refine .tensor (fun _ => ⟨tensor, ?_, ?_⟩) rfl
  · exact Graph.stored?_eq_some_iff.mpr (exampleOf_of_setExample hset)
  · have hreaches : Reaches (fun _ => True) t ((setExample id (.tensor tensor)).outcome t).2 :=
      reaches_setExample id _ t
    rw [hset] at hreaches
    rw [hreaches.config_eq]
    rfl

/-- Symbolic extents are numbers without a provenance. -/
theorem ensures_buildExtents (id : NodeId) (index : Nat) (extents : List Nat) :
    Ensures (fun _ vs => ∀ v ∈ vs, ∃ id, v = symbolicNumber id .int .none)
      (buildExtents id index extents) := by
  induction extents generalizing index with
  | nil => exact ensures_pure fun _ => by simp
  | cons extent rest ih =>
      refine ensures_bind fun item => ?_
      have others : Ensures (fun _ vs => ∀ v ∈ vs, ∃ id, v = symbolicNumber id .int .none) (do
          let others ← buildExtents id (index + 1) rest
          return symbolicNumber item .int .none :: others) := by
        refine ensures_bind_of (ih (index + 1)) (fun _ => keeps_pure _) ?_
        intro others t u vs hothers _ hpure
        cases hpure
        exact List.forall_mem_cons.mpr ⟨⟨item, rfl⟩, hothers⟩
      dsimp only
      split
      · exact ensures_bind fun _ => others
      · exact ensures_bind fun _ => others

theorem makes_buildSymbolicSize (id : NodeId) (extents : List Nat) :
    Makes p (buildSymbolicSize p id extents) := by
  refine ensures_bind fun _ => ?_
  refine ensures_bind_of (ensures_buildExtents id 0 extents) (fun _ => keeps_pure _) ?_
  intro items t u v hitems _ hpure
  cases hpure
  exact .symbolicSize hitems id

/-- The identity is all that is new about the provenance of a container. -/
theorem ensures_containerProvenance (kind : ContainerKind) :
    Ensures (fun _ q => ∃ identity, q = { p with identity }) (containerProvenance kind p) := by
  unfold containerProvenance
  split
  · exact ensures_bind fun identity => ensures_pure fun _ => ⟨identity, rfl⟩
  · exact ensures_pure fun _ => ⟨p.identity, rfl⟩

theorem makes_buildSequence (id : NodeId) {kind : ContainerKind} (hkind : kind.isSize = false)
    (value : Value) {items : Capture (List Variable)} (hitems : MakesAll p items) :
    Makes p (buildSequence p id kind value items) := by
  have hprovenance := reaches_parts.containerProvenance (R := Reaches fun _ => True) kind p
  refine ensures_bind fun _ => ?_
  refine ensures_bind_of hitems (fun _ => keeps_bind hprovenance fun _ => keeps_pure _) ?_
  intro contents t u v hcontents hlater hout
  obtain ⟨q, u', hq, hpure⟩ := outcome_bind_eq_ok hout
  obtain ⟨identity, rfl⟩ := ensures_containerProvenance kind hq
  cases hpure
  exact .sequence hkind (fun item hitem => (hcontents item hitem).advance hlater) identity

theorem makes_buildAs (role : TensorRole) (id : NodeId) (target : Target)
    (supplied : Option Tensor) (erased : Bool) (value : Value) {items : Capture (List Variable)}
    (hitems : MakesAll p items) (rule : Rule) :
    Makes p (buildAs role p id target supplied erased value items rule) := by
  unfold buildAs
  split
  · exact makes_buildTensor role id supplied _
  · exact makes_buildSymbolicSize id _
  · exact ensures_bind fun _ => ensures_pure fun _ => .size _
  · exact makes_buildSequence id rfl _ hitems
  · exact makes_buildSequence id rfl _ hitems
  · exact makes_buildSequence id rfl _ hitems
  · exact ensures_pure fun _ => .literal .none
  · split
    · exact ensures_bind fun _ => ensures_pure fun _ => .number id _
    · exact ensures_bind fun _ => ensures_pure fun _ => .number id _
    · exact ensures_bind fun _ => ensures_pure fun _ => .literal _
    · exact ensures_bind fun _ => ensures_bind fun _ => makes_buildTensor _ id _ _
    · exact ensures_breach _

theorem makes_classifyWith (role : TensorRole) (id : NodeId) (target : Target)
    (supplied : Option Tensor) (erased : Bool) (value : Value) {items : Capture (List Variable)}
    (hitems : MakesAll p items) :
    Makes p (classifyWith role p id target supplied erased value items) := by
  refine ensures_bind fun config => ?_
  split
  · exact ensures_breach _
  · exact ensures_bind fun _ => makes_buildAs role id target supplied erased value hitems _

/-- One variable before others. -/
theorem makesAll_cons {act : Capture Variable} {rest : Capture (List Variable)}
    (h : Makes p act) (hrest : MakesAll p rest) (hgo : Proceeds rest) :
    MakesAll p (act >>= fun first => rest >>= fun others => pure (first :: others)) := by
  refine ensures_bind_of h (fun _ => keeps_bind hgo fun _ => keeps_pure _) ?_
  intro first t u vs hfirst hlater hout
  obtain ⟨others, u', hothers, hpure⟩ := outcome_bind_eq_ok hout
  cases hpure
  intro v hv
  rcases List.mem_cons.mp hv with rfl | hv
  · exact hfirst.advance hlater
  · exact hrest hothers v hv

mutual

theorem makes_classify (role : TensorRole) (id : NodeId) (target : Target)
    (supplied : Option Tensor) (erased : Bool) (value : Value) :
    Makes p (classify role p id target supplied erased value) := by
  unfold classify
  cases value with
  | tuple items =>
      exact makes_classifyWith role id target _ _ _ (makesAll_classifyItems role id erased 0 items)
  | list items =>
      exact makes_classifyWith role id target _ _ _ (makesAll_classifyItems role id erased 0 items)
  | record type items =>
      exact makes_classifyWith role id target _ _ _ (makesAll_classifyItems role id erased 0 items)
  | _ => exact makes_classifyWith role id target _ _ _ (ensures_pure fun _ => by simp)

theorem makesAll_classifyItems (role : TensorRole) (id : NodeId) (erased : Bool) (index : Nat)
    (items : List Value) : MakesAll p (classifyItems role p id erased index items) := by
  cases items with
  | nil => exact ensures_pure fun _ => by simp
  | cons item rest =>
      unfold classifyItems
      have hrest : MakesAll p (classifyItems role p id erased (index + 1) rest) :=
        makesAll_classifyItems role id erased (index + 1) rest
      have hgo : Proceeds (classifyItems role p id erased (index + 1) rest) :=
        reaches_parts.classifyItems role trivial id erased (index + 1) rest
      by_cases hnone : item.isNone = true
      · simp only [hnone, if_true]
        exact makesAll_cons (ensures_pure fun _ => .literal .none) hrest hgo
      · -- the item gets a node of its own and is classified in turn
        simp only [hnone, Bool.false_eq_true, if_false]
        refine ensures_bind fun child => ensures_bind fun _ => ensures_bind fun config => ?_
        exact makesAll_cons (makes_classify role child (.builtin .getItem) _ _ item) hrest hgo

end

/-- Classification makes the variable as asked for. Where operations are not run, it is a tensor of
which nothing has to be remembered. -/
theorem makes_create (id : NodeId) (supplied : Option Value) (module? : Option Nat)
    (role : TensorRole) : Makes p (create id supplied module? role p) := by
  intro t u v hout
  unfold create at hout
  obtain ⟨_, t₁, hguards, hout⟩ := outcome_bind_eq_ok hout
  obtain ⟨n, t₂, hnode, hout⟩ := outcome_bind_eq_ok hout
  split at hout
  · obtain ⟨_, _, hbreach, -⟩ := outcome_bind_eq_ok hout
    cases hbreach
  · obtain ⟨config, t₃, hasks, hout⟩ := outcome_bind_eq_ok hout
    cases hasks
    by_cases hconfig : t₂.config.dynamicPropagation = true
    · simp only [hconfig, if_true] at hout
      have hclassified : Makes p (do
          let value ← exampleValue id supplied module?
          classify role p id (← node id).target (supplied.bind Value.toTensor?) false value) :=
        ensures_bind fun value => ensures_bind fun n => makes_classify role id n.target _ _ value
      exact hclassified hout
    · simp only [hconfig, Bool.false_eq_true, if_false] at hout
      cases hout
      exact .tensor (fun hdynamic => absurd hdynamic hconfig) rfl

/-! ## Methods -/

section Method

variable {Q : Variable → Prop} {x : SymbolicTensor} {name : String} {args : List Variable}
  {kwargs : Named Variable}

/-- A node that is recorded is answered with what classification makes of it. -/
theorem ensures_create_of_made (hmade : ∀ known v, Variable.Made known p v → Q v) (id : NodeId)
    (role : TensorRole) : Ensures (fun _ v => Q v) (create id none none role p) :=
  fun _ _ v hout => hmade _ v (makes_create id none none role hout)

/-- A method call answers with what is selected from the metadata, or with something made: a
literal, or what classification makes of the node that was recorded. -/
theorem ensures_callMethod
    (hindexed : ∀ answer v, x.query? name (.propagate (.tensor x :: args ++ kwargs.values)) =
      some (.ok answer) →
      answer.indexed args (.propagate (.tensor x :: args ++ kwargs.values)) = .ok v → Q v)
    (hmade : ∀ known v,
      Variable.Made known (.propagate (.tensor x :: args ++ kwargs.values)) v → Q v) :
    Ensures (fun _ v => Q v) (callMethod x name args kwargs) := by
  have hcreate := fun id => ensures_create_of_made hmade id x.role.derived
  have hliteral := fun value => hmade (fun _ => True) _ (.literal value)
  unfold callMethod
  dsimp only
  split
  · intro t u v hout
    cases hout
  · rename_i answer hquery
    split
    · intro t u v hout
      obtain ⟨hselected, -⟩ := ofExcept_eq_ok hout
      exact hindexed answer v hquery hselected
    · exact ensures_breach _
  · refine ensures_bind fun config => ?_
    split
    · intro t u v hout
      cases hout
    · split
      · exact ensures_bind hcreate
      · unfold length
        split
        · exact ensures_pure fun _ => hliteral _
        · exact ensures_bind hcreate
      · exact ensures_bind fun _ => ensures_bind fun _ => ensures_bind fun _ =>
          ensures_pure fun _ => hliteral _
      · exact ensures_bind fun _ => ensures_bind fun _ => ensures_bind hcreate

end Method

end Capture

end TensorCapture
