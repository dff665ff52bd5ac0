import TensorCapture.Proofs.Capture.Keeps
import TensorCapture.Proofs.Graph.Change
import TensorCapture.Proofs.Placeholder.Layers
import TensorCapture.Proofs.Placeholder.Sameness

set_option autoImplicit false

/-! # Steps that agree on twins

Two traces are twins when they use placeholders and differ at most in the elements of the
parameters of their layers. `Agree E act act'` relates two steps: from twins they come to the
same error, or to answers that `E` relates, and they leave twins. It is closed under sequencing,
so that two runs can be compared step by step.
-/

namespace TensorCapture

/-! ## Twins -/

/-- No example value in the graph holds elements. -/
def Graph.Hollow (g : Graph) : Prop :=
  ∀ (i : Nat) (n : Node) (v : Value), g.nodes[i]? = some n → n.example? = some v → v.Hollow

/-- Traces that use placeholders and have the same settings and graph. Their layers are equal up
to the elements of the parameters, and their inliners give the same bodies up to elements. -/
structure Trace.Twin (t t' : Trace) : Prop where
  config_eq : t'.config = t.config
  placeholders : t.config.placeholderPropagation = true
  graph_eq : t'.graph = t.graph
  hollow : t.graph.Hollow
  workshop : t.workshop.Twin t'.workshop
  inliner : Option.Rel Inliner.Same t.inliner t'.inliner
  dispatching_eq : t'.dispatching = t.dispatching

namespace Trace.Twin

variable {t t' : Trace}

theorem withGraph (h : t.Twin t') {g : Graph} (hg : g.Hollow) :
    ({ t with graph := g } : Trace).Twin { t' with graph := g } :=
  ⟨h.config_eq, h.placeholders, rfl, hg, h.workshop, h.inliner, h.dispatching_eq⟩

theorem withWorkshop (h : t.Twin t') {w w' : Workshop} (hw : w.Twin w') :
    ({ t with workshop := w } : Trace).Twin { t' with workshop := w' } :=
  ⟨h.config_eq, h.placeholders, h.graph_eq, h.hollow, hw, h.inliner, h.dispatching_eq⟩

theorem withDispatching (h : t.Twin t') (dispatching : Bool) :
    ({ t with dispatching } : Trace).Twin { t' with dispatching } :=
  ⟨h.config_eq, h.placeholders, h.graph_eq, h.hollow, h.workshop, h.inliner, rfl⟩

theorem module?_eq (h : t.Twin t') (path : String) :
    t'.graph.module? path = t.graph.module? path := by
  rw [h.graph_eq]

end Trace.Twin

/-! ## Graphs without elements -/

namespace Graph

variable {g g' : Graph}

theorem hollow_empty : empty.Hollow := by
  intro i n v hn
  rw [getElem?_nodes_empty] at hn
  cases hn

theorem Hollow.congr (h : g.Hollow) (hnodes : g'.nodes = g.nodes) : g'.Hollow := by
  intro i n v hn hv
  rw [hnodes] at hn
  exact h i n v hn hv

theorem Hollow.append (h : g.Hollow) (target : Target) (args : List Operand)
    (kwargs : Named Operand) : (g.append target args kwargs).Hollow := by
  intro i n v hn hv
  rw [getElem?_nodes_append] at hn
  split at hn
  · -- the new node has no example value yet
    cases hn
    cases hv
  · exact h i n v hn hv

theorem Hollow.record (h : g.Hollow) {target : Target} {args : List Operand}
    {kwargs : Named Operand} {id : NodeId} (hg : g.record target args kwargs = .ok (id, g')) :
    g'.Hollow := by
  obtain ⟨rfl, -⟩ := record_eq_ok hg
  exact h.append target args kwargs

theorem Hollow.setExample (h : g.Hollow) {id : NodeId} {value : Value} (hvalue : value.Hollow)
    (hg : g.setExample id value = .ok g') : g'.Hollow := by
  intro i n v hn hv
  rw [getElem?_nodes_setExample hg] at hn
  split at hn
  · obtain ⟨old, hold, rfl⟩ := Option.map_eq_some_iff.mp hn
    have heq : value = v := Option.some.inj hv
    subst heq
    exact hvalue
  · exact h i n v hn hv

theorem Hollow.literalize (h : g.Hollow) (id : NodeId) (p : Provenance) :
    (g.literalize id p).Hollow := by
  unfold Graph.literalize
  cases p.source <;> exact h.congr rfl

end Graph

/-! ## Agreement -/

namespace Capture

variable {α β : Type}

/-- The same fault, or answers that are related. -/
inductive Alike (E : α → α → Prop) : Outcome CaptureError α → Outcome CaptureError α → Prop where
  | ok {a a' : α} (h : E a a') : Alike E (.ok a) (.ok a')
  | error (fault : Fault CaptureError) : Alike E (.error fault) (.error fault)

/-- From twins, the two steps come to the same fault or to related answers, and leave twins. -/
def Agree (E : α → α → Prop) (act act' : Capture α) : Prop :=
  ∀ t t' : Trace, t.Twin t' →
    Alike E (act.outcome t).1 (act'.outcome t').1 ∧ (act.outcome t).2.Twin (act'.outcome t').2

section Rules

variable {E : α → α → Prop} {G : β → β → Prop} {act act' : Capture α} {f f' : α → Capture β}

theorem agree_pure {a a' : α} (h : E a a') : Agree E (pure a) (pure a') :=
  fun _ _ ht => ⟨.ok h, ht⟩

theorem agree_throw (fault : Fault CaptureError) : Agree E (throw fault) (throw fault) :=
  fun _ _ ht => ⟨.error fault, ht⟩

theorem agree_fail (e : CaptureError) : Agree E (fail e) (fail e) := agree_throw _

theorem agree_refuse (reason : Refusal) : Agree E (refuse reason) (refuse reason) := agree_fail _

theorem agree_breach (b : Breach) : Agree E (breach b) (breach b) := agree_fail _

theorem agree_bind (h : Agree E act act') (hf : ∀ a a', E a a' → Agree G (f a) (f' a')) :
    Agree G (act >>= f) (act' >>= f') := by
  intro t t' ht
  have hact := h t t' ht
  rcases hout : act.outcome t with ⟨result, u⟩
  rcases hout' : act'.outcome t' with ⟨result', u'⟩
  rw [hout, hout'] at hact
  obtain ⟨halike, htwin⟩ := hact
  -- with answers both runs go on from twins, with a fault both end there
  cases halike with
  | ok ha =>
      rw [outcome_bind_ok hout, outcome_bind_ok hout']
      exact hf _ _ ha u u' htwin
  | error fault =>
      rw [outcome_bind_error hout, outcome_bind_error hout']
      exact ⟨.error fault, htwin⟩

theorem agree_map {g g' : α → β} (h : Agree E act act') (hg : ∀ a a', E a a' → G (g a) (g' a')) :
    Agree G (g <$> act) (g' <$> act') := by
  rw [map_eq_pure_bind, map_eq_pure_bind]
  exact agree_bind h fun a a' ha => agree_pure (hg a a' ha)

theorem agree_ite (c : Prop) [Decidable c] {other other' : Capture α} (h : Agree E act act')
    (hother : Agree E other other') :
    Agree E (if c then act else other) (if c then act' else other') := by
  by_cases hc : c
  · rw [if_pos hc, if_pos hc]
    exact h
  · rw [if_neg hc, if_neg hc]
    exact hother

theorem agree_ofExcept {r r' : Except CaptureError α}
    (h : ∀ e, r = .error e → r' = .error e) (hok : ∀ a, r = .ok a → ∃ a', r' = .ok a' ∧ E a a') :
    Agree E (ofExcept r) (ofExcept r') := by
  cases r with
  | error e =>
      rw [h e rfl]
      exact agree_fail e
  | ok a =>
      obtain ⟨a', ha', hE⟩ := hok a rfl
      rw [ha']
      exact agree_pure hE

/-- Results that are the same after a map which forgets a part of them. -/
theorem agree_ofExcept_map {f : α → β} {r r' : Except CaptureError α} (h : r.map f = r'.map f) :
    Agree (fun a a' => f a = f a') (ofExcept r) (ofExcept r') := by
  cases r with
  | error e =>
      cases r' with
      | error e' =>
          cases h
          exact agree_fail e
      | ok a' => cases h
  | ok a =>
      cases r' with
      | error e' => cases h
      | ok a' => exact agree_pure (Except.ok.inj h)

/-- The same result in both runs. -/
theorem agree_ofExcept_self (r : Except CaptureError α) (h : ∀ a, r = .ok a → E a a) :
    Agree E (ofExcept r) (ofExcept r) :=
  agree_ofExcept (fun _ he => he) fun a ha => ⟨a, ha, h a ha⟩

/-- An error that becomes part of the answer is the same in both runs. -/
theorem agree_attempt {f : α → β} (h : Agree (fun a a' => f a = f a') act act') :
    Agree (fun r r' : Except CaptureError α => r.map f = r'.map f) (attempt act)
      (attempt act') := by
  intro t t' ht
  have hact := h t t' ht
  unfold attempt
  rw [outcome_ofFunction, outcome_ofFunction]
  rcases hout : act.outcome t with ⟨result, u⟩
  rcases hout' : act'.outcome t' with ⟨result', u'⟩
  rw [hout, hout'] at hact
  obtain ⟨halike, htwin⟩ := hact
  cases halike with
  | ok ha => exact ⟨.ok (congrArg Except.ok ha), htwin⟩
  | error fault =>
      cases fault with
      | error e => exact ⟨.ok rfl, htwin⟩
      | abort => exact ⟨.error .abort, htwin⟩

theorem agree_withoutDispatch (h : Agree E act act') :
    Agree E (withoutDispatch act) (withoutDispatch act') := by
  intro t t' ht
  obtain ⟨halike, htwin⟩ := h _ _ (ht.withDispatching false)
  have hrestored := htwin.withDispatching t.dispatching
  unfold withoutDispatch
  rw [outcome_ofFunction, outcome_ofFunction]
  dsimp only
  rw [ht.dispatching_eq]
  exact ⟨halike, hrestored⟩

end Rules

/-! ## Parts of the state -/

theorem agree_get : Agree Trace.Twin get get := fun _ _ ht => ⟨.ok ht, ht⟩

/-- The settings are the same and say that placeholders are used. -/
theorem agree_config :
    Agree (fun c c' => c' = c ∧ c.placeholderPropagation = true) config config :=
  fun _ _ ht => ⟨.ok ⟨ht.config_eq, ht.placeholders⟩, ht⟩

theorem agree_say (level : Log.Level) (channel : Log.Channel) (text : String) :
    Agree Eq (say level channel text) (say level channel text) :=
  fun _ _ ht => ⟨.ok rfl, ht.withWorkshop (ht.workshop.note _ _)⟩

theorem agree_noteCall (call call' : FunctionCall) : Agree Eq (noteCall call) (noteCall call') :=
  fun _ _ ht => ⟨.ok rfl, ht.withWorkshop (ht.workshop.note _ _)⟩

theorem agree_setGraph {g : Graph} (hg : g.Hollow) :
    Agree Eq (modifyGraph fun _ => g) (modifyGraph fun _ => g) :=
  fun _ _ ht => ⟨.ok rfl, ht.withGraph hg⟩

theorem agree_modifyGraph {f : Graph → Graph} (hf : ∀ g : Graph, g.Hollow → (f g).Hollow) :
    Agree Eq (modifyGraph f) (modifyGraph f) := by
  intro t t' ht
  refine ⟨.ok rfl, ?_⟩
  show ({ t with graph := f t.graph } : Trace).Twin { t' with graph := f t'.graph }
  rw [ht.graph_eq]
  exact ht.withGraph (hf t.graph ht.hollow)

theorem agree_addGuards (guards : GuardSet) : Agree Eq (addGuards guards) (addGuards guards) :=
  agree_modifyGraph fun _ hg => hg.congr rfl

/-- The node is the same, and its example value holds no elements. -/
theorem agree_node (id : NodeId) :
    Agree (fun n n' => n' = n ∧ ∀ v, n.example? = some v → v.Hollow) (node id) (node id) := by
  refine agree_bind agree_get fun t t' ht => ?_
  rw [ht.graph_eq]
  refine agree_ofExcept_self _ fun n hn => ⟨rfl, fun v hv => ?_⟩
  exact ht.hollow _ n v (Graph.node?_eq_ok hn) hv

theorem agree_record (target : Target) (args : List Operand) (kwargs : Named Operand) :
    Agree Eq (record target args kwargs) (record target args kwargs) := by
  refine agree_bind agree_get fun t t' ht => ?_
  rw [ht.graph_eq]
  refine agree_bind (E := fun r r' => r' = r ∧ r.2.Hollow) ?_ ?_
  · exact agree_ofExcept_self _ fun r hr => ⟨rfl, ht.hollow.record hr⟩
  · rintro r _ ⟨rfl, hr⟩
    refine agree_bind (agree_setGraph hr) fun _ _ _ => ?_
    exact agree_bind (agree_say _ _ _) fun _ _ _ => agree_pure rfl

theorem agree_recordItem (id : NodeId) (index : Nat) :
    Agree Eq (recordItem id index) (recordItem id index) :=
  agree_ite _ (agree_record _ _ _) (agree_breach _)

theorem agree_addInput (name : String) (source : Source) :
    Agree Eq (addInput name source) (addInput name source) := by
  refine agree_bind agree_get fun t t' ht => ?_
  rw [ht.graph_eq]
  have hinput : (t.graph.addInput name source).2.Hollow :=
    (ht.hollow.append (.placeholder name) [] []).congr rfl
  exact agree_bind (agree_setGraph hinput) fun _ _ _ => agree_pure rfl

theorem agree_setExample (id : NodeId) {value : Value} (h : value.Hollow) :
    Agree Eq (setExample id value) (setExample id value) := by
  refine agree_bind agree_get fun t t' ht => ?_
  rw [ht.graph_eq]
  refine agree_bind (E := fun g g' => g' = g ∧ g.Hollow) ?_ ?_
  · exact agree_ofExcept_self _ fun g hg => ⟨rfl, ht.hollow.setExample h hg⟩
  · rintro g _ ⟨rfl, hg⟩
    exact agree_setGraph hg

theorem agree_newIdentity : Agree Eq newIdentity newIdentity := by
  refine agree_bind agree_get fun t t' ht => ?_
  rw [ht.graph_eq]
  have hgraph : t.graph.newIdentity.2.Hollow := ht.hollow.congr rfl
  exact agree_bind (agree_setGraph hgraph) fun _ _ _ => agree_pure rfl

end Capture

end TensorCapture
