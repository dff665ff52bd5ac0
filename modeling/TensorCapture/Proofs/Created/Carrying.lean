import TensorCapture.Proofs.Created.Within
import TensorCapture.Proofs.Literal.Outcome

set_option autoImplicit false

/-! # No guard is lost

A method call asks for the union of the guards of the tensor and of all arguments. Whichever way
the call takes, the result carries them: an answer from the metadata is made with them, an item of
such an answer is given those of the answer, and a node that is recorded is classified with them.
Classification merges the guards into those of the graph before it does anything else, and nothing
that follows takes a guard away, so the graph depends on them even where classification fails.
-/

namespace TensorCapture

open Capture Trace

/-! ## Variables that carry guards -/

/-- The variable carries the guards of the provenance, and perhaps more. -/
def Variable.Carries (p : Provenance) (v : Variable) : Prop := ∀ g ∈ p.guards, g ∈ v.guards

namespace Variable

variable {p : Provenance} {v index item answer : Variable} {indices : List Variable} {g h : Guard}

theorem mem_guards_addGuards {more : GuardSet} :
    g ∈ (v.addGuards more).guards ↔ g ∈ v.guards ∨ g ∈ more := by
  unfold addGuards guards
  rw [provenance_withProvenance]
  exact GuardSet.mem_union

theorem mem_guards_addGuard : g ∈ (v.addGuard h).guards ↔ g ∈ v.guards ∨ g = h := by
  unfold addGuard guards
  rw [provenance_withProvenance]
  exact GuardSet.mem_insert

theorem Carries.of_provenance_eq (h : v.provenance = p) : v.Carries p := by
  intro g hg
  unfold guards
  rw [h]
  exact hg

/-- An item carries the guards of what it is taken out of. -/
theorem Carries.itemAt (h : v.Carries p) (hitem : v.itemAt index = .ok item) : item.Carries p := by
  intro g hg
  have hv : g ∈ v.guards := h g hg
  rcases itemAt_cases hitem with ⟨literals, q, literal, rfl, rfl⟩ |
    ⟨kind, items, node, q, found, -, rfl, rfl⟩
  · exact GuardSet.mem_union.mpr (.inl hv)
  · exact mem_guards_addGuards.mpr (.inr (GuardSet.mem_union.mpr (.inl hv)))

/-- So does what positional arguments select from an answer. -/
theorem Carries.indexed (h : answer.Carries p) (hv : answer.indexed indices p = .ok v) :
    v.Carries p := by
  unfold Variable.indexed at hv
  split at hv
  · cases hv
    exact h
  · exact h.itemAt hv
  · -- several items are put into a tuple that is made with the guards
    obtain ⟨items, -, rfl⟩ := Except.exists_of_map_eq_ok hv
    exact .of_provenance_eq rfl

end Variable

/-- An answer from the metadata is made as asked for. -/
theorem SymbolicTensor.provenance_query {x : SymbolicTensor} {name : String} {p : Provenance}
    {answer : Variable} (h : x.query? name p = some (.ok answer)) : answer.provenance = p := by
  rcases query?_cases h with ⟨literal, rfl⟩ | ⟨extents, rfl⟩
  · rfl
  · rfl

/-! ## Results of methods and attributes -/

namespace Capture

/-- The step answers with a variable that carries the guards. -/
abbrev Yields (p : Provenance) (act : Capture Variable) : Prop :=
  Ensures (fun _ v => v.Carries p) act

variable {p : Provenance} (x : SymbolicTensor) (name : String) (args : List Variable)
  (kwargs : Named Variable)

/-- The result of a method call carries the guards of the tensor and of all arguments. -/
theorem yields_callMethod :
    Yields (.propagate (.tensor x :: args ++ kwargs.values)) (callMethod x name args kwargs) := by
  refine ensures_callMethod (fun answer v hquery hselected => ?_) fun known v hmade => ?_
  · have hanswer := SymbolicTensor.provenance_query hquery
    exact (Variable.Carries.of_provenance_eq hanswer).indexed hselected
  · intro g hg
    rw [hmade.guards_eq]
    exact hg

/-- A method without arguments is as good for an attribute. -/
theorem yields_callMethod_nil : Yields x.propagated (callMethod x name [] []) := by
  intro t u v hout g hg
  refine yields_callMethod x name [] [] hout g ?_
  have hx : g ∈ x.provenance.guards := Provenance.mem_guards_ofGuards.mp hg
  exact Provenance.mem_propagate.mpr ⟨.tensor x, List.mem_cons_self .., hx⟩

theorem yields_memberOf : Yields x.propagated (memberOf x name) := by
  have hknown (value : Variable) (h : value.provenance = x.propagated) :
      Yields x.propagated (pure value) := ensures_pure fun _ => .of_provenance_eq h
  unfold memberOf
  dsimp only
  split
  · exact hknown _ rfl
  · exact yields_callMethod_nil x "dim"
  · exact hknown _ rfl
  · exact hknown _ rfl
  · exact hknown _ rfl
  · split
    · exact hknown _ rfl
    · exact yields_callMethod_nil x "size"
  · exact hknown _ rfl
  · exact hknown _ rfl
  · exact hknown _ rfl
  · intro t u v hout
    cases hout

/-- The value of an attribute carries the guards of the tensor. All but the class carry a guard on
the type of what the source holds besides. -/
theorem ensures_readMember :
    Ensures (fun _ v => v.Carries x.propagated ∧ (name ≠ "__class__" →
        ∀ source, x.provenance.source = some source → .lasting source .typeMatch ∈ v.guards))
      (readMember x name) := by
  unfold readMember
  split
  · rename_i hclass
    exact ensures_pure fun _ => ⟨.of_provenance_eq rfl, fun h => absurd hclass h⟩
  · intro t u v hout
    obtain ⟨value, t', hvalue, hout⟩ := outcome_bind_eq_ok hout
    have hcarries : value.Carries x.propagated := yields_memberOf x name hvalue
    cases hsource : x.provenance.source with
    | none =>
        simp only [Provenance.guardOn?, hsource, Option.map_none] at hout
        cases hout
        exact ⟨hcarries, nofun⟩
    | some source =>
        simp only [Provenance.guardOn?, hsource, Option.map_some] at hout
        cases hout
        refine ⟨fun g hg => ?_, fun _ other hother => ?_⟩
        · exact Variable.mem_guards_addGuard.mpr (.inl (hcarries g hg))
        · cases hother
          exact Variable.mem_guards_addGuard.mpr (.inr rfl)

end Capture

/-! ## Guards of the graph -/

/-- The graph depends on the guards of the provenance. -/
def Trace.Merged (p : Provenance) (t : Trace) : Prop := ∀ g ∈ p.guards, g ∈ t.graph.guards

/-- No node is recorded or gets an example. -/
def Trace.SameNodes (t u : Trace) : Prop := u.graph.nodes = t.graph.nodes

instance : IsPreorder Trace Trace.SameNodes where
  refl _ := rfl
  trans _ _ _ h h' := Eq.trans h' h

/-- Small steps by which nothing becomes a literal take no guard away. -/
theorem Trace.Merged.mono {p : Provenance} {t u : Trace} (h : t.Merged p)
    (hreaches : Reaches (fun _ => False) t u) : u.Merged p := by
  intro g hg
  rcases hreaches.guards_or_deoptimized with hprefix | ⟨hfalse, -⟩
  · exact hprefix.subset (h g hg)
  · exact hfalse.elim

namespace Capture

variable {α β : Type} {p : Provenance}

/-- The step leaves the nodes as they are, or the graph depends on the guards after it, whatever
the step comes to. -/
def Covers (p : Provenance) (act : Capture α) : Prop :=
  ∀ t, (act.outcome t).2.graph.nodes = t.graph.nodes ∨ (act.outcome t).2.Merged p

theorem covers_of_keeps {act : Capture α} (h : Keeps SameNodes act) : Covers p act :=
  fun t => .inl (h t)

/-- A first step that leaves the nodes alone does not matter. -/
theorem covers_bind {act : Capture α} {f : α → Capture β} (h : Keeps SameNodes act)
    (hf : ∀ a, Covers p (f a)) : Covers p (act >>= f) := by
  intro t
  have hact := h t
  rcases hout : act.outcome t with ⟨_ | a, t'⟩
  · rw [outcome_bind_error hout]
    rw [hout] at hact
    exact .inl hact
  · rw [outcome_bind_ok hout]
    rw [hout] at hact
    rw [← hact]
    exact hf a t'

/-- What is merged first stays merged where nothing becomes a literal afterwards. -/
theorem merged_bind_addGuards {f : Unit → Capture α} (hf : Keeps (Reaches fun _ => False) (f ()))
    (t : Trace) : ((addGuards p.guards >>= f).outcome t).2.Merged p := by
  have hmerging : (addGuards p.guards).outcome t =
      (.ok (), { t with graph := t.graph.addGuards p.guards }) := rfl
  have hmerged : Merged p { t with graph := t.graph.addGuards p.guards } :=
    fun g hg => GuardSet.mem_union.mpr (.inr hg)
  rw [outcome_bind_ok hmerging]
  exact hmerged.mono (hf _)

/-- Whatever classification comes to, it merges the guards first. -/
theorem merged_create (id : NodeId) (supplied : Option Value) (module? : Option Nat)
    (role : TensorRole) (t : Trace) :
    ((create id supplied module? role p).outcome t).2.Merged p := by
  refine merged_bind_addGuards (keeps_bind (keeps_node id) fun n => ?_) t
  have hclassified : Keeps (Reaches fun _ => False) (do
      let given := supplied.bind Value.toTensor?
      let config ← config
      if config.dynamicPropagation then
        let value ← exampleValue id supplied module?
        classify role p id (← node id).target given false value
      else return .tensor ⟨id, given.map (·.specialize config), none, role, p⟩) := by
    refine keeps_bind keeps_config fun config => keeps_ite _ ?_ (keeps_pure _)
    refine keeps_bind (reaches_exampleValue id supplied module?) fun value => ?_
    exact keeps_bind (keeps_node id) fun n =>
      reaches_parts.classify role trivial id n.target _ _ value
  exact keeps_ite _ (keeps_bind (keeps_breach _) fun _ => hclassified) hclassified

/-- A node is recorded only where its classification merges the guards. -/
theorem covers_record_create (target : Target) (operands : List Operand)
    (named : Named Operand) (role : TensorRole) :
    Covers p (record target operands named >>= fun id => create id none none role p) := by
  intro t
  rcases hout : (record target operands named).outcome t with ⟨_ | id, t'⟩
  · rw [outcome_bind_error hout]
    unfold record at hout
    rw [outcome_bind_ok (outcome_get t)] at hout
    cases hrecord : t.graph.record target operands named with
    | error e =>
        rw [hrecord] at hout
        cases hout
        exact .inl rfl
    | ok recorded =>
        rw [hrecord] at hout
        cases hout
  · rw [outcome_bind_ok hout]
    exact .inr (merged_create id none none role t')

section Method

variable (x : SymbolicTensor) (name : String) (args : List Variable) (kwargs : Named Variable)

theorem covers_length : Covers p (length x p) := by
  unfold length
  split
  · exact covers_of_keeps (keeps_pure _)
  · exact covers_record_create _ _ _ _

theorem covers_recordMethod : Covers p (recordMethod x name args kwargs p) :=
  covers_bind keeps_config fun _ => covers_bind (keeps_ofExcept _) fun _ =>
    covers_record_create _ _ _ _

/-- An assignment merges the guards before it records the node. -/
theorem covers_recordAssignment : Covers p (recordAssignment x args kwargs p) := by
  intro t
  refine .inr (merged_bind_addGuards (keeps_bind (keeps_ofExcept _) fun operands => ?_) t)
  exact keeps_bind (reaches_record _ _ _) fun _ => keeps_pure _

/-- A method call that records a node merges the guards of the tensor and of all arguments. -/
theorem covers_callMethod :
    Covers (.propagate (.tensor x :: args ++ kwargs.values)) (callMethod x name args kwargs) := by
  unfold callMethod
  dsimp only
  split
  · exact covers_of_keeps (keeps_throw _)
  · exact covers_of_keeps (keeps_ite _ (keeps_ofExcept _) (keeps_breach _))
  · refine covers_bind keeps_config fun config => ?_
    split
    · exact covers_of_keeps (keeps_refuse _)
    · split
      · exact covers_record_create _ _ _ _
      · exact covers_length x
      · exact covers_recordAssignment x args kwargs
      · exact covers_recordMethod x _ args kwargs

end Method

end Capture

/-! ## The theorem -/

/-- No guard is lost through a method call: the result carries the guards of the tensor and of all
arguments, and unless the call leaves the nodes as they are the graph depends on these guards
afterwards, also where the call fails. No guard is lost through an attribute: the value carries the
guards of the tensor, and all but the class a guard on the type of what the source holds. -/
theorem guards_carried (x : SymbolicTensor) (name : String) (args : List Variable)
    (kwargs : Named Variable) (t : Trace) :
    (∀ v u, (callMethod x name args kwargs).outcome t = (.ok v, u) →
      ∀ w ∈ .tensor x :: args ++ kwargs.values, ∀ g ∈ w.guards, g ∈ v.guards) ∧
    (((callMethod x name args kwargs).outcome t).2.graph.nodes = t.graph.nodes ∨
      ∀ w ∈ .tensor x :: args ++ kwargs.values, ∀ g ∈ w.guards,
        g ∈ ((callMethod x name args kwargs).outcome t).2.graph.guards) ∧
    ∀ v u, (readMember x name).outcome t = (.ok v, u) →
      (∀ g ∈ x.provenance.guards, g ∈ v.guards) ∧
      (name ≠ "__class__" → ∀ source, x.provenance.source = some source →
        .lasting source .typeMatch ∈ v.guards) := by
  have hunion (w : Variable) (hw : w ∈ .tensor x :: args ++ kwargs.values) (g : Guard)
      (hg : g ∈ w.guards) :
      g ∈ (Provenance.propagate (.tensor x :: args ++ kwargs.values)).guards :=
    Provenance.mem_propagate.mpr ⟨w, hw, hg⟩
  refine ⟨fun v u hout w hw g hg => ?_, ?_, fun v u hout => ?_⟩
  · exact yields_callMethod x name args kwargs hout g (hunion w hw g hg)
  · refine (covers_callMethod x name args kwargs t).imp_right fun hmerged => ?_
    exact fun w hw g hg => hmerged g (hunion w hw g hg)
  · obtain ⟨hcarries, htype⟩ := ensures_readMember x name hout
    refine ⟨fun g hg => hcarries g ?_, htype⟩
    exact Provenance.mem_guards_ofGuards.mpr hg

/-- An input with two axes. -/
def SymbolicTensor.grid : SymbolicTensor where
  node := ⟨0⟩
  metadata := some ((Tensor.placeholder [2, 3] .f32).specialize .standard)
  parameter := none
  role := .plain
  provenance := ⟨.ofInput, some (.local "x"), none⟩

/-- The index of an axis that was read from a local variable. -/
def Variable.axisIndex : Variable :=
  .constant (.int 1) (.ofGuards (.ofList [.lasting (.local "i") .constantMatch]))

/-- Two extents at once carry the guards of the tensor and of both indices. A call whose operand
has no example fails after its node was recorded, and the graph depends on the guards. -/
theorem guards_carried_grid :
    (∃ v u, (callMethod .grid "size" [.constant (.int 0) .none, .axisIndex] []).outcome
        (.ofInput "x") = (.ok v, u) ∧
      .lasting (.local "x") .tensorMatch ∈ v.guards ∧
      .lasting (.local "i") .constantMatch ∈ v.guards) ∧
    ∃ fault u, (callMethod .grid "add" [.axisIndex] []).outcome (.ofInput "x") = (.error fault, u) ∧
      u.graph.nodes.size = 2 ∧ .lasting (.local "i") .constantMatch ∈ u.graph.guards := by
  constructor
  · obtain ⟨v, u, hout⟩ : ∃ v u,
        (callMethod .grid "size" [.constant (.int 0) .none, .axisIndex] []).outcome
          (.ofInput "x") = (.ok v, u) := ⟨_, _, rfl⟩
    have hcarried := (guards_carried _ _ _ _ _).1 v u hout
    refine ⟨v, u, hout, hcarried (.tensor .grid) ?_ _ ?_, hcarried .axisIndex ?_ _ ?_⟩
    · exact List.mem_cons_self ..
    · decide
    · exact List.mem_cons_of_mem _ (List.mem_cons_of_mem _ (List.mem_cons_self ..))
    · decide
  · obtain ⟨fault, u, hout, hsize⟩ : ∃ fault u,
        (callMethod .grid "add" [.axisIndex] []).outcome (.ofInput "x") = (.error fault, u) ∧
          u.graph.nodes.size = 2 := ⟨_, _, rfl, rfl⟩
    refine ⟨fault, u, hout, hsize, ?_⟩
    rcases (guards_carried .grid "add" [.axisIndex] [] (.ofInput "x")).2.1 with hnodes | hmerged
    · -- the nodes are not as before: there is a second one
      rw [hout] at hnodes
      rw [hnodes] at hsize
      cases hsize
    · rw [hout] at hmerged
      refine hmerged .axisIndex ?_ _ (by decide)
      exact List.mem_cons_of_mem _ (List.mem_cons_self ..)

end TensorCapture
