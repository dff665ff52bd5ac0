import TensorCapture.Proofs.Capture.Keeps

set_option autoImplicit false

/-! # What making a scalar a literal does

Three things stop a captured scalar from being made a literal: it stands for no scalar, its number
was not recorded, or its node was made a literal before. Then nothing changes. Otherwise the graph
keeps its nodes, loses the inputs from the scalar's source, and has constant matches in the place
of the guards that the scalar carries for this trace only.
-/

namespace TensorCapture

/-! ## Guards -/

namespace GuardSet

variable {g : Guard} {s t : GuardSet} {targets : List Guard}

theorem mem_volatileMembers : g ∈ s.volatileMembers ↔ g ∈ s ∧ g.volatile = true :=
  List.mem_filter

/-- Of the guards that hold for one trace only, constant matches are left. -/
theorem check_of_mem_downgrade_volatileMembers (h : g ∈ s.downgrade s.volatileMembers)
    (hvolatile : g.volatile = true) : g.check = .constantMatch := by
  obtain ⟨before, hbefore, rfl⟩ := mem_downgrade.mp h
  unfold downgradeGuard at hvolatile ⊢
  split at hvolatile
  · rename_i htarget
    rw [if_pos htarget]
    rfl
  · rename_i htarget
    exact absurd (mem_volatileMembers.mpr ⟨hbefore, hvolatile⟩) htarget

/-- A target that is no constant match is no member any more. -/
theorem not_mem_downgrade (htarget : g ∈ targets) (hcheck : g.check ≠ .constantMatch) :
    g ∉ s.downgrade targets := by
  intro h
  obtain ⟨before, hbefore, heq⟩ := mem_downgrade.mp h
  unfold downgradeGuard at heq
  split at heq
  · rw [← heq] at hcheck
    exact hcheck rfl
  · rename_i hnot
    rw [heq] at hnot
    exact hnot htarget

theorem downgrade_subset (h : ∀ g ∈ s, g ∈ t) :
    ∀ g ∈ s.downgrade targets, g ∈ t.downgrade targets := by
  intro g hg
  obtain ⟨before, hbefore, heq⟩ := mem_downgrade.mp hg
  exact mem_downgrade.mpr ⟨before, h before hbefore, heq⟩

end GuardSet

theorem Provenance.mem_guards_ofGuards {g : Guard} {s : GuardSet} :
    g ∈ (Provenance.ofGuards s).guards ↔ g ∈ s := by
  show g ∈ (∅ ∪ s : GuardSet) ↔ g ∈ s
  rw [GuardSet.mem_union]
  exact ⟨fun h => h.resolve_left (GuardSet.not_mem_empty g), .inr⟩

/-! ## Graphs -/

namespace Graph

variable (g : Graph) (id : NodeId) (p : Provenance)

theorem nodes_literalize : (g.literalize id p).nodes = g.nodes := by
  unfold literalize
  cases p.source <;> rfl

theorem deoptimized_literalize : (g.literalize id p).deoptimized = g.deoptimized ++ [id] := by
  unfold literalize
  cases p.source <;> rfl

theorem guards_literalize :
    (g.literalize id p).guards = g.guards.downgrade p.guards.volatileMembers := by
  unfold literalize
  cases p.source <;> rfl

/-- An input is erased where it was before, and where it comes from the source. -/
theorem inputs_literalize :
    (g.literalize id p).inputs =
      g.inputs.map fun i => { i with erased := i.erased || decide (p.source = some i.source) } := by
  unfold literalize
  cases hsource : p.source with
  | none => simp
  | some source =>
      refine List.map_congr_left fun i _ => ?_
      by_cases hi : i.source = source
      · simp [hi]
      · simp [hi, Ne.symm hi]

/-- The inputs that are left are those that do not come from the source. -/
theorem liveInputs_literalize :
    (g.literalize id p).liveInputs =
      g.liveInputs.filter fun i => decide (p.source ≠ some i.source) := by
  unfold liveInputs
  rw [inputs_literalize]
  induction g.inputs with
  | nil => rfl
  | cons i rest ih =>
      rw [List.map_cons, List.filter_cons, List.filter_cons, ih]
      rcases i with ⟨source, node, _ | _⟩
      · by_cases hsource : p.source = some source <;> simp [hsource]
      · simp

end Graph

/-! ## The step -/

namespace Capture

/-- The literal that a captured scalar becomes. -/
def literalOf (v : SymbolicTensor) (raw : Scalar) : Variable :=
  .constant (.ofScalar raw) <|
    .ofGuards (v.provenance.guards.downgrade v.provenance.guards.volatileMembers)

/-- What stops a captured scalar from being made a literal. -/
def Unliteral (v : SymbolicTensor) (g : Graph) : Prop :=
  v.role.isUnspecialized = false ∨ v.role.raw? = none ∨ v.node ∈ g.deoptimized

/-- Either something stops the scalar and nothing changes, or the graph changes and the log is
told. -/
theorem literalize_cases (v : SymbolicTensor) (t : Trace) :
    (Unliteral v t.graph ∧
      ∃ b, (literalize v).outcome t = (.error (.error (.internal b)), t)) ∨
    (∃ raw w, v.role.isUnspecialized = true ∧ v.role.raw? = some raw ∧
      v.node ∉ t.graph.deoptimized ∧ w.library = t.workshop.library ∧
      (literalize v).outcome t =
        (.ok (literalOf v raw),
          { t with graph := t.graph.literalize v.node v.provenance, workshop := w })) := by
  unfold literalize Unliteral
  cases hrole : v.role.isUnspecialized with
  | false => exact .inl ⟨.inl rfl, _, rfl⟩
  | true =>
      rw [Bool.not_true, if_neg Bool.false_ne_true]
      cases hraw : v.role.raw? with
      | none => exact .inl ⟨.inr (.inl rfl), _, rfl⟩
      | some raw =>
          rw [outcome_bind_ok (outcome_get t)]
          dsimp only
          cases hnew : t.graph.isDeoptimized v.node with
          | true =>
              rw [if_pos rfl]
              exact .inl ⟨.inr (.inr (of_decide_eq_true hnew)), _, rfl⟩
          | false =>
              rw [if_neg Bool.false_ne_true]
              have hnode : v.node ∉ t.graph.deoptimized := of_decide_eq_false hnew
              exact .inr ⟨raw, t.workshop.say _ _ _, rfl, rfl, hnode, rfl, rfl⟩

/-- As an operation: nothing changes, or the graph does and the log is told. -/
theorem perform_literalize_cases (inline : FunctionCall → Capture Variable) (v : SymbolicTensor)
    (t : Trace) :
    (∃ b, ((Operation.literalize v).perform inline).outcome t =
      (.error (.error (.internal b)), t)) ∨
    (∃ raw w, v.node ∉ t.graph.deoptimized ∧
      ((Operation.literalize v).perform inline).outcome t =
        (.ok (.value (literalOf v raw)),
          { t with graph := t.graph.literalize v.node v.provenance, workshop := w })) := by
  rcases literalize_cases v t with ⟨-, b, hout⟩ | ⟨raw, w, -, -, hfresh, -, hout⟩
  · exact .inl ⟨b, outcome_map_error hout Answer.value⟩
  · exact .inr ⟨raw, w, hfresh, outcome_map_ok hout Answer.value⟩

end Capture

/-! ## A scalar input -/

/-- A number that the program reads from its local `scale`. One of its guards holds for the
current trace only. -/
def SymbolicTensor.scale : SymbolicTensor where
  node := ⟨0⟩
  metadata := some ((Tensor.scalar (.int 3)).erase.specialize .standard)
  parameter := none
  role := .programScalar (some (.int 3)) true
  provenance :=
    ⟨.ofList [⟨.local "scale", .tensorMatch, true⟩, .lasting (.local "scale") .typeMatch],
      some (.local "scale"), none⟩

/-- The operation that adds the input. -/
def Operation.addScale : Operation := .addInput "scale" (.local "scale")

/-- The operation that classifies the node of the input. -/
def Operation.createScale : Operation :=
  .create ⟨0⟩ (some (.tensor (.scalar (.int 3)))) none SymbolicTensor.scale.role
    SymbolicTensor.scale.provenance

/-- The operation that negates the number. -/
def Operation.negateScale : Operation := .callMethod (.tensor .scale) "neg" [] []

/-- A trace before its first step. -/
def Trace.blank : Trace := .start anonymous .standard (.ofSeed 0)

/-- The trace in which the number is known. -/
def Trace.ofScale : Trace :=
  ((Capture.perform .createScale).outcome ((Capture.perform .addScale).outcome .blank).2).2

example : ((Capture.perform .createScale).outcome
    ((Capture.perform .addScale).outcome .blank).2).1 = .ok (.value (.tensor .scale)) := by rfl

end TensorCapture
