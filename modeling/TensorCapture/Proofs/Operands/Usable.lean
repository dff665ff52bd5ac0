import TensorCapture.Proofs.Capture.History
import TensorCapture.Proofs.Operands.Supported

set_option autoImplicit false

/-! # What the capture gives can be used

Where operations are run for their examples, every variable that the capture gives is supported.
Methods and attributes answer with literals and objects, or classify what they recorded.

An example that a node has stays, so the variable is still supported at any later time. It can
then be used as an operand, which resolves to the value that the variable denotes.
-/

namespace TensorCapture

open Capture Trace

/-! ## Items -/

namespace Variable

variable {g : Graph} {v index item : Variable}

/-- A constant index denotes a position within the bounds. -/
theorem lt_of_resolveIndex {length position : Nat}
    (h : resolveIndex index length = .ok position) : position < length := by
  unfold resolveIndex at h
  cases hvalue : index.toLiteral with
  | error e =>
      rw [hvalue] at h
      cases h
  | ok value =>
      cases hraw : value.toInt? with
      | none => simp [hvalue, hraw, bind, Except.bind] at h
      | some raw =>
          simp only [hvalue, hraw, bind, Except.bind] at h
          generalize (if raw < 0 then raw.toInt + (length : Int) else raw.toInt) = found at h
          by_cases hbounds : found < 0 ∨ (length : Int) ≤ found
          · rw [if_pos hbounds] at h
            cases h
          · rw [if_neg hbounds] at h
            have hposition : found.toNat = position := Except.ok.inj h
            omega

/-- What is taken out is a literal of a tuple, or an item of a container, with the guards of both
and of the index. -/
theorem itemAt_cases (hitem : v.itemAt index = .ok item) :
    (∃ literals p literal, v = constant (.tuple literals) p ∧
      item = constant literal { p with guards := p.guards ∪ index.guards, source := none }) ∨
    ∃ kind items node p, ∃ found ∈ items, v = container kind items node p ∧
      item = found.addGuards (p.guards ∪ index.guards) := by
  unfold Variable.itemAt at hitem
  split at hitem
  · rename_i literals p
    cases hposition : resolveIndex index literals.length with
    | error e =>
        rw [hposition] at hitem
        cases hitem
    | ok position =>
        rw [hposition] at hitem
        exact .inl ⟨literals, p, _, rfl, (Except.ok.inj hitem).symm⟩
  · cases hitem
  · rename_i kind items node p
    cases hposition : resolveIndex index items.length with
    | error e =>
        rw [hposition] at hitem
        cases hitem
    | ok position =>
        have hlt := lt_of_resolveIndex hposition
        have hfound : items[position]? = some items[position] := List.getElem?_eq_getElem hlt
        rw [hposition] at hitem
        refine .inr ⟨kind, items, node, p, items[position], List.getElem_mem hlt, rfl, ?_⟩
        rw [← Except.ok.inj hitem, hfound]
        rfl
  · cases hitem

/-- An item of a supported variable is supported. -/
theorem Supported.itemAt (h : v.Supported g) (hitem : v.itemAt index = .ok item) :
    item.Supported g := by
  rcases itemAt_cases hitem with ⟨literals, p, literal, -, rfl⟩ |
    ⟨kind, items, node, p, found, hfound, rfl, rfl⟩
  · trivial
  · have hsupported := supportedAll_iff.mp h.1 found hfound
    simpa [addGuards] using hsupported

theorem SupportedAll.itemsAt (h : v.Supported g) {indices items : List Variable}
    (hitems : v.itemsAt indices = .ok items) : SupportedAll g items := by
  unfold Variable.itemsAt at hitems
  induction indices generalizing items with
  | nil =>
      cases hitems
      trivial
  | cons index rest ih =>
      rw [List.mapM_cons] at hitems
      cases hitem : v.itemAt index with
      | error e =>
          rw [hitem] at hitems
          cases hitems
      | ok item =>
          cases hothers : rest.mapM v.itemAt with
          | error e =>
              rw [hitem, hothers] at hitems
              cases hitems
          | ok others =>
              rw [hitem, hothers] at hitems
              cases hitems
              exact ⟨h.itemAt hitem, ih hothers⟩

/-- What positional arguments ask of a supported variable is supported. -/
theorem Supported.indexed (h : v.Supported g) {indices : List Variable} {p : Provenance}
    (hitem : v.indexed indices p = .ok item) : item.Supported g := by
  unfold Variable.indexed at hitem
  split at hitem
  · cases hitem
    exact h
  · exact h.itemAt hitem
  · obtain ⟨items, hitems, rfl⟩ := Except.exists_of_map_eq_ok hitem
    exact ⟨SupportedAll.itemsAt h hitems, nofun⟩

end Variable

/-- What the metadata answer is a literal or a size of literals. -/
theorem SymbolicTensor.query?_cases {x : SymbolicTensor} {name : String} {p : Provenance}
    {answer : Variable} (h : x.query? name p = some (.ok answer)) :
    (∃ literal, answer = .constant literal p) ∨ ∃ extents, answer = .ofExtents .size extents p := by
  have hliteral {α : Type} {known : Option α} {f : α → Literal}
      (hknown : (known.map fun a => literalAnswer p (f a)) = some (.ok answer)) :
      ∃ literal, answer = .constant literal p := by
    obtain ⟨a, -, hanswer⟩ := Option.map_eq_some_iff.mp hknown
    cases hanswer
    exact ⟨f a, rfl⟩
  unfold query? at h
  split at h
  · exact .inl (hliteral h)
  · obtain ⟨layout, -, hanswer⟩ := Option.map_eq_some_iff.mp h
    cases hanswer
    exact .inr ⟨layout.size, rfl⟩
  · obtain ⟨layout, -, hanswer⟩ := Option.map_eq_some_iff.mp h
    obtain ⟨n, -, rfl⟩ := Except.exists_of_map_eq_ok hanswer
    exact .inl ⟨n, rfl⟩
  · exact .inl (hliteral h)
  · exact .inl (hliteral h)
  · exact .inl (hliteral h)
  · exact .inl (hliteral h)
  · cases h

/-! ## Methods and attributes -/

namespace Capture

variable (t : SymbolicTensor)

/-- The answers from metadata are literals and sizes of literals. -/
theorem supported_query {name : String} {p : Provenance} {answer : Variable}
    (h : t.query? name p = some (.ok answer)) (g : Graph) : answer.Supported g := by
  rcases SymbolicTensor.query?_cases h with ⟨literal, rfl⟩ | ⟨extents, rfl⟩
  · trivial
  · exact supported_ofExtents .size extents p g

theorem supports_createDerived (id : NodeId) (p : Provenance) : Supports (createDerived t id p) :=
  supports_create id none none _ p

theorem supports_recordMethod (name : String) (args : List Variable) (kwargs : Named Variable)
    (p : Provenance) : Supports (recordMethod t name args kwargs p) := by
  refine answers_bind keeps_config fun config => ?_
  refine answers_bind (keeps_ofExcept _) fun operands => ?_
  exact answers_bind (reaches_record _ _ _) fun id => supports_createDerived t id p

theorem supports_recordAssignment (args : List Variable) (kwargs : Named Variable)
    (p : Provenance) : Supports (recordAssignment t args kwargs p) := by
  refine answers_bind (reaches_addGuards _) fun _ => ?_
  refine answers_bind (keeps_ofExcept _) fun operands => ?_
  exact answers_bind (reaches_record _ _ _) fun _ => answers_pure fun _ => trivial

theorem supports_length (p : Provenance) : Supports (length t p) := by
  unfold length
  split
  · exact answers_pure fun _ => trivial
  · exact answers_bind (reaches_record _ _ _) fun id => supports_createDerived t id p

theorem supports_callMethod (name : String) (args : List Variable) (kwargs : Named Variable) :
    Supports (callMethod t name args kwargs) := by
  unfold callMethod
  dsimp only
  split
  · exact answers_throw _
  · rename_i answer hanswer
    refine answers_ite _ (answers_ofExcept fun item hitem g => ?_) (answers_breach _)
    exact (supported_query t hanswer g).indexed hitem
  · refine answers_bind keeps_config fun config => ?_
    split
    · exact answers_refuse _
    · split
      · exact answers_bind (reaches_record _ _ _) fun id => supports_createDerived t id _
      · exact supports_length t _
      · exact supports_recordAssignment t args kwargs _
      · exact supports_recordMethod t _ args kwargs _

theorem supports_memberOf (name : String) : Supports (memberOf t name) := by
  unfold memberOf
  dsimp only
  split
  · exact answers_pure fun _ => trivial
  · exact supports_callMethod t "dim" [] []
  · exact answers_pure fun _ => trivial
  · exact answers_pure fun _ => trivial
  · exact answers_pure fun _ => trivial
  · split
    · exact answers_pure (supported_ofExtents .shape _ _)
    · exact supports_callMethod t "size" [] []
  · exact answers_pure fun _ => trivial
  · exact answers_pure fun _ => trivial
  · exact answers_pure fun _ => trivial
  · exact answers_fail _

theorem supports_readMember (name : String) : Supports (readMember t name) := by
  refine answers_ite _ (answers_pure fun _ => trivial) ?_
  refine answers_bind_of (supports_memberOf t name) (reaches_parts.nodes.memberOf t trivial name)
    (fun value => ?_) ?_
  · split <;> exact keeps_pure _
  · intro value u w answer _ hvalue hgrows hout
    have hlater := Variable.Supported.mono hgrows value hvalue
    split at hout
    · cases hout
      simpa [Variable.addGuard] using hlater
    · cases hout
      exact hlater

theorem supportsAll_unpackFrom (index count : Nat) : SupportsAll (unpackFrom t index count) := by
  induction count generalizing index with
  | zero => exact answers_pure fun _ => trivial
  | succ count ih =>
      refine answers_bind (reaches_parts.recordItem t.node index) fun id => ?_
      exact supportsAll_cons (supports_create id none none .plain t.propagated)
        (reaches_parts.create id none none .plain trivial) (ih (index + 1))
        (reaches_parts.nodes.unpackFrom t trivial (index + 1) count)

theorem supportsAll_unpack : SupportsAll (unpack t) := by
  unfold unpack
  split
  · exact answers_fail _
  · exact supportsAll_unpackFrom t 0 _
  · exact answers_fail _

theorem supports_literalize : Supports (literalize t) := by
  refine answers_ite _ (answers_breach _) ?_
  split
  · exact answers_breach _
  · refine answers_bind keeps_get fun before => answers_ite _ (answers_breach _) ?_
    -- the graph changes and the log is told, and then a literal is answered
    intro u w v _ hout
    obtain ⟨_, u₁, -, hout⟩ := outcome_bind_eq_ok hout
    obtain ⟨_, u₂, -, hpure⟩ := outcome_bind_eq_ok hout
    cases hpure
    trivial

end Capture

/-! ## Operations -/

/-- The variables in the answer are supported. -/
def Answer.Supported (g : Graph) : Answer → Prop
  | .value v => v.Supported g
  | .values vs => Variable.SupportedAll g vs
  | .node _ => True

namespace Capture

variable {act : Capture Variable} {t u : Trace} {answer : Answer}

theorem supported_value (h : Supports act) (hconfig : t.config.dynamicPropagation = true)
    (hout : (Answer.value <$> act).outcome t = (.ok answer, u)) : answer.Supported u.graph := by
  rw [map_eq_pure_bind] at hout
  obtain ⟨v, u', hact, hpure⟩ := outcome_bind_eq_ok hout
  cases hpure
  exact h hconfig hact

theorem supported_node {act : Capture NodeId}
    (hout : (Answer.node <$> act).outcome t = (.ok answer, u)) : answer.Supported u.graph := by
  rw [map_eq_pure_bind] at hout
  obtain ⟨id, u', -, hpure⟩ := outcome_bind_eq_ok hout
  cases hpure
  trivial

/-- An operation that hands nothing over answers with supported variables. -/
theorem supported_perform {operation : Operation} {inline : FunctionCall → Capture Variable}
    (hover : operation.handedOver? t.dispatching = none)
    (hconfig : t.config.dynamicPropagation = true)
    (hout : (operation.perform inline).outcome t = (.ok answer, u)) :
    answer.Supported u.graph := by
  cases operation with
  | callMethod self name args kwargs =>
      cases self with
      | tensor v => exact supported_value (supports_callMethod v name args kwargs) hconfig hout
      | override wrapped origin hook subclass p =>
          cases hdispatching : t.dispatching with
          | true =>
              rw [hdispatching] at hover
              cases hover
          | false =>
              -- the method runs on the wrapped tensor
              rw [Operation.perform, callOn, map_eq_pure_bind, outcome_bind,
                outcome_callOverride_of_not hdispatching, ← outcome_bind, ← map_eq_pure_bind]
                at hout
              refine supported_value ?_ hconfig hout
              cases wrapped with
              | tensor v => exact supports_callMethod v name args kwargs
              | _ => exact answers_breach _
      | _ => exact supported_value (answers_breach _) hconfig hout
  | readMember self name => exact supported_value (supports_readMember self name) hconfig hout
  | unpack self =>
      rw [Operation.perform, map_eq_pure_bind] at hout
      obtain ⟨vs, u', hact, hpure⟩ := outcome_bind_eq_ok hout
      cases hpure
      exact supportsAll_unpack self hconfig hact
  | literalize self => exact supported_value (supports_literalize self) hconfig hout
  | addInput name source => exact supported_node hout
  | record target args kwargs => exact supported_node hout
  | recordItem node index => exact supported_node hout
  | create id supplied module? role p =>
      exact supported_value (supports_create id supplied module? role p) hconfig hout
  | inline call => cases hover
  | inlineHook function origin hook subclass p args kwargs => cases hover

end Capture

/-! ## Runs -/

/-- The operation answered with the variable, or with several of which it is one. -/
def Performed.Gave (done : Performed) (v : Variable) : Prop :=
  done.outcome = .ok (.value v) ∨ ∃ vs, done.outcome = .ok (.values vs) ∧ v ∈ vs

/-- The variables that the capture gives in the course of a history: the answers of operations,
the items of such variables at constant indices, and instances of tensor subclasses that wrap
such variables, as the results of hooks are. -/
inductive Variable.Given (past : List Performed) : Variable → Prop where
  | answer {done : Performed} (hmem : done ∈ past) {v : Variable} (h : done.Gave v) :
      Given past v
  | item {v index item : Variable} (h : Given past v) (hitem : v.itemAt index = .ok item) :
      Given past item
  | wrapped {v : Variable} (h : Given past v) (origin : Source) (hook : String)
      (subclass : RuntimeClass) (p : Provenance) :
      Given past (.override v origin hook subclass p)

/-- What may happen between the operations of a run: the settings stay and the graph grows. -/
def Trace.Advances (t u : Trace) : Prop := u.config = t.config ∧ t.graph.Grows u.graph

/-- Where operations are run for their examples, all that the history gave is supported. -/
def Trace.Backs (past : List Performed) (t u : Trace) : Prop :=
  t.Advances u ∧ (t.config.dynamicPropagation = true →
    ∀ done ∈ past, ∀ v, done.Gave v → v.Supported u.graph)

namespace Trace

variable {past : List Performed} {t u : Trace}

theorem Advances.refl (t : Trace) : t.Advances t := ⟨rfl, .refl _⟩

theorem Advances.trans {v : Trace} (h : t.Advances u) (h' : u.Advances v) : t.Advances v :=
  ⟨h'.1.trans h.1, h.2.trans h'.2⟩

theorem Reaches.advances {literals : Option Inliner → Prop} (h : Reaches literals t u) :
    t.Advances u := ⟨h.config_eq, h.grows⟩

theorem Advances.backs (h : t.Advances u) : Backs [] t u :=
  ⟨h, fun _ _ hdone => absurd hdone List.not_mem_nil⟩

/-- What was given before is still supported, and so is what was given since. -/
theorem Backs.append {past' : List Performed} {v : Trace} (h : Backs past t u)
    (h' : Backs past' u v) : Backs (past ++ past') t v := by
  refine ⟨h.1.trans h'.1, fun hconfig done hdone w hw => ?_⟩
  rcases List.mem_append.mp hdone with hfirst | hlast
  · exact Variable.Supported.mono h'.1.2 w (h.2 hconfig done hfirst w hw)
  · refine h'.2 ?_ done hlast w hw
    rw [h.1.1]
    exact hconfig

theorem backs_single (inline : FunctionCall → Capture Variable) (operation : Operation)
    (t : Trace) (hover : operation.handedOver? t.dispatching = none) :
    Backs [⟨operation, t, ((operation.perform inline).outcome t).1,
      ((operation.perform inline).outcome t).2⟩] t ((operation.perform inline).outcome t).2 := by
  constructor
  · rw [Operation.outcome_perform_of_not_handedOver hover inline fun _ => refuse .noInliner]
    have hreaches : Keeps (Reaches fun _ => True) (operation.perform fun _ => refuse .noInliner) :=
      reaches_performWith (fun _ => keeps_refuse _) operation fun _ _ => trivial
    exact (hreaches t).advances
  · intro hconfig done hdone v hv
    obtain rfl := List.mem_singleton.mp hdone
    have hanswers (answer : Answer)
        (hanswer : ((operation.perform inline).outcome t).1 = .ok answer) :
        answer.Supported ((operation.perform inline).outcome t).2.graph :=
      supported_perform hover hconfig (Prod.ext hanswer rfl)
    rcases hv with hvalue | ⟨vs, hvalues, hmem⟩
    · exact hanswers _ hvalue
    · exact Variable.supportedAll_iff.mp (hanswers _ hvalues) v hmem

theorem chronicle_backs : Chronicle Backs where
  idle t := (Advances.refl t).backs
  append h h' := h.append h'
  noting t _ := (Advances.refl t).backs
  dispatching h _ _ := h
  single := backs_single

end Trace

/-- A variable that was given is supported at any later time. -/
theorem Variable.Given.supported {name : String} {config : Config} {library : Library}
    {past : List Performed} {t : Trace} {v : Variable}
    (hconfig : config.dynamicPropagation = true)
    (hrun : Trace.Runs Trace.Advances (.start name config library) past t)
    (h : v.Given past) : v.Supported t.graph := by
  have hbacks := Trace.chronicle_backs.runs (fun _ _ h => h.backs) hrun
  induction h with
  | answer hmem h => exact hbacks.2 hconfig _ hmem _ h
  | item h hitem ih => exact ih.itemAt hitem
  | wrapped h origin hook subclass p ih => exact ih

/-- Where operations are run for their examples, what the capture gave can be used at any later
time: unless something in it cannot be expressed, it is an operand, with which any operation can
be recorded, and which resolves to the value that the variable denotes. -/
theorem given_usable {name : String} {config : Config} {library : Library}
    {past : List Performed} {t : Trace} {v : Variable}
    (hconfig : config.dynamicPropagation = true)
    (hrun : Trace.Runs Trace.Advances (.start name config library) past t)
    (h : v.Given past) :
    (∀ operand, v.toOperand = .ok operand →
      (∀ target, ((record target [operand] []).outcome t).1 = .ok t.graph.nextNode) ∧
      ∃ value, v.reify? t.graph = some value ∧ t.graph.resolve operand = .ok value) ∧
    ((∃ e, v.toOperand = .error e) ↔ v.Inexpressible) := by
  refine ⟨fun operand hoperand => ?_, Variable.toOperand_eq_error_iff⟩
  obtain ⟨value, hvalue, hresolve⟩ :=
    Variable.resolve_toOperand v (h.supported hconfig hrun) hoperand
  refine ⟨fun target => ?_, value, hvalue, hresolve⟩
  have hnodes : ∀ id ∈ Operand.nodesOfAll [operand] ++ Operand.nodesOfAll [],
      id.index < t.graph.nodes.size := by
    intro id hid
    have hmem : id ∈ operand.nodes := by simpa [Operand.nodesOfAll] using hid
    exact Graph.lt_size_of_resolve operand hresolve hmem
  have hrecord : t.graph.record target [operand] [] =
      .ok (t.graph.nextNode, t.graph.append target [operand] []) :=
    Graph.record_of_lt_size hnodes target
  unfold record
  rw [outcome_bind_ok (outcome_get t), outcome_bind, hrecord]
  rfl

/-! ## A tuple that holds a size -/

/-- The operation that supplies a tuple with a tensor, nothing and a size as an example. -/
def Operation.createMixed : Operation :=
  .create ⟨0⟩ (some (.tuple [.tensor (.ofElements [2] #[1.0, 2.0] .f32), .none, .size [2, 3]]))
    none .plain .none

/-- The size is a literal operand inside the tuple, and denotes the tuple of its extents. -/
theorem given_usable_mixed :
    ∃ past t, ∃ v : Variable, ∃ operand value,
      Trace.Runs Trace.Advances (.start Trace.anonymous .standard (.ofSeed 0)) past t ∧
      v.Given past ∧ v.toOperand = .ok operand ∧
      operand = .tuple [.node ⟨1⟩, .literal .none, .literal (.ofExtents [2, 3])] ∧
      v.reify? t.graph = some value ∧ t.graph.resolve operand = .ok value := by
  obtain ⟨past, t, v, hrun, hgiven, hoperand⟩ : ∃ past t, ∃ v : Variable,
      Trace.Runs Trace.Advances (.start Trace.anonymous .standard (.ofSeed 0)) past t ∧
      v.Given past ∧
      v.toOperand = .ok (.tuple [.node ⟨1⟩, .literal .none, .literal (.ofExtents [2, 3])]) := by
    refine ⟨_, _, _, .perform (.perform .start (.addInput "x" (.local "x"))) .createMixed,
      .answer (List.mem_append_right _ (List.mem_singleton_self _)) (.inl rfl), ?_⟩
    rfl
  obtain ⟨-, value, hvalue, hresolve⟩ := (given_usable rfl hrun hgiven).1 _ hoperand
  exact ⟨past, t, v, _, value, hrun, hgiven, hoperand, rfl, hvalue, hresolve⟩

end TensorCapture
