import TensorCapture.Proofs.Capture.Keeps

set_option autoImplicit false

/-! # What classification and methods report

Some errors say that a call was made of something that is not made for it: of an instance that
wraps no tensor, of a hook with other arguments, of a method where there is no tensor. They arise
where calls are dispatched and in inlined code. Classifying a node and calling a method of a tensor
report other errors only.
-/

namespace TensorCapture

/-- The state says that a call was made of something that is not made for it. -/
def Breach.isOfCall : Breach → Bool
  | .overrideWithoutTensor | .helperWithoutTensor | .hookArguments | .methodOfNonTensor => true
  | _ => false

/-- The error says that a call was made of something that is not made for it. -/
def CaptureError.isOfCall : CaptureError → Bool
  | .internal b => b.isOfCall
  | _ => false

/-! ## Results that do not depend on the state -/

/-- An error of the result is about something else than a call. -/
def Refrains {α : Type} (r : Except CaptureError α) : Prop :=
  ∀ e, r = .error e → e.isOfCall = false

section Refrains

variable {α β : Type}

theorem refrains_ok (a : α) : Refrains (.ok a : Except CaptureError α) := by
  intro e h
  cases h

theorem refrains_error {e : CaptureError} (h : e.isOfCall = false) :
    Refrains (.error e : Except CaptureError α) := by
  intro e' h'
  cases h'
  exact h

theorem refrains_map {r : Except CaptureError α} (h : Refrains r) (f : α → β) :
    Refrains (r.map f) := by
  cases r with
  | ok a => exact refrains_ok _
  | error e => exact refrains_error (h e rfl)

theorem refrains_bind {r : Except CaptureError α} {f : α → Except CaptureError β}
    (h : Refrains r) (hf : ∀ a, Refrains (f a)) : Refrains (r >>= f) := by
  cases r with
  | ok a => exact hf a
  | error e => exact refrains_error (h e rfl)

namespace Variable

theorem refrains_object (o : LibraryObject) : Refrains o.toLiteral := by
  cases o with
  | runtimeClass c => exact refrains_error rfl
  | _ => exact refrains_ok _

mutual

theorem refrains_toLiteral (v : Variable) : Refrains v.toLiteral := by
  cases v with
  | constant value p => exact refrains_ok _
  | container kind items node p => exact refrains_map (refrains_toLiterals items) _
  | object value p => exact refrains_object value
  | _ => exact refrains_error rfl

theorem refrains_toLiterals (vs : List Variable) : Refrains (toLiterals vs) := by
  cases vs with
  | nil => exact refrains_ok _
  | cons item rest =>
      have hitem := refrains_toLiteral item
      unfold toLiterals
      cases h : item.toLiteral with
      | error e => exact refrains_error (hitem e h)
      | ok value => exact refrains_map (refrains_toLiterals rest) _

end

theorem refrains_resolveIndex (index : Variable) (length : Nat) :
    Refrains (resolveIndex index length) := by
  refine refrains_bind (refrains_toLiteral index) fun value => ?_
  cases value.toInt? with
  | none => exact refrains_error rfl
  | some raw =>
      dsimp only
      split
      · split
        · exact refrains_error rfl
        · exact refrains_ok _
      · split
        · exact refrains_error rfl
        · exact refrains_ok _

theorem refrains_itemAt (v index : Variable) : Refrains (v.itemAt index) := by
  unfold itemAt
  split
  · exact refrains_bind (refrains_resolveIndex index _) fun position => refrains_ok _
  · exact refrains_error rfl
  · exact refrains_bind (refrains_resolveIndex index _) fun position => refrains_ok _
  · exact refrains_error rfl

theorem refrains_itemsAt (v : Variable) (indices : List Variable) :
    Refrains (v.itemsAt indices) := by
  unfold itemsAt
  induction indices with
  | nil => exact refrains_ok _
  | cons index rest ih =>
      rw [List.mapM_cons]
      refine refrains_bind (refrains_itemAt v index) fun item => ?_
      exact refrains_bind ih fun items => refrains_ok _

theorem refrains_indexed (v : Variable) (indices : List Variable) (p : Provenance) :
    Refrains (v.indexed indices p) := by
  unfold indexed
  split
  · exact refrains_ok _
  · exact refrains_itemAt v _
  · exact refrains_map (refrains_itemsAt v _) _

mutual

theorem refrains_toOperand (v : Variable) : Refrains v.toOperand := by
  cases v with
  | tensor value => exact refrains_ok _
  | constant value p => exact refrains_ok _
  | container kind items node p =>
      have hitems := refrains_toOperands items
      unfold toOperand
      split
      · exact refrains_ok _
      · split
        · exact refrains_error (hitems _ ‹_›)
        · exact refrains_ok _
  | object value p => exact refrains_map (refrains_object value) _
  | override wrapped origin hook subclass p => exact refrains_toOperand wrapped
  | _ => exact refrains_error rfl

theorem refrains_toOperands (vs : List Variable) : Refrains (toOperands vs) := by
  cases vs with
  | nil => exact refrains_ok _
  | cons item rest =>
      have hitem := refrains_toOperand item
      unfold toOperands
      cases h : item.toOperand with
      | error e => exact refrains_error (hitem e h)
      | ok value => exact refrains_map (refrains_toOperands rest) _

end

end Variable

namespace Graph

theorem refrains_node? (g : Graph) (id : NodeId) : Refrains (g.node? id) := by
  unfold node?
  split
  · exact refrains_ok _
  · exact refrains_error rfl

mutual

theorem refrains_resolve (g : Graph) (o : Operand) : Refrains (g.resolve o) := by
  cases o with
  | node id =>
      have hexample : Refrains (g.exampleOf id) := refrains_map (g.refrains_node? id) _
      unfold resolve
      cases h : g.exampleOf id with
      | error e => exact refrains_error (hexample e h)
      | ok value =>
          cases value with
          | none => exact refrains_error rfl
          | some value => exact refrains_ok _
  | literal value => exact refrains_ok _
  | tuple items => exact refrains_map (refrains_resolveAll g items) _
  | list items => exact refrains_map (refrains_resolveAll g items) _

theorem refrains_resolveAll (g : Graph) (items : List Operand) : Refrains (g.resolveAll items) := by
  cases items with
  | nil => exact refrains_ok _
  | cons item rest =>
      have hitem := refrains_resolve g item
      unfold resolveAll
      cases h : g.resolve item with
      | error e => exact refrains_error (hitem e h)
      | ok value => exact refrains_map (refrains_resolveAll g rest) _

end

theorem refrains_resolveNamed (g : Graph) (items : Named Operand) :
    Refrains (g.resolveNamed items) := by
  induction items with
  | nil => exact refrains_ok _
  | cons first rest ih =>
      obtain ⟨name, item⟩ := first
      have hitem := g.refrains_resolve item
      unfold resolveNamed
      cases h : g.resolve item with
      | error e => exact refrains_error (hitem e h)
      | ok value => exact refrains_map ih _

theorem refrains_resolveOperands (g : Graph) (node : Node) :
    Refrains (g.resolveOperands node) := by
  refine refrains_bind (g.refrains_resolveAll _) fun args => ?_
  exact refrains_bind (g.refrains_resolveNamed _) fun kwargs => refrains_ok _

theorem refrains_record (g : Graph) (target : Target) (args : List Operand)
    (kwargs : Named Operand) : Refrains (g.record target args kwargs) := by
  unfold record
  split
  · exact refrains_error rfl
  · exact refrains_ok _

theorem refrains_setExample (g : Graph) (id : NodeId) (value : Value) :
    Refrains (g.setExample id value) := by
  unfold setExample
  split
  · exact refrains_error rfl
  · split
    · exact refrains_error rfl
    · exact refrains_ok _

end Graph

end Refrains

/-- A question to the metadata has no answer only where the number of elements is out of range. -/
theorem SymbolicTensor.fault_of_query? {x : SymbolicTensor} {name : String} {p : Provenance}
    {fault : Fault CaptureError} (h : x.query? name p = some (.error fault)) : fault = .abort := by
  unfold query? at h
  split at h
  case h_3 =>
    -- the product of the extents
    obtain ⟨layout, -, hnumel⟩ := Option.map_eq_some_iff.mp h
    unfold numel at hnumel
    cases hproduct : Word.product? layout.size with
    | none =>
        rw [hproduct] at hnumel
        cases hnumel
        rfl
    | some n =>
        rw [hproduct] at hnumel
        cases hnumel
  case h_8 => cases h
  all_goals
    obtain ⟨known, -, hanswer⟩ := Option.map_eq_some_iff.mp h
    cases hanswer

/-! ## Steps -/

namespace Capture

variable {α β : Type}

/-- An error that the step reports is about something else than a call. -/
def Reports (act : Capture α) : Prop :=
  ∀ t e, (act.outcome t).1 = .error (.error e) → e.isOfCall = false

theorem reports_pure (a : α) : Reports (pure a : Capture α) := by
  intro t e h
  cases h

theorem reports_fail {e : CaptureError} (h : e.isOfCall = false) :
    Reports (fail e : Capture α) := by
  intro t e' hout
  cases hout
  exact h

theorem reports_bind {act : Capture α} {f : α → Capture β} (h : Reports act)
    (hf : ∀ a, Reports (f a)) : Reports (act >>= f) := by
  intro t e hout
  rcases hact : act.outcome t with ⟨fault | a, u⟩
  · rw [outcome_bind_error hact] at hout
    cases hout
    exact h t e (congrArg Prod.fst hact)
  · rw [outcome_bind_ok hact] at hout
    exact hf a u e hout

theorem reports_ite (c : Prop) [Decidable c] {act act' : Capture α} (h : Reports act)
    (h' : Reports act') : Reports (if c then act else act') := by
  split
  · exact h
  · exact h'

theorem reports_ofExcept {r : Except CaptureError α} (h : Refrains r) : Reports (ofExcept r) := by
  cases r with
  | ok a => exact reports_pure a
  | error e => exact reports_fail (h e rfl)

theorem reports_get : Reports (get : Capture Trace) := by
  intro t e h
  cases h

theorem reports_modifyGraph (f : Graph → Graph) : Reports (modifyGraph f) := by
  intro t e h
  cases h

theorem reports_say (level : Log.Level) (channel : Log.Channel) (text : String) :
    Reports (say level channel text) := by
  intro t e h
  cases h

theorem reports_asks (f : Trace → α) : Reports (asks f) :=
  reports_bind reports_get fun _ => reports_pure _

theorem reports_config : Reports config := reports_asks _

theorem reports_node (id : NodeId) : Reports (node id) :=
  reports_bind reports_get fun t => reports_ofExcept (t.graph.refrains_node? id)

theorem reports_record (target : Target) (args : List Operand) (kwargs : Named Operand) :
    Reports (record target args kwargs) := by
  refine reports_bind reports_get fun t => ?_
  refine reports_bind (reports_ofExcept (t.graph.refrains_record _ _ _)) fun recorded => ?_
  refine reports_bind (reports_modifyGraph _) fun _ => ?_
  exact reports_bind (reports_say _ _ _) fun _ => reports_pure _

theorem reports_recordItem (id : NodeId) (index : Nat) : Reports (recordItem id index) :=
  reports_ite _ (reports_record _ _ _) (reports_fail rfl)

theorem reports_setExample (id : NodeId) (value : Value) : Reports (setExample id value) := by
  refine reports_bind reports_get fun t => ?_
  refine reports_bind (reports_ofExcept (t.graph.refrains_setExample id value)) fun graph => ?_
  exact reports_modifyGraph _

theorem reports_newIdentity : Reports newIdentity := by
  refine reports_bind reports_get fun t => ?_
  exact reports_bind (reports_modifyGraph _) fun _ => reports_pure _

/-! ## Running a node -/

theorem reports_keepingGenerator {act : Capture α} (h : Reports act) :
    Reports (keepingGenerator act) :=
  fun t e hout => h t e hout

theorem reports_inMode (placeholders : Bool) {act : Capture α} (h : Reports act) :
    Reports (inMode placeholders act) := by
  cases placeholders with
  | false => exact h
  | true => exact fun t e hout => h _ e hout

theorem reports_runKernel (act : Library → Kernel Value × Library) : Reports (runKernel act) := by
  intro t e hout
  unfold runKernel at hout
  rw [outcome_ofFunction] at hout
  dsimp only at hout
  split at hout <;> cases hout

theorem reports_runModule (m : Module) (keep : Module → Workshop → Workshop) (args : List Value)
    (kwargs : Named Value) : Reports (runModule m keep args kwargs) := by
  intro t e hout
  unfold runModule at hout
  rw [outcome_ofFunction] at hout
  dsimp only at hout
  split at hout <;> cases hout

theorem reports_runMethod (name : String) (args : List Value) (kwargs : Named Value) :
    Reports (runMethod name args kwargs) := by
  unfold runMethod
  split
  · exact reports_runKernel _
  · exact reports_pure _

theorem reports_interpretError (target : Target) (args : List Value) (placeholders : Bool)
    (e : LibraryError) : Reports (interpretError target args placeholders e) := by
  unfold interpretError
  split
  · exact reports_fail rfl
  · exact reports_fail rfl
  · refine reports_bind reports_config fun config => reports_ite _ ?_ (reports_fail rfl)
    split
    · exact reports_pure _
    · exact reports_fail rfl
  · exact reports_fail rfl
  · exact reports_fail rfl

theorem reports_settle (target : Target) (args : List Value) (placeholders : Bool)
    (result : Except LibraryError Value) : Reports (settle target args placeholders result) := by
  cases result with
  | ok value => exact reports_pure value
  | error e => exact reports_interpretError target args placeholders e

theorem reports_moduleFor (path : String) (given : Option Nat) :
    Reports (moduleFor path given) := by
  refine reports_bind reports_get fun t => ?_
  split
  · exact reports_fail rfl
  · split
    · exact reports_fail rfl
    · exact reports_pure _

theorem reports_callModule (path : String) (given : Option Nat) (args : List Value)
    (kwargs : Named Value) (placeholders : Bool) :
    Reports (callModule path given args kwargs placeholders) := by
  refine reports_bind (reports_moduleFor path given) fun found => ?_
  refine reports_bind (reports_asks _) fun workshop => ?_
  refine reports_ite _ ?_ (reports_ite _ ?_ (reports_runModule _ _ _ _))
  · have again : Reports (do
        let m ← asks fun t => (t.workshop.modules[found.1]?).getD found.2
        inMode placeholders (runItself found.1 m args kwargs)) :=
      reports_bind (reports_asks _) fun m => reports_inMode _ (reports_runModule _ _ _ _)
    refine reports_bind (reports_say _ _ _) fun _ => ?_
    refine reports_bind (reports_runModule _ _ _ _) fun first => ?_
    cases first with
    | ok value => exact again
    | error e => exact reports_bind (reports_interpretError _ _ _ _) fun _ => again
  · exact reports_inMode _ (reports_runModule _ _ _ _)

theorem reports_callTarget (target : Target) (module? : Option Nat) (args : List Value)
    (kwargs : Named Value) (placeholders : Bool) :
    Reports (callTarget target module? args kwargs placeholders) := by
  cases target with
  | placeholder name => exact reports_fail rfl
  | builtin b => exact reports_inMode _ (reports_runKernel _)
  | function name => exact reports_inMode _ (reports_runKernel _)
  | method name => exact reports_inMode _ (reports_runMethod _ _ _)
  | module path => exact reports_callModule _ _ _ _ _

theorem reports_runNode (id : NodeId) (module? : Option Nat) : Reports (runNode id module?) := by
  rw [runNode_eq]
  refine reports_bind reports_config fun config => ?_
  refine reports_bind (reports_node id) fun node => ?_
  refine reports_bind reports_get fun t => ?_
  refine reports_bind (reports_ofExcept (t.graph.refrains_resolveOperands node)) fun operands => ?_
  exact reports_bind (reports_callTarget _ _ _ _ _) fun result => reports_settle _ _ _ _

theorem reports_exampleValue (id : NodeId) (supplied : Option Value) (module? : Option Nat) :
    Reports (exampleValue id supplied module?) := by
  refine reports_keepingGenerator ?_
  cases supplied with
  | some value => exact reports_bind reports_config fun _ => reports_pure _
  | none => exact reports_runNode id module?

/-! ## Classification -/

theorem reports_setExample_pure (id : NodeId) (value : Value) (answer : α) :
    Reports (do setExample id value; return answer) :=
  reports_bind (reports_setExample id value) fun _ => reports_pure _

theorem reports_buildTensor (role : TensorRole) (p : Provenance) (id : NodeId)
    (supplied : Option Tensor) (tensor : Tensor) :
    Reports (buildTensor role p id supplied tensor) :=
  reports_bind reports_config fun _ => reports_setExample_pure _ _ _

theorem reports_buildExtents (id : NodeId) (index : Nat) (extents : List Nat) :
    Reports (buildExtents id index extents) := by
  induction extents generalizing index with
  | nil => exact reports_pure _
  | cons extent rest ih =>
      refine reports_bind (reports_recordItem id index) fun item => ?_
      have others : Reports (do
          let others ← buildExtents id (index + 1) rest
          return symbolicNumber item .int .none :: others) :=
        reports_bind (ih (index + 1)) fun _ => reports_pure _
      apply reports_ite
      · exact reports_bind (reports_setExample _ _) fun _ => others
      · exact reports_bind (reports_fail rfl) fun _ => others

theorem reports_containerProvenance (kind : ContainerKind) (p : Provenance) :
    Reports (containerProvenance kind p) :=
  reports_ite _ (reports_bind reports_newIdentity fun _ => reports_pure _) (reports_pure _)

theorem reports_buildSequence (p : Provenance) (id : NodeId) (kind : ContainerKind) (value : Value)
    {items : Capture (List Variable)} (hitems : Reports items) :
    Reports (buildSequence p id kind value items) := by
  refine reports_bind (reports_setExample id value) fun _ => ?_
  refine reports_bind hitems fun contents => ?_
  exact reports_bind (reports_containerProvenance kind p) fun _ => reports_pure _

theorem reports_buildAs (role : TensorRole) (p : Provenance) (id : NodeId) (target : Target)
    (supplied : Option Tensor) (erased : Bool) (value : Value) {items : Capture (List Variable)}
    (hitems : Reports items) (rule : Rule) :
    Reports (buildAs role p id target supplied erased value items rule) := by
  unfold buildAs
  split
  · exact reports_buildTensor role p id supplied _
  · refine reports_bind (reports_setExample _ _) fun _ => ?_
    exact reports_bind (reports_buildExtents id 0 _) fun _ => reports_pure _
  · exact reports_setExample_pure _ _ _
  · exact reports_buildSequence p id _ _ hitems
  · exact reports_buildSequence p id _ _ hitems
  · exact reports_buildSequence p id _ _ hitems
  · exact reports_pure _
  · split
    · exact reports_setExample_pure _ _ _
    · exact reports_setExample_pure _ _ _
    · exact reports_setExample_pure _ _ _
    · refine reports_bind reports_config fun config => ?_
      exact reports_bind (reports_say _ _ _) fun _ => reports_buildTensor _ p id _ _
    · exact reports_fail rfl

theorem reports_classifyWith (role : TensorRole) (p : Provenance) (id : NodeId) (target : Target)
    (supplied : Option Tensor) (erased : Bool) (value : Value) {items : Capture (List Variable)}
    (hitems : Reports items) :
    Reports (classifyWith role p id target supplied erased value items) := by
  refine reports_bind reports_config fun config => ?_
  split
  · exact reports_fail rfl
  · exact reports_bind (reports_say _ _ _) fun _ => reports_buildAs role p id target _ _ _ hitems _

mutual

theorem reports_classify (role : TensorRole) (p : Provenance) (id : NodeId) (target : Target)
    (supplied : Option Tensor) (erased : Bool) (value : Value) :
    Reports (classify role p id target supplied erased value) := by
  unfold classify
  cases value with
  | tuple items =>
      refine reports_classifyWith role p id target _ _ _ ?_
      exact reports_classifyItems role p id erased 0 items
  | list items =>
      refine reports_classifyWith role p id target _ _ _ ?_
      exact reports_classifyItems role p id erased 0 items
  | record type items =>
      refine reports_classifyWith role p id target _ _ _ ?_
      exact reports_classifyItems role p id erased 0 items
  | _ => exact reports_classifyWith role p id target _ _ _ (reports_pure _)

theorem reports_classifyItems (role : TensorRole) (p : Provenance) (id : NodeId) (erased : Bool)
    (index : Nat) (items : List Value) :
    Reports (classifyItems role p id erased index items) := by
  cases items with
  | nil => exact reports_pure _
  | cons item rest =>
      unfold classifyItems
      have others (first : Variable) : Reports (do
          let others ← classifyItems role p id erased (index + 1) rest
          return first :: others) :=
        reports_bind (reports_classifyItems role p id erased (index + 1) rest) fun _ =>
          reports_pure _
      refine reports_ite _ (reports_bind (reports_pure _) others) ?_
      refine reports_bind (reports_recordItem id index) fun child => ?_
      refine reports_bind (reports_modifyGraph _) fun _ => ?_
      refine reports_bind reports_config fun config => ?_
      exact reports_bind (reports_classify role p child (.builtin .getItem) _ _ item) others

end

/-- Classifying a node. -/
theorem reports_create (id : NodeId) (supplied : Option Value) (module? : Option Nat)
    (role : TensorRole) (p : Provenance) : Reports (create id supplied module? role p) := by
  refine reports_bind (reports_modifyGraph _) fun _ => ?_
  refine reports_bind (reports_node id) fun node => ?_
  have rest : Reports (do
      let given := supplied.bind Value.toTensor?
      let config ← config
      if config.dynamicPropagation then
        let value ← exampleValue id supplied module?
        classify role p id (← Capture.node id).target given false value
      else return .tensor ⟨id, given.map (·.specialize config), none, role, p⟩) := by
    refine reports_bind reports_config fun config => reports_ite _ ?_ (reports_pure _)
    refine reports_bind (reports_exampleValue id supplied module?) fun value => ?_
    refine reports_bind (reports_node id) fun node => ?_
    exact reports_classify role p id node.target _ _ value
  exact reports_ite _ (reports_bind (reports_fail rfl) fun _ => rest) rest

/-! ## Methods -/

/-- Calling a method of a tensor. -/
theorem reports_callMethod (x : SymbolicTensor) (name : String) (args : List Variable)
    (kwargs : Named Variable) : Reports (callMethod x name args kwargs) := by
  have hoperands : Refrains (callOperands x args kwargs) := by
    refine refrains_bind (Variable.refrains_toOperands _) fun args => ?_
    exact refrains_bind (Variable.refrains_toOperands _) fun values => refrains_ok _
  have hcreate (id : NodeId) (p : Provenance) : Reports (createDerived x id p) :=
    reports_create id none none x.role.derived p
  unfold callMethod
  dsimp only
  split
  · rename_i fault hquery
    obtain rfl := SymbolicTensor.fault_of_query? hquery
    intro t e hout
    cases hout
  · exact reports_ite _ (reports_ofExcept (Variable.refrains_indexed _ _ _)) (reports_fail rfl)
  · refine reports_bind reports_config fun config => ?_
    split
    · exact reports_fail rfl
    · split
      · exact reports_bind (reports_record _ _ _) fun id => hcreate id _
      · unfold length
        split
        · exact reports_pure _
        · exact reports_bind (reports_record _ _ _) fun id => hcreate id _
      · refine reports_bind (reports_modifyGraph _) fun _ => ?_
        refine reports_bind (reports_ofExcept hoperands) fun operands => ?_
        exact reports_bind (reports_record _ _ _) fun _ => reports_pure _
      · refine reports_bind reports_config fun config => ?_
        refine reports_bind (reports_ofExcept ?_) fun operands => ?_
        · exact hoperands
        · exact reports_bind (reports_record _ _ _) fun id => hcreate id _

end Capture

end TensorCapture
