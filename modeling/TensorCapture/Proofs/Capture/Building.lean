import TensorCapture.Proofs.Capture.Keeps

set_option autoImplicit false

/-! # Relations that classification and methods keep

Classifying a node is made of a few kinds of step: an example value is got or written, the
subscript of a node is recorded, an identity is handed out, guards are merged into those of the
graph, and the log is told. Methods and attributes are made of recorded nodes that are then
classified. A preorder that the former keep is kept by `create`, and one that `create` keeps is
kept by every method, attribute and unpacking. Which guards are merged is said by the provenances
alone, so a condition on these may be assumed of the merged guards.
-/

namespace TensorCapture.Capture

variable {R : Trace → Trace → Prop} {within : Provenance → Prop}

/-! ## Classification -/

/-- The steps that classification is made of keep the relation. Guards are merged only of
provenances that satisfy the condition. -/
structure KeepsParts (R : Trace → Trace → Prop) (within : Provenance → Prop) : Prop where
  say (level : Log.Level) (channel : Log.Channel) (text : String) : Keeps R (say level channel text)
  exampleValue (id : NodeId) (supplied : Option Value) (module? : Option Nat) :
    Keeps R (exampleValue id supplied module?)
  setExample (id : NodeId) (value : Value) : Keeps R (setExample id value)
  record (target : Target) (args : List Operand) (kwargs : Named Operand) :
    Keeps R (record target args kwargs)
  newIdentity : Keeps R newIdentity
  addGuards (p : Provenance) (hp : within p) : Keeps R (addGuards p.guards)

namespace KeepsParts

variable [IsPreorder Trace R] (h : KeepsParts R within)

include h

theorem recordItem (id : NodeId) (index : Nat) : Keeps R (recordItem id index) :=
  keeps_ite _ (h.record _ _ _) (keeps_breach _)

theorem buildTensor (role : TensorRole) (p : Provenance) (id : NodeId)
    (supplied : Option Tensor) (tensor : Tensor) :
    Keeps R (buildTensor role p id supplied tensor) := by
  refine keeps_bind keeps_config fun config => ?_
  exact keeps_bind (h.setExample _ _) fun _ => keeps_pure _

theorem buildSymbolicNumber (p : Provenance) (id : NodeId) (value : Value)
    (number : Scalar) : Keeps R (buildSymbolicNumber p id value number) :=
  keeps_bind (h.setExample _ _) fun _ => keeps_pure _

theorem buildExtents (id : NodeId) (index : Nat) (extents : List Nat) :
    Keeps R (buildExtents id index extents) := by
  induction extents generalizing index with
  | nil => exact keeps_pure _
  | cons extent rest ih =>
      refine keeps_bind (h.recordItem id index) fun item => ?_
      have others : Keeps R (do
          let others ← Capture.buildExtents id (index + 1) rest
          return symbolicNumber item .int .none :: others) :=
        keeps_bind (ih (index + 1)) fun _ => keeps_pure _
      apply keeps_ite
      · exact keeps_bind (h.setExample _ _) fun _ => others
      · exact keeps_bind (keeps_breach _) fun _ => others

theorem buildSymbolicSize (p : Provenance) (id : NodeId) (extents : List Nat) :
    Keeps R (buildSymbolicSize p id extents) := by
  refine keeps_bind (h.setExample _ _) fun _ => ?_
  exact keeps_bind (h.buildExtents id 0 extents) fun _ => keeps_pure _

theorem buildSize (p : Provenance) (id : NodeId) (extents : List Nat) :
    Keeps R (buildSize p id extents) :=
  keeps_bind (h.setExample _ _) fun _ => keeps_pure _

theorem buildLiteral (p : Provenance) (id : NodeId) (value : Value) (number : Scalar) :
    Keeps R (buildLiteral p id value number) :=
  keeps_bind (h.setExample _ _) fun _ => keeps_pure _

theorem buildScalar (p : Provenance) (id : NodeId) (number : Scalar) :
    Keeps R (buildScalar p id number) := by
  refine keeps_bind keeps_config fun config => ?_
  exact keeps_bind (h.say _ _ _) fun _ => h.buildTensor _ p id _ _

theorem containerProvenance (kind : ContainerKind) (p : Provenance) :
    Keeps R (containerProvenance kind p) := by
  apply keeps_ite
  · exact keeps_bind h.newIdentity fun _ => keeps_pure _
  · exact keeps_pure _

theorem buildSequence (p : Provenance) (id : NodeId) (kind : ContainerKind)
    (value : Value) {items : Capture (List Variable)} (hitems : Keeps R items) :
    Keeps R (buildSequence p id kind value items) := by
  refine keeps_bind (h.setExample _ _) fun _ => ?_
  refine keeps_bind hitems fun items => ?_
  exact keeps_bind (h.containerProvenance kind p) fun _ => keeps_pure _

theorem buildAs (role : TensorRole) (p : Provenance) (id : NodeId) (target : Target)
    (supplied : Option Tensor) (erased : Bool) (value : Value) {items : Capture (List Variable)}
    (hitems : Keeps R items) (rule : Rule) :
    Keeps R (buildAs role p id target supplied erased value items rule) := by
  unfold Capture.buildAs
  split
  · exact h.buildTensor role p id supplied _
  · exact h.buildSymbolicSize p id _
  · exact h.buildSize p id _
  · exact h.buildSequence p id _ _ hitems
  · exact h.buildSequence p id _ _ hitems
  · exact h.buildSequence p id _ _ hitems
  · exact keeps_pure _
  · split
    · exact h.buildSymbolicNumber p id value _
    · exact h.buildSymbolicNumber p id value _
    · exact h.buildLiteral p id value _
    · exact h.buildScalar p id _
    · exact keeps_breach _

theorem classifyWith (role : TensorRole) (p : Provenance) (id : NodeId)
    (target : Target) (supplied : Option Tensor) (erased : Bool) (value : Value)
    {items : Capture (List Variable)} (hitems : Keeps R items) :
    Keeps R (classifyWith role p id target supplied erased value items) := by
  refine keeps_bind keeps_config fun config => ?_
  split
  · exact keeps_breach _
  · exact keeps_bind (h.say _ _ _) fun _ => h.buildAs role p id target _ _ _ hitems _

mutual

theorem classify (role : TensorRole) {p : Provenance} (hp : within p) (id : NodeId)
    (target : Target) (supplied : Option Tensor) (erased : Bool) (value : Value) :
    Keeps R (classify role p id target supplied erased value) := by
  unfold Capture.classify
  cases value with
  | tuple items =>
      exact h.classifyWith role p id target _ _ _ (classifyItems role hp id erased 0 items)
  | list items =>
      exact h.classifyWith role p id target _ _ _ (classifyItems role hp id erased 0 items)
  | record type items =>
      exact h.classifyWith role p id target _ _ _ (classifyItems role hp id erased 0 items)
  | _ => exact h.classifyWith role p id target _ _ _ (keeps_pure _)

theorem classifyItems (role : TensorRole) {p : Provenance} (hp : within p) (id : NodeId)
    (erased : Bool) (index : Nat) (items : List Value) :
    Keeps R (classifyItems role p id erased index items) := by
  cases items with
  | nil => exact keeps_pure _
  | cons item rest =>
      unfold Capture.classifyItems
      have others (first : Variable) : Keeps R (do
          let others ← Capture.classifyItems role p id erased (index + 1) rest
          return first :: others) :=
        keeps_bind (classifyItems role hp id erased (index + 1) rest) fun _ => keeps_pure _
      refine keeps_ite _ ?_ ?_
      · exact keeps_bind (keeps_pure _) others
      · -- the item gets a node of its own and is classified in turn
        refine keeps_bind (h.recordItem id index) fun child => ?_
        refine keeps_bind (h.addGuards p hp) fun _ => ?_
        refine keeps_bind keeps_config fun config => ?_
        exact keeps_bind (classify role hp child (.builtin .getItem) _ _ item) others

end

/-- Classifying a node keeps what its parts keep. -/
theorem create (id : NodeId) (supplied : Option Value) (module? : Option Nat)
    (role : TensorRole) {p : Provenance} (hp : within p) :
    Keeps R (create id supplied module? role p) := by
  refine keeps_bind (h.addGuards p hp) fun _ => ?_
  refine keeps_bind (keeps_node id) fun node => ?_
  have rest : Keeps R (do
      let given := supplied.bind Value.toTensor?
      let config ← config
      if config.dynamicPropagation then
        let value ← Capture.exampleValue id supplied module?
        Capture.classify role p id (← Capture.node id).target given false value
      else return .tensor ⟨id, given.map (·.specialize config), none, role, p⟩) := by
    refine keeps_bind keeps_config fun config => keeps_ite _ ?_ (keeps_pure _)
    refine keeps_bind (h.exampleValue id supplied module?) fun value => ?_
    exact keeps_bind (keeps_node id) fun node => h.classify role hp id node.target _ _ value
  exact keeps_ite _ (keeps_bind (keeps_breach _) fun _ => rest) rest

end KeepsParts

/-! ## Methods and attributes -/

/-- Recording a node and classifying a recorded node keep the relation. Guards are merged only of
provenances that satisfy the condition. -/
structure KeepsNodes (R : Trace → Trace → Prop) (within : Provenance → Prop) : Prop where
  record (target : Target) (args : List Operand) (kwargs : Named Operand) :
    Keeps R (record target args kwargs)
  addGuards (p : Provenance) (hp : within p) : Keeps R (addGuards p.guards)
  create (id : NodeId) (role : TensorRole) (p : Provenance) (hp : within p) :
    Keeps R (create id none none role p)

theorem KeepsParts.nodes [IsPreorder Trace R] (h : KeepsParts R within) : KeepsNodes R within :=
  ⟨h.record, h.addGuards, fun id role _ hp => h.create id none none role hp⟩

namespace KeepsNodes

variable [IsPreorder Trace R] (h : KeepsNodes R within)

include h

theorem recordItem (id : NodeId) (index : Nat) : Keeps R (recordItem id index) :=
  keeps_ite _ (h.record _ _ _) (keeps_breach _)

section Method

variable (t : SymbolicTensor) (name : String) (args : List Variable) (kwargs : Named Variable)
  {p : Provenance} (hp : within p)

include hp

theorem recordMethod : Keeps R (recordMethod t name args kwargs p) := by
  refine keeps_bind keeps_config fun config => ?_
  refine keeps_bind (keeps_ofExcept _) fun operands => ?_
  exact keeps_bind (h.record _ _ _) fun id => h.create id _ p hp

theorem recordAssignment : Keeps R (recordAssignment t args kwargs p) := by
  refine keeps_bind (h.addGuards p hp) fun _ => ?_
  refine keeps_bind (keeps_ofExcept _) fun operands => ?_
  exact keeps_bind (h.record _ _ _) fun _ => keeps_pure _

theorem length : Keeps R (length t p) := by
  unfold Capture.length
  split
  · exact keeps_pure _
  · exact keeps_bind (h.record _ _ _) fun id => h.create id _ p hp

end Method

/-- A method call keeps what recording and classifying keep. -/
theorem callMethod (t : SymbolicTensor) (name : String) (args : List Variable)
    (kwargs : Named Variable)
    (hp : within (Provenance.propagate (.tensor t :: args ++ kwargs.values))) :
    Keeps R (callMethod t name args kwargs) := by
  unfold Capture.callMethod
  dsimp only
  split
  · exact keeps_throw _
  · exact keeps_ite _ (keeps_ofExcept _) (keeps_breach _)
  · refine keeps_bind keeps_config fun config => ?_
    split
    · exact keeps_refuse _
    · split
      · exact keeps_bind (h.record _ _ _) fun id => h.create id _ _ hp
      · exact h.length t hp
      · exact h.recordAssignment t args kwargs hp
      · exact h.recordMethod t _ args kwargs hp

section Attribute

variable (t : SymbolicTensor) (hp : within t.propagated)

include hp

theorem memberOf (name : String) : Keeps R (memberOf t name) := by
  unfold Capture.memberOf
  dsimp only
  split
  · exact keeps_pure _
  · exact h.callMethod t "dim" [] [] hp
  · exact keeps_pure _
  · exact keeps_pure _
  · exact keeps_pure _
  · split
    · exact keeps_pure _
    · exact h.callMethod t "size" [] [] hp
  · exact keeps_pure _
  · exact keeps_pure _
  · exact keeps_pure _
  · exact keeps_fail _

theorem readMember (name : String) : Keeps R (readMember t name) := by
  refine keeps_ite _ (keeps_pure _) ?_
  refine keeps_bind (h.memberOf t hp name) fun value => ?_
  split
  · exact keeps_pure _
  · exact keeps_pure _

theorem unpackFrom (index count : Nat) : Keeps R (unpackFrom t index count) := by
  induction count generalizing index with
  | zero => exact keeps_pure _
  | succ count ih =>
      refine keeps_bind (h.recordItem _ _) fun id => ?_
      refine keeps_bind (h.create id _ _ hp) fun item => ?_
      exact keeps_bind (ih (index + 1)) fun others => keeps_pure _

theorem unpack : Keeps R (unpack t) := by
  unfold Capture.unpack
  split
  · exact keeps_fail _
  · exact h.unpackFrom t hp 0 _
  · exact keeps_fail _

end Attribute

end KeepsNodes

end TensorCapture.Capture
