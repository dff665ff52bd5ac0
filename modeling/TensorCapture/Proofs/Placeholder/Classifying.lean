import TensorCapture.Capture.Classification
import TensorCapture.Proofs.Placeholder.Running

set_option autoImplicit false

/-! # Classification on twins

On twins, a node is classified by the same value. The variables that stand for it are the same
ones up to the elements of the tensors that were supplied for parameters, and every value that
is stored on the way is without elements.
-/

namespace TensorCapture

/-- What is supplied as a tensor is the same up to elements. -/
theorem Value.suppliedTensor_eq {supplied supplied' : Option Value}
    (h : supplied.map Value.erase = supplied'.map Value.erase) :
    (supplied.bind Value.toTensor?).map Tensor.erase =
      (supplied'.bind Value.toTensor?).map Tensor.erase := by
  have herase : ∀ o : Option Value,
      (o.bind Value.toTensor?).map Tensor.erase = (o.map Value.erase).bind Value.toTensor? := by
    intro o
    cases o with
    | none => rfl
    | some v => exact (Value.toTensor?_erase v).symm
  rw [herase, herase, h]

namespace Capture

theorem hollow_prepared (erased : Bool) {value : Value} (h : value.Hollow) :
    (prepared erased value).Hollow := by
  cases erased with
  | true => exact value.hollow_erase
  | false => exact h

/-! ## Builders -/

section Builders

variable (p : Provenance) (id : NodeId)

theorem agree_buildTensor (role : TensorRole) {supplied supplied' : Option Tensor}
    (h : supplied.map Tensor.erase = supplied'.map Tensor.erase) {tensor : Tensor}
    (htensor : (Value.tensor tensor).Hollow) :
    Agree Variable.Same (buildTensor role p id supplied tensor)
      (buildTensor role p id supplied' tensor) := by
  refine agree_bind agree_config ?_
  rintro _ config ⟨rfl, -⟩
  refine agree_bind (agree_setExample id htensor) fun _ _ _ => agree_pure ?_
  have hparameter (c : Prop) [Decidable c] :
      (if c then supplied else none).map Tensor.erase =
        (if c then supplied' else none).map Tensor.erase := by
    by_cases hc : c
    · rw [if_pos hc, if_pos hc, h]
    · rw [if_neg hc, if_neg hc]
  unfold Variable.Same Variable.erase SymbolicTensor.erase
  dsimp only
  rw [hparameter]

theorem agree_buildSymbolicNumber {value : Value} (h : value.Hollow) (number : Scalar) :
    Agree Variable.Same (buildSymbolicNumber p id value number)
      (buildSymbolicNumber p id value number) :=
  agree_bind (agree_setExample id h) fun _ _ _ => agree_pure rfl

theorem agree_buildExtents (index : Nat) (extents : List Nat) :
    Agree Variable.SameAll (buildExtents id index extents) (buildExtents id index extents) := by
  induction extents generalizing index with
  | nil => exact agree_pure rfl
  | cons extent rest ih =>
      refine agree_bind (agree_recordItem id index) ?_
      rintro item _ rfl
      have others : Agree Variable.SameAll (do
          let others ← buildExtents id (index + 1) rest
          return symbolicNumber item .int .none :: others) (do
          let others ← buildExtents id (index + 1) rest
          return symbolicNumber item .int .none :: others) :=
        agree_bind (ih (index + 1)) fun vs vs' hvs =>
          agree_pure (Variable.SameAll.cons (Variable.same_of_eq rfl) hvs)
      refine agree_ite _ ?_ ?_
      · exact agree_bind (agree_setExample item rfl) fun _ _ _ => others
      · exact agree_bind (agree_breach (E := Eq) _) fun _ _ _ => others

theorem agree_buildSymbolicSize (extents : List Nat) :
    Agree Variable.Same (buildSymbolicSize p id extents) (buildSymbolicSize p id extents) := by
  refine agree_bind (agree_setExample id rfl) fun _ _ _ => ?_
  refine agree_bind (agree_buildExtents id 0 extents) fun vs vs' hvs => agree_pure ?_
  exact congrArg (Variable.container .size · id p) hvs

theorem agree_buildSize (extents : List Nat) :
    Agree Variable.Same (buildSize p id extents) (buildSize p id extents) :=
  agree_bind (agree_setExample id rfl) fun _ _ _ => agree_pure rfl

theorem agree_buildLiteral {value : Value} (h : value.Hollow) (number : Scalar) :
    Agree Variable.Same (buildLiteral p id value number) (buildLiteral p id value number) :=
  agree_bind (agree_setExample id h) fun _ _ _ => agree_pure rfl

/-- With placeholders, a captured number is an opaque item: the number is not remembered. -/
theorem agree_buildScalar (number : Scalar) :
    Agree Variable.Same (buildScalar p id number) (buildScalar p id number) := by
  refine agree_bind agree_config ?_
  rintro _ config ⟨rfl, hplaceholders⟩
  refine agree_bind (agree_say _ _ _) fun _ _ _ => ?_
  rw [hplaceholders]
  exact agree_buildTensor p id _ rfl rfl

theorem agree_containerProvenance (kind : ContainerKind) :
    Agree Eq (containerProvenance kind p) (containerProvenance kind p) := by
  refine agree_ite _ ?_ (agree_pure rfl)
  refine agree_bind agree_newIdentity ?_
  rintro identity _ rfl
  exact agree_pure rfl

theorem agree_buildSequence (kind : ContainerKind) {value : Value} (h : value.Hollow)
    {items : Capture (List Variable)} (hitems : Agree Variable.SameAll items items) :
    Agree Variable.Same (buildSequence p id kind value items)
      (buildSequence p id kind value items) := by
  refine agree_bind (agree_setExample id h) fun _ _ _ => ?_
  refine agree_bind hitems fun vs vs' hvs => ?_
  refine agree_bind (agree_containerProvenance p kind) ?_
  rintro p _ rfl
  exact agree_pure (congrArg (Variable.container kind · none p) hvs)

/-! ## Rules -/

/-- Which rule applies does not matter: what it builds agrees. -/
theorem agree_buildAs (role : TensorRole) (target : Target) {supplied supplied' : Option Tensor}
    (h : supplied.map Tensor.erase = supplied'.map Tensor.erase) (erased : Bool) {value : Value}
    (hvalue : value.Hollow) {items : Capture (List Variable)}
    (hitems : Agree Variable.SameAll items items) (rule : Rule) :
    Agree Variable.Same (buildAs role p id target supplied erased value items rule)
      (buildAs role p id target supplied' erased value items rule) := by
  have hprepared := hollow_prepared erased hvalue
  cases rule with
  | tensor =>
      cases value with
      | tensor tensor =>
          refine agree_buildTensor p id role h ?_
          cases erased with
          | true => exact (Value.tensor tensor).hollow_erase
          | false => exact hvalue
      | _ => exact agree_breach _
  | dynamicSize =>
      cases value with
      | size extents => exact agree_buildSymbolicSize p id extents
      | _ => exact agree_breach _
  | staticSize =>
      cases value with
      | size extents => exact agree_buildSize p id extents
      | _ => exact agree_breach _
  | sequence =>
      cases value with
      | tuple _ => exact agree_buildSequence p id _ hprepared hitems
      | list _ => exact agree_buildSequence p id _ hprepared hitems
      | record _ _ => exact agree_buildSequence p id _ hprepared hitems
      | _ => exact agree_breach _
  | noneOrSeed => cases value <;> exact agree_pure rfl
  | dynamicScalar =>
      cases value with
      | int _ | bool _ | float _ => exact agree_buildSymbolicNumber p id hvalue _
      | _ => exact agree_breach _
  | nondeterministicInteger =>
      cases value with
      | int _ | bool _ | float _ => exact agree_buildSymbolicNumber p id hvalue _
      | _ => exact agree_breach _
  | elementSize =>
      cases value with
      | int _ | bool _ | float _ => exact agree_buildLiteral p id hvalue _
      | _ => exact agree_breach _
  | scalarOutput =>
      cases value with
      | int _ | bool _ | float _ => exact agree_buildScalar p id _
      | _ => exact agree_breach _

theorem agree_classifyWith (role : TensorRole) (target : Target)
    {supplied supplied' : Option Tensor}
    (h : supplied.map Tensor.erase = supplied'.map Tensor.erase) (erased : Bool) {value : Value}
    (hvalue : value.Hollow) {items : Capture (List Variable)}
    (hitems : Agree Variable.SameAll items items) :
    Agree Variable.Same (classifyWith role p id target supplied erased value items)
      (classifyWith role p id target supplied' erased value items) := by
  refine agree_bind agree_config ?_
  rintro _ config ⟨rfl, -⟩
  cases Rule.first? config target value with
  | none => exact agree_breach _
  | some rule =>
      refine agree_bind (agree_say _ _ _) fun _ _ _ => ?_
      exact agree_buildAs p id role target h erased hvalue hitems rule

end Builders

/-! ## Values and nodes -/

mutual

theorem agree_classify (role : TensorRole) (p : Provenance) (id : NodeId) (target : Target)
    {supplied supplied' : Option Tensor}
    (h : supplied.map Tensor.erase = supplied'.map Tensor.erase) (erased : Bool) (value : Value)
    (hvalue : value.Hollow) :
    Agree Variable.Same (classify role p id target supplied erased value)
      (classify role p id target supplied' erased value) := by
  cases value with
  | tuple items =>
      have hitems := Value.tuple.inj hvalue
      exact agree_classifyWith p id role target h erased hvalue
        (agree_classifyItems role p id erased 0 items hitems)
  | list items =>
      have hitems := Value.list.inj hvalue
      exact agree_classifyWith p id role target h erased hvalue
        (agree_classifyItems role p id erased 0 items hitems)
  | record type items =>
      have hitems := (Value.record.inj hvalue).2
      exact agree_classifyWith p id role target h erased hvalue
        (agree_classifyItems role p id erased 0 items hitems)
  | _ => exact agree_classifyWith p id role target h erased hvalue (agree_pure rfl)

theorem agree_classifyItems (role : TensorRole) (p : Provenance) (id : NodeId) (erased : Bool)
    (index : Nat) (items : List Value) (hitems : Value.eraseAll items = items) :
    Agree Variable.SameAll (classifyItems role p id erased index items)
      (classifyItems role p id erased index items) := by
  cases items with
  | nil => exact agree_pure rfl
  | cons item rest =>
      obtain ⟨hitem, hrest⟩ := List.cons.inj hitems
      unfold classifyItems
      have others (first first' : Variable) (hfirst : first.Same first') :
          Agree Variable.SameAll (do
            let others ← classifyItems role p id erased (index + 1) rest
            return first :: others) (do
            let others ← classifyItems role p id erased (index + 1) rest
            return first' :: others) := by
        refine agree_bind (agree_classifyItems role p id erased (index + 1) rest hrest) ?_
        intro vs vs' hvs
        exact agree_pure (Variable.SameAll.cons hfirst hvs)
      refine agree_ite _ ?_ ?_
      · exact agree_bind (agree_pure (Variable.same_of_eq rfl)) others
      · refine agree_bind (agree_recordItem id index) ?_
        rintro child _ rfl
        refine agree_bind (agree_addGuards p.guards) fun _ _ _ => ?_
        refine agree_bind agree_config ?_
        rintro _ config ⟨rfl, -⟩
        exact agree_bind (agree_classify role p child (.builtin .getItem) rfl _ item hitem) others

end

/-- Supplied examples that are equal without their elements give the same variable. -/
theorem agree_create (id : NodeId) {supplied supplied' : Option Value}
    (h : supplied.map Value.erase = supplied'.map Value.erase) (module? : Option Nat)
    (role : TensorRole) (p : Provenance) :
    Agree Variable.Same (create id supplied module? role p)
      (create id supplied' module? role p) := by
  have hgiven := Value.suppliedTensor_eq h
  refine agree_bind (agree_addGuards p.guards) fun _ _ _ => ?_
  refine agree_bind (agree_node id) ?_
  rintro _ node ⟨rfl, -⟩
  have rest : Agree Variable.Same (do
      let given := supplied.bind Value.toTensor?
      let config ← config
      if config.dynamicPropagation then
        let value ← exampleValue id supplied module?
        classify role p id (← Capture.node id).target given false value
      else return .tensor ⟨id, given.map (·.specialize config), none, role, p⟩) (do
      let given := supplied'.bind Value.toTensor?
      let config ← config
      if config.dynamicPropagation then
        let value ← exampleValue id supplied' module?
        classify role p id (← Capture.node id).target given false value
      else return .tensor ⟨id, given.map (·.specialize config), none, role, p⟩) := by
    refine agree_bind agree_config ?_
    rintro _ config ⟨rfl, -⟩
    refine agree_ite _ ?_ ?_
    · refine agree_bind (agree_exampleValue id h module?) ?_
      rintro _ value ⟨rfl, hvalue⟩
      refine agree_bind (agree_node id) ?_
      rintro _ node ⟨rfl, -⟩
      exact agree_classify role p id node.target hgiven false value hvalue
    · -- the metadata of a supplied example do not depend on its elements
      have hmetadata : (supplied.bind Value.toTensor?).map (·.specialize config) =
          (supplied'.bind Value.toTensor?).map (·.specialize config) := by
        have herase (o : Option Tensor) :
            o.map (·.specialize config) = (o.map Tensor.erase).map (·.specialize config) := by
          rw [Option.map_map]
          rfl
        rw [herase, hgiven, ← herase]
      rw [hmetadata]
      exact agree_pure rfl
  exact agree_ite _ (agree_bind (agree_breach (E := Eq) _) fun _ _ _ => rest) rest

end Capture

end TensorCapture
