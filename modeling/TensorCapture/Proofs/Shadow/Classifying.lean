import TensorCapture.Capture.Classification
import TensorCapture.Proofs.Shadow.Running

set_option autoImplicit false

/-! # Classification in a trace and its shadow

An example and its shadow are classified by the same rule, and the variables that come of it shadow
each other. An unknown number is classified as a symbolic number where shapes are dynamic. Where
they are static it is an item, which is captured as a tensor without axes, and its class tells the
element type.
-/

namespace TensorCapture

/-! ## Rules -/

namespace Rule

/-- A rule looks at the settings that the two traces share, and at what a value has in common with
what it blurs to. -/
theorem accepts_eq {settings : Config} (target : Target) {v w : Value} (h : v.BlursTo w)
    (rule : Rule) :
    accepts { settings with placeholderPropagation := true } target w rule =
      accepts settings target v rule := by
  cases h with
  | erased h =>
      subst h
      cases v <;> cases rule <;> rfl
  | number h =>
      obtain ⟨a, b, ha, hb, hclass⟩ := h
      cases v with
      | int _ | bool _ | float _ =>
          cases ha
          cases w with
          | int _ | bool _ | float _ =>
              cases hb
              cases hclass <;> cases rule <;> rfl
          | _ => cases hb
      | _ => cases ha
  | tuple _ => cases rule <;> rfl
  | list _ => cases rule <;> rfl

theorem first?_eq {settings : Config} (target : Target) {v w : Value} (h : v.BlursTo w) :
    first? { settings with placeholderPropagation := true } target w =
      first? settings target v := by
  unfold first?
  congr 1
  funext rule
  exact accepts_eq target h rule

/-- Where shapes are dynamic, every number is a symbolic one. -/
theorem first?_of_dynamic {settings : Config} (h : settings.dynamicShapes = true) (target : Target)
    {v : Value} {a : Scalar} (ha : v.toScalar? = some a) :
    first? settings target v = some .dynamicScalar := by
  cases v with
  | int _ | bool _ | float _ => simp [first?, all, accepts, h, Value.toScalar?, Value.toTensor?]
  | _ => cases ha

/-- Where shapes are static, an item is captured as a tensor or not at all. -/
theorem first?_of_item {settings : Config} (h : settings.dynamicShapes = false) {v : Value}
    {a : Scalar} (ha : v.toScalar? = some a) {rule : Rule}
    (hrule : first? settings (.method "item") v = some rule) : rule = .scalarOutput := by
  have haccepts := List.find?_some hrule
  cases v with
  | int _ | bool _ | float _ =>
      cases rule <;>
        simp_all [accepts, Value.toScalar?, Value.toTensor?, Value.isNone, isInteger, isSize,
          isSequence, Target.builtin?]
  | _ => cases ha

end Rule

namespace Capture

variable {settings : Config} {t t' : Trace}

/-! ## Builders -/

/-- Placeholders are remembered as plain tensors or parameters. Tensors of these classes are
remembered alike. -/
theorem metadata_eq {tensor : Tensor} (h : (Value.tensor tensor).Plain) (settings : Config) :
    { tensor.specialize settings with
      runtimeClass := if tensor.runtimeClass = .parameter then .parameter else .tensor } =
      tensor.specialize settings := by
  have hclass : tensor.runtimeClass =
      if tensor.runtimeClass = .parameter then .parameter else .tensor := by
    rcases h tensor .tensor with htensor | hparameter
    · rw [htensor]
      rfl
    · rw [hparameter]
      rfl
  rw [← hclass]
  rfl

theorem erase_scalar {a b : Scalar} (h : b.runtimeClass = a.runtimeClass) :
    (Tensor.scalar b).erase = (Tensor.scalar a).erase := by
  cases a <;> cases b <;> first | rfl | cases h

section Builders

variable (h : t.ShadowedBy settings t') (p : Provenance) (id : NodeId)

include h

theorem shadows_buildTensor {role role' : TensorRole} (hrole : role.ShadowedBy role')
    {supplied supplied' : Option Tensor}
    (hsupplied : supplied'.map Tensor.erase = supplied.map Tensor.erase) {tensor : Tensor}
    (hplain : (Value.tensor tensor).Plain) :
    Shadows settings Variable.ShadowedBy (buildTensor role p id supplied tensor)
      (buildTensor role' p id supplied' tensor.erase) t t' := by
  have hparameter (c : Prop) [Decidable c] :
      (if c then supplied' else none).map Tensor.erase =
        (if c then supplied else none).map Tensor.erase := by
    by_cases hc : c
    · rw [if_pos hc, if_pos hc, hsupplied]
    · rw [if_neg hc, if_neg hc]
  refine meets_bind (meets_config h) ?_
  rintro settings _ _ _ ⟨rfl, rfl, rfl, rfl⟩
  have hexample := hplain.shadowedBy (settings.dynamicShapes = true)
  refine meets_bind (shadows_setExample h id hexample) ?_
  rintro _ u _ u' ⟨-, hu⟩
  refine meets_pure ⟨.tensor ⟨rfl, ?_, ?_, hrole, rfl⟩, hu⟩
  · -- only the shadow remembers placeholders
    show some _ = some _
    rw [h.eager]
    exact congrArg some (metadata_eq hplain settings)
  · exact hparameter _

theorem shadows_buildSymbolicNumber {v v' : Value}
    (hvalue : v.ShadowedBy (settings.dynamicShapes = true) v') {a b : Scalar}
    (hclass : b.runtimeClass = a.runtimeClass) :
    Shadows settings Variable.ShadowedBy (buildSymbolicNumber p id v a)
      (buildSymbolicNumber p id v' b) t t' := by
  refine meets_bind (shadows_setExample h id hvalue) ?_
  rintro _ u _ u' ⟨-, hu⟩
  unfold symbolicNumber
  rw [hclass]
  exact meets_pure ⟨.refl _, hu⟩

theorem shadows_buildExtents (index : Nat) (extents : List Nat) :
    Shadows settings Variable.AllShadowedBy (buildExtents id index extents)
      (buildExtents id index extents) t t' := by
  induction extents generalizing index t t' with
  | nil => exact meets_pure ⟨.nil, h⟩
  | cons extent rest ih =>
      refine meets_bind (meets_recordItem h id index) ?_
      rintro _ t item t' ⟨rfl, h, -⟩
      have others {t t' : Trace} (h : t.ShadowedBy settings t') :
          Shadows settings Variable.AllShadowedBy (do
            let others ← buildExtents id (index + 1) rest
            return symbolicNumber item .int .none :: others) (do
            let others ← buildExtents id (index + 1) rest
            return symbolicNumber item .int .none :: others) t t' := by
        refine meets_bind (ih h (index + 1)) ?_
        rintro vs u vs' u' ⟨hvs, hu⟩
        exact meets_pure ⟨.cons (.refl _) hvs, hu⟩
      refine meets_ite _ ?_ (meets_breach_bind _ _ _)
      have hextent := (Value.plain_ofScalar (.int (Word.signed extent))).shadowedBy
        (settings.dynamicShapes = true)
      refine meets_bind (shadows_setExample h item hextent) ?_
      rintro _ u _ u' ⟨-, hu⟩
      exact others hu

theorem shadows_buildSymbolicSize (extents : List Nat) :
    Shadows settings Variable.ShadowedBy (buildSymbolicSize p id extents)
      (buildSymbolicSize p id extents) t t' := by
  have hsize := (Value.plain_size extents).shadowedBy (settings.dynamicShapes = true)
  refine meets_bind (shadows_setExample h id hsize) ?_
  rintro _ t _ t' ⟨-, h⟩
  refine meets_bind (shadows_buildExtents h id 0 extents) ?_
  rintro vs u vs' u' ⟨hvs, hu⟩
  exact meets_pure ⟨.container .size id p hvs, hu⟩

theorem shadows_buildSize (extents : List Nat) :
    Shadows settings Variable.ShadowedBy (buildSize p id extents) (buildSize p id extents)
      t t' := by
  have hsize := (Value.plain_size extents).shadowedBy (settings.dynamicShapes = true)
  refine meets_bind (shadows_setExample h id hsize) ?_
  rintro _ u _ u' ⟨-, hu⟩
  exact meets_pure ⟨.refl _, hu⟩

theorem shadows_buildLiteral {v : Value} (hv : v.Plain) (number : Scalar) :
    Shadows settings Variable.ShadowedBy (buildLiteral p id v number)
      (buildLiteral p id v.erase number) t t' := by
  refine meets_bind (shadows_setExample h id (hv.shadowedBy _)) ?_
  rintro _ u _ u' ⟨-, hu⟩
  exact meets_pure ⟨.refl _, hu⟩

/-- The shadow does not remember the number. Its class is enough for the tensor that holds it. -/
theorem shadows_buildScalar {a b : Scalar} (hclass : b.runtimeClass = a.runtimeClass) :
    Shadows settings Variable.ShadowedBy (buildScalar p id a) (buildScalar p id b) t t' := by
  refine meets_bind (meets_config h) ?_
  rintro settings _ _ _ ⟨rfl, rfl, rfl, rfl⟩
  refine meets_bind (shadows_say h _ _ _) ?_
  rintro _ u _ u' ⟨-, hu⟩
  rw [h.eager]
  have hplain : (Value.tensor (.scalar a)).Plain := Value.plain_tensor rfl
  have hsupplied : (some (Tensor.scalar b)).map Tensor.erase =
      (some (Tensor.scalar a)).map Tensor.erase := congrArg some (erase_scalar hclass)
  have htensor := shadows_buildTensor hu p id (.item (some a) false false) hsupplied hplain
  rw [← erase_scalar hclass] at htensor
  exact htensor

theorem shadows_containerProvenance (kind : ContainerKind) :
    Shadows settings Eq (containerProvenance kind p) (containerProvenance kind p) t t' := by
  refine meets_ite _ ?_ (meets_pure ⟨rfl, h⟩)
  refine meets_bind (shadows_newIdentity h) ?_
  rintro identity u _ u' ⟨rfl, hu⟩
  exact meets_pure ⟨rfl, hu⟩

theorem shadows_buildSequence (kind : ContainerKind) {v v' : Value}
    (hvalue : v.ShadowedBy (settings.dynamicShapes = true) v')
    {items items' : Capture (List Variable)}
    (hitems : ∀ {t t' : Trace}, t.ShadowedBy settings t' →
      Shadows settings Variable.AllShadowedBy items items' t t') :
    Shadows settings Variable.ShadowedBy (buildSequence p id kind v items)
      (buildSequence p id kind v' items') t t' := by
  refine meets_bind (shadows_setExample h id hvalue) ?_
  rintro _ t _ t' ⟨-, h⟩
  refine meets_bind (hitems h) ?_
  rintro vs t vs' t' ⟨hvs, h⟩
  refine meets_bind (shadows_containerProvenance h p kind) ?_
  rintro p u _ u' ⟨rfl, hu⟩
  exact meets_pure ⟨.container kind none p hvs, hu⟩

/-! ## Building as a rule says -/

variable {role role' : TensorRole} (hrole : role.ShadowedBy role') (target : Target)
  {supplied supplied' : Option Tensor}
  (hsupplied : supplied'.map Tensor.erase = supplied.map Tensor.erase) (erased : Bool)
  {items items' : Capture (List Variable)}
  (hitems : ∀ {t t' : Trace}, t.ShadowedBy settings t' →
    Shadows settings Variable.AllShadowedBy items items' t t')

omit h in
theorem shadowedBy_prepared {unknown : Prop} {v v' : Value} (h : v.ShadowedBy unknown v')
    (erased : Bool) : v.ShadowedBy unknown (prepared erased v') := by
  cases erased with
  | true => exact h.erase
  | false => exact h

include hrole hsupplied hitems

/-- By the same rule, unless the value is an unknown number. -/
theorem shadows_buildAs {v v' : Value} (hvalue : v.ShadowedBy (settings.dynamicShapes = true) v')
    (hknown : v.toScalar? = none ∨ v' = v.erase) (rule : Rule) :
    Shadows settings Variable.ShadowedBy
      (buildAs role p id target supplied false v items rule)
      (buildAs role' p id target supplied' erased v' items' rule) t t' := by
  have hprepared := shadowedBy_prepared hvalue erased
  cases v with
  | tensor tensor =>
      obtain rfl := hvalue.blursTo.eq_of_tensor
      have htensor := shadows_buildTensor h p id hrole hsupplied hvalue.plain
      cases rule with
      | tensor => cases erased <;> exact htensor
      | noneOrSeed => exact meets_pure ⟨.refl _, h⟩
      | _ => exact meets_breach _ _
  | size extents =>
      obtain rfl := hvalue.blursTo.eq_erase rfl
      cases rule with
      | dynamicSize => exact shadows_buildSymbolicSize h p id extents
      | staticSize => exact shadows_buildSize h p id extents
      | noneOrSeed => exact meets_pure ⟨.refl _, h⟩
      | _ => exact meets_breach _ _
  | tuple _ =>
      obtain ⟨_, rfl, -⟩ := hvalue.exists_tuple
      cases rule with
      | sequence => exact shadows_buildSequence h p id .tuple hprepared hitems
      | noneOrSeed => exact meets_pure ⟨.refl _, h⟩
      | _ => exact meets_breach _ _
  | list _ =>
      obtain ⟨_, rfl, -⟩ := hvalue.exists_list
      cases rule with
      | sequence => exact shadows_buildSequence h p id .list hprepared hitems
      | noneOrSeed => exact meets_pure ⟨.refl _, h⟩
      | _ => exact meets_breach _ _
  | record type _ =>
      obtain ⟨_, rfl, -⟩ := hvalue.exists_record
      cases rule with
      | sequence => exact shadows_buildSequence h p id (.record type) hprepared hitems
      | noneOrSeed => exact meets_pure ⟨.refl _, h⟩
      | _ => exact meets_breach _ _
  | int _ | bool _ | float _ =>
      obtain rfl := hknown.resolve_left (Option.some_ne_none _)
      cases rule with
      | dynamicScalar | nondeterministicInteger =>
          exact shadows_buildSymbolicNumber h p id hvalue rfl
      | elementSize => exact shadows_buildLiteral h p id hvalue.plain _
      | scalarOutput => exact shadows_buildScalar h p id rfl
      | noneOrSeed => exact meets_pure ⟨.refl _, h⟩
      | _ => exact meets_breach _ _
  | _ =>
      obtain rfl := hvalue.blursTo.eq_erase rfl
      cases rule with
      | noneOrSeed => exact meets_pure ⟨.refl _, h⟩
      | _ => exact meets_breach _ _

omit hrole hsupplied hitems in
/-- A symbolic number, of which the shadow knows the class. -/
theorem shadows_buildAs_dynamic {v v' : Value}
    (hvalue : v.ShadowedBy (settings.dynamicShapes = true) v') (hclass : v.SameClass v') :
    Shadows settings Variable.ShadowedBy
      (buildAs role p id target supplied false v items .dynamicScalar)
      (buildAs role' p id target supplied' erased v' items' .dynamicScalar) t t' := by
  obtain ⟨a, b, ha, hb, hclass⟩ := hclass
  have hnumber := shadows_buildSymbolicNumber h p id hvalue hclass
  cases v with
  | int _ | bool _ | float _ =>
      cases ha
      cases v' with
      | int _ | bool _ | float _ =>
          cases hb
          exact hnumber
      | _ => cases hb
  | _ => cases ha

omit hrole hsupplied hitems in
/-- A captured item, of which the shadow knows the class. -/
theorem shadows_buildAs_item {v v' : Value} (hclass : v.SameClass v') :
    Shadows settings Variable.ShadowedBy
      (buildAs role p id target supplied false v items .scalarOutput)
      (buildAs role' p id target supplied' erased v' items' .scalarOutput) t t' := by
  obtain ⟨a, b, ha, hb, hclass⟩ := hclass
  have hscalar := shadows_buildScalar h p id hclass
  cases v with
  | int _ | bool _ | float _ =>
      cases ha
      cases v' with
      | int _ | bool _ | float _ =>
          cases hb
          exact hscalar
      | _ => cases hb
  | _ => cases ha

/-- The same rule applies to an example and to its shadow. An unknown number is a symbolic one. -/
theorem shadows_classifyWith {v v' : Value}
    (hvalue : v.ShadowedBy (settings.dynamicShapes = true) v') :
    Shadows settings Variable.ShadowedBy
      (classifyWith role p id target supplied false v items)
      (classifyWith role' p id target supplied' erased v' items') t t' := by
  refine meets_bind (meets_config h) ?_
  rintro settings _ _ _ ⟨rfl, rfl, rfl, rfl⟩
  rw [Rule.first?_eq target hvalue.blursTo]
  cases hrule : Rule.first? settings target v with
  | none => exact meets_breach _ _
  | some rule =>
      refine meets_bind (shadows_say h _ _ _) ?_
      rintro _ u _ u' ⟨-, hu⟩
      have known (hknown : v.toScalar? = none ∨ v' = v.erase) :=
        shadows_buildAs hu p id hrole target hsupplied erased hitems hvalue hknown rule
      cases hscalar : v.toScalar? with
      | none => exact known (.inl hscalar)
      | some a =>
          rcases hvalue.known with hdynamic | heq
          · rw [Rule.first?_of_dynamic hdynamic target hscalar] at hrule
            obtain rfl := Option.some.inj hrule
            obtain ⟨b, hb, hclass⟩ := hvalue.blursTo.exists_scalar hscalar
            exact shadows_buildAs_dynamic hu p id target erased hvalue ⟨a, b, hscalar, hb, hclass⟩
          · exact known (.inr heq)

omit hrole hsupplied in
/-- An item where shapes are static. -/
theorem shadows_classifyWith_item (hstatic : settings.dynamicShapes = false) {v v' : Value}
    (hclass : v.SameClass v') :
    Shadows settings Variable.ShadowedBy
      (classifyWith role p id (.method "item") supplied false v items)
      (classifyWith role' p id (.method "item") supplied' erased v' items') t t' := by
  refine meets_bind (meets_config h) ?_
  rintro settings _ _ _ ⟨rfl, rfl, rfl, rfl⟩
  rw [Rule.first?_eq _ (.number hclass)]
  cases hrule : Rule.first? settings (.method "item") v with
  | none => exact meets_breach _ _
  | some rule =>
      refine meets_bind (shadows_say h _ _ _) ?_
      rintro _ u _ u' ⟨-, hu⟩
      have hclass' := hclass
      obtain ⟨a, -, ha, -⟩ := hclass
      obtain rfl := Rule.first?_of_item hstatic ha hrule
      exact shadows_buildAs_item hu p id _ erased hclass'

end Builders

/-! ## Values and nodes -/

variable {role role' : TensorRole}

mutual

/-- An example and its shadow. -/
theorem shadows_classify (hrole : role.ShadowedBy role') (p : Provenance)
    {t t' : Trace} (h : t.ShadowedBy settings t') (id : NodeId) (target : Target)
    {supplied supplied' : Option Tensor}
    (hsupplied : supplied'.map Tensor.erase = supplied.map Tensor.erase) (erased : Bool)
    (v : Value) {v' : Value} (hvalue : v.ShadowedBy (settings.dynamicShapes = true) v') :
    Shadows settings Variable.ShadowedBy (classify role p id target supplied false v)
      (classify role' p id target supplied' erased v') t t' := by
  cases v with
  | tuple items =>
      obtain ⟨items', rfl, hitems⟩ := hvalue.exists_tuple
      exact shadows_classifyWith h p id hrole target hsupplied erased
        (fun h => shadows_classifyItems hrole p h id erased 0 items hitems) hvalue
  | list items =>
      obtain ⟨items', rfl, hitems⟩ := hvalue.exists_list
      exact shadows_classifyWith h p id hrole target hsupplied erased
        (fun h => shadows_classifyItems hrole p h id erased 0 items hitems) hvalue
  | record type items =>
      obtain ⟨items', rfl, hitems⟩ := hvalue.exists_record
      exact shadows_classifyWith h p id hrole target hsupplied erased
        (fun h => shadows_classifyItems hrole p h id erased 0 items hitems) hvalue
  | int _ | bool _ | float _ =>
      have hnumber := shadows_classifyWith h p id hrole target hsupplied erased
        (fun h => meets_pure ⟨.nil, h⟩) hvalue
      obtain ⟨b, hb, -⟩ := hvalue.blursTo.exists_scalar rfl
      cases v' with
      | int _ | bool _ | float _ => exact hnumber
      | _ => cases hb
  | _ =>
      obtain rfl := hvalue.blursTo.eq_erase rfl
      exact shadows_classifyWith h p id hrole target hsupplied erased
        (fun h => meets_pure ⟨.nil, h⟩) hvalue

theorem shadows_classifyItems (hrole : role.ShadowedBy role') (p : Provenance)
    {t t' : Trace} (h : t.ShadowedBy settings t') (id : NodeId) (erased : Bool) (index : Nat)
    (items : List Value) {items' : List Value}
    (hitems : List.Forall₂ (Value.ShadowedBy (settings.dynamicShapes = true)) items items') :
    Shadows settings Variable.AllShadowedBy (classifyItems role p id false index items)
      (classifyItems role' p id erased index items') t t' := by
  cases hitems with
  | nil => exact meets_pure ⟨.nil, h⟩
  | @cons item item' rest rest' hitem hrest =>
      have hsupplied : (prepared erased item').toTensor?.map Tensor.erase =
          (prepared false item).toTensor?.map Tensor.erase := by
        rw [(shadowedBy_prepared hitem erased).blursTo.toTensor?_eq, Option.map_map]
        rfl
      rw [classifyItems, classifyItems]
      have others (first first' : Variable) (hfirst : first.ShadowedBy first') {t t' : Trace}
          (h : t.ShadowedBy settings t') :
          Shadows settings Variable.AllShadowedBy (do
            let others ← classifyItems role p id false (index + 1) rest
            return first :: others) (do
            let others ← classifyItems role' p id erased (index + 1) rest'
            return first' :: others) t t' := by
        refine meets_bind (shadows_classifyItems hrole p h id erased (index + 1) rest hrest) ?_
        rintro vs u vs' u' ⟨hvs, hu⟩
        exact meets_pure ⟨.cons hfirst hvs, hu⟩
      dsimp only
      rw [hitem.isNone_eq]
      refine meets_ite _ ?_ ?_
      · rw [pure_bind, pure_bind]
        exact others _ _ (.refl _) h
      · refine meets_bind (meets_recordItem h id index) ?_
        rintro _ t child t' ⟨rfl, h, -⟩
        refine meets_bind (meets_addGuards h p.guards) ?_
        rintro _ t _ t' ⟨h, -, -⟩
        refine meets_bind (meets_config h) ?_
        rintro c _ c' _ ⟨hc, hc', rfl, rfl⟩
        rw [hc, hc', h.eager]
        refine meets_bind
          (shadows_classify hrole p h child (.builtin .getItem) hsupplied true item hitem) ?_
        rintro first u first' u' ⟨hfirst, hu⟩
        exact others first first' hfirst hu

end

section Create

variable (h : t.ShadowedBy settings t') (hrole : role.ShadowedBy role') (p : Provenance)
  (id : NodeId)

include h hrole

/-- An example and its shadow, or an item. -/
theorem shadows_classifyExample (target : Target) {supplied supplied' : Option Tensor}
    (hsupplied : supplied'.map Tensor.erase = supplied.map Tensor.erase) (erased : Bool)
    {v v' : Value} (hvalue : v.ShadowedAs (settings.dynamicShapes = true) target v') :
    Shadows settings Variable.ShadowedBy (classify role p id target supplied false v)
      (classify role' p id target supplied' erased v') t t' := by
  rcases hvalue with hvalue | ⟨rfl, hclass⟩
  · exact shadows_classify hrole p h id target hsupplied erased v hvalue
  · by_cases hdynamic : settings.dynamicShapes = true
    · have hvalue : v.ShadowedBy (settings.dynamicShapes = true) v' :=
        ⟨hclass.plain, .number hclass, .inl hdynamic⟩
      exact shadows_classify hrole p h id _ hsupplied erased v hvalue
    · have hitem : Shadows settings Variable.ShadowedBy
          (classifyWith role p id (.method "item") supplied false v (return []))
          (classifyWith role' p id (.method "item") supplied' erased v' (return [])) t t' :=
        shadows_classifyWith_item h p id erased (fun h => meets_pure ⟨.nil, h⟩)
          (eq_false_of_ne_true hdynamic) hclass
      obtain ⟨a, b, ha, hb, -⟩ := hclass
      cases v with
      | int _ | bool _ | float _ =>
          cases v' with
          | int _ | bool _ | float _ => exact hitem
          | _ => cases hb
      | _ => cases ha

/-- The variable for a node and the variable that shadows it. -/
theorem shadows_create {supplied : Option Value} (hsupplied : ∀ v ∈ supplied, v.Plain)
    (module? : Option Nat)
    (hcounted : supplied = none → ∀ n, t.graph.nodes[id.index]? = some n →
      CountsAgree settings t t' (t.graph.counted n.target n.args)) :
    Shadows settings Variable.ShadowedBy (create id supplied module? role p)
      (create id supplied module? role' p) t t' := by
  refine meets_bind (meets_addGuards h p.guards) ?_
  rintro _ u _ u' ⟨hu, hnodes, hnodes'⟩
  refine meets_bind (meets_node hu id) ?_
  rintro n u n' u' ⟨hn, hnode, rfl, rfl⟩
  rw [hnode.isSome_example?]
  have hagree : supplied = none →
      CountsAgree settings u u' (u.graph.counted n.target n.args) := by
    intro hnone hdynamic operand hoperand
    rw [hnodes] at hn
    rw [Graph.counted_congr hnodes] at hoperand
    exact (hcounted hnone n hn hdynamic operand hoperand).congr hnodes hnodes'
  have rest : Shadows settings Variable.ShadowedBy (do
      let given := supplied.bind Value.toTensor?
      let config ← config
      if config.dynamicPropagation then
        let value ← exampleValue id supplied module?
        classify role p id (← Capture.node id).target given false value
      else return .tensor ⟨id, given.map (·.specialize config), none, role, p⟩) (do
      let given := supplied.bind Value.toTensor?
      let config ← config
      if config.dynamicPropagation then
        let value ← exampleValue id supplied module?
        classify role' p id (← Capture.node id).target given false value
      else return .tensor ⟨id, given.map (·.specialize config), none, role', p⟩) u u' := by
    refine meets_bind (meets_config hu) ?_
    rintro settings _ _ _ ⟨rfl, rfl, rfl, rfl⟩
    refine meets_ite _ ?_ ?_
    · refine meets_bind (meets_exampleValue hu hn hsupplied module? hagree) ?_
      rintro v w v' w' ⟨hvalue, hw, hgraph⟩
      refine meets_bind (meets_node hw id) ?_
      rintro found _ found' _ ⟨hfound, hnode, rfl, rfl⟩
      rw [hgraph, hn] at hfound
      obtain rfl := Option.some.inj hfound
      rw [hnode.target_eq]
      exact shadows_classifyExample hw hrole p id n.target rfl false hvalue
    · exact meets_pure ⟨.tensor ⟨rfl, rfl, rfl, hrole, rfl⟩, hu⟩
  exact meets_ite _ (meets_breach_bind _ _ _) rest

end Create

end Capture

end TensorCapture
