import TensorCapture.Proofs.Unpacking.Steps

set_option autoImplicit false

/-! # Unpacking containers

A container that is supplied as the example of a node is taken apart as its shape says, and this
comes to an answer exactly where classification knows what to make of each leaf.

The value that is classified is the one that the trace uses, so that in placeholder mode its
tensors are placeholders already, and each item becomes the example of its node as it stands.
-/

namespace TensorCapture

open Capture

/-! ## The rule for a value -/

namespace Rule

variable (config : Config)

theorem first?_tensor (target : Target) (x : Tensor) :
    first? config target (.tensor x) = some .tensor := by
  simp [first?, all, accepts, Value.toTensor?]

theorem first?_sequence (target : Target) {value : Value} (h : isSequence value = true) :
    first? config target value = some .sequence := by
  cases value <;>
    simp_all [first?, all, accepts, isSequence, Value.toTensor?, Value.toScalar?, isSize, isInteger]

theorem first?_size (target : Target) (extents : List Nat) :
    first? config target (.size extents) =
      some (if config.dynamicShapes then .dynamicSize else .staticSize) := by
  cases hdynamic : config.dynamicShapes <;>
    simp [first?, all, accepts, hdynamic, Value.toTensor?, Value.toScalar?, isSize, isInteger]

/-- A number that a subscript gives has a rule only where it stays symbolic. -/
theorem first?_number {value : Value} {number : Scalar} (h : value.toScalar? = some number) :
    first? config (.builtin .getItem) value =
      if config.dynamicShapes then some .dynamicScalar else none := by
  obtain ⟨dynamicShapes, captureScalarOutputs, placeholders, dynamicPropagation⟩ := config
  cases value with
  | bool value => cases dynamicShapes <;> rfl
  | int value => cases dynamicShapes <;> rfl
  | float value => cases dynamicShapes <;> rfl
  | _ => cases h

/-- No rule is for anything else that a subscript gives. -/
theorem first?_other {value : Value} (htensor : value.toTensor? = Option.none)
    (hnumber : value.toScalar? = Option.none) (hsize : isSize value = false)
    (hsequence : isSequence value = false) (hnone : value.isNone = false) :
    first? config (.builtin .getItem) value = Option.none := by
  have hinteger : isInteger value = false ∧ isIntegerLike value = false := by
    cases value <;> simp_all [isInteger, isIntegerLike, Value.toScalar?]
  simp [first?, all, accepts, htensor, hnumber, hsize, hsequence, hnone, hinteger,
    Target.builtin?]

end Rule

/-! ## Rules -/

namespace Capture

variable {t : Trace} {id : NodeId} (role : TensorRole) (p : Provenance)

theorem answersIff_buildTensor (h : t.graph.Lacks id) (supplied : Option Tensor) (x : Tensor) :
    AnswersIff True (buildTensor role p id supplied x) t fun v u =>
      v = .tensor ⟨id, some (x.captured t.config),
        if x.runtimeClass = .parameter then supplied else none, role, p⟩ ∧
      t.Fills id (.tensor x) [] u := by
  refine answersIff_after (answersIff_config t) fun config u hconfig => ?_
  obtain ⟨rfl, rfl⟩ := hconfig
  refine answersIff_after (answersIff_setExample h _) fun _ v hv => answersIff_pure ⟨?_, hv⟩
  simp [Tensor.captured]

/-- Extents are recorded one after the other, and each of them has to be a signed word. -/
theorem answersIff_buildExtents (hid : id.index < t.graph.nodes.size) (index : Nat)
    (extents : List Nat) (hextents : index + extents.length ≤ Word.signedBound) :
    AnswersIff (∀ n ∈ extents, n < Word.signedBound) (buildExtents id index extents) t
      fun vs u =>
        vs = (extents.mapIdx fun k _ =>
          symbolicNumber ⟨t.graph.nodes.size + k⟩ .int .none) ∧
        t.Adds (extents.mapIdx fun k extent => .subscript ⟨t.graph.nodes.size + k⟩ id (index + k)
          (some (.int (Word.signed extent)))) u := by
  induction extents generalizing t index with
  | nil => exact answersIff_congr (answersIff_pure ⟨rfl, .refl t⟩) (by simp)
  | cons extent rest ih =>
      rw [List.length_cons] at hextents
      refine answersIff_after (answersIff_recordItem hid (by omega)) fun child u hu => ?_
      obtain ⟨rfl, hadds⟩ := hu
      by_cases hextent : extent < Word.signedBound
      · simp only [hextent, if_true]
        have hlacks := lacks_of_adds rfl hadds
        refine answersIff_after (answersIff_setExample hlacks _) fun _ v hv => ?_
        have hchild := hadds.fills hv
        have hsize := hchild.size_eq
        rw [List.length_singleton] at hsize
        have hothers := ih (t := v) (by omega) (index + 1) (by omega)
        refine answersIff_before (answersIff_congr hothers (by simp [hextent])) fun vs w hw => ?_
        obtain ⟨rfl, hrest⟩ := hw
        refine answersIff_pure ⟨?_, ?_⟩
        · simp [hsize, Nat.add_assoc, Nat.add_comm 1]
        · have hall := hchild.trans hrest
          simpa [hsize, Nat.add_assoc, Nat.add_comm 1, Node.subscript] using hall
      · simp only [hextent, if_false]
        exact answersIff_congr (answersIff_bind_breach _ _) (by simp [hextent])

theorem answersIff_buildSymbolicSize (h : t.graph.Lacks id) (extents : List Nat)
    (hextents : extents.length < Word.signedBound) :
    AnswersIff (∀ n ∈ extents, n < Word.signedBound) (buildSymbolicSize p id extents) t
      fun v u =>
        v = .container .size
          (extents.mapIdx fun k _ => symbolicNumber ⟨t.graph.nodes.size + k⟩ .int .none) id p ∧
        t.Fills id (.size extents) (extents.mapIdx fun k extent =>
          .subscript ⟨t.graph.nodes.size + k⟩ id k (some (.int (Word.signed extent)))) u := by
  obtain ⟨n, hn, hnone⟩ := h
  have hid : id.index < t.graph.nodes.size := (Array.getElem?_eq_some_iff.mp hn).1
  refine answersIff_after (answersIff_setExample ⟨n, hn, hnone⟩ _) fun _ u hu => ?_
  have hsize := hu.size_eq
  rw [List.length_nil, Nat.add_zero] at hsize
  refine answersIff_before (answersIff_buildExtents (by omega) 0 extents (by omega))
    fun vs v hv => ?_
  obtain ⟨rfl, hadds⟩ := hv
  refine answersIff_pure ⟨by rw [hsize], ?_⟩
  have hall := hu.adds hadds
  simpa [hsize] using hall

theorem answersIff_containerProvenance (kind : ContainerKind) :
    AnswersIff True (containerProvenance kind p) t fun q u =>
      (∃ identity, q = if kind = .list then { p with identity := some identity } else p) ∧
      t.Adds [] u := by
  unfold containerProvenance
  by_cases hkind : kind = .list
  · simp only [hkind, if_true]
    exact answersIff_after (answersIff_newIdentity t) fun identity u hu =>
      answersIff_pure ⟨⟨identity, rfl⟩, hu⟩
  · simp only [hkind, if_false]
    exact answersIff_pure ⟨⟨0, rfl⟩, .refl t⟩

/-! ## Classification -/

/-- The variable stands for the value, which has become the example of the node, and the nodes
for what the value holds are behind those that were there. -/
def Stands (t : Trace) (id : NodeId) (value : Value) (v : Variable) (u : Trace) : Prop :=
  ∃ new, Unpacks t.config role p id t.graph.nodes.size value v new ∧ t.Fills id value new u

/-- The variables stand for items from an index on. -/
def StandAll (t : Trace) (id : NodeId) (index : Nat) (items : List Value) (vs : List Variable)
    (u : Trace) : Prop :=
  ∃ new, UnpacksAll t.config role p id index t.graph.nodes.size items vs new ∧ t.Adds new u

/-- The log does not matter. -/
theorem Stands.after {u w : Trace} {value : Value} {v : Variable} (hu : t.Adds [] u)
    (h : Stands role p u id value v w) : Stands role p t id value v w := by
  obtain ⟨new, hunpacks, hfills⟩ := h
  have hnodes : u.graph.nodes = t.graph.nodes := Array.toList_inj.mp (by simpa using hu.nodes_eq)
  rw [hu.config_eq, hnodes] at hunpacks
  refine ⟨new, hunpacks, hfills.config_eq.trans hu.config_eq, ?_⟩
  rw [hfills.nodes_eq, Graph.nodesWith, Graph.nodesWith, hnodes]

theorem lacks_after {u : Trace} (hu : t.Adds [] u) (h : t.graph.Lacks id) : u.graph.Lacks id := by
  have hnodes : u.graph.nodes = t.graph.nodes := Array.toList_inj.mp (by simpa using hu.nodes_eq)
  unfold Graph.Lacks
  rw [hnodes]
  exact h

variable {c : Prop} {target : Target} {supplied : Option Tensor} {erased : Bool} {value : Value}
  {items : Capture (List Variable)}

/-- The first rule that applies builds the variable, after the log was told. -/
theorem answersIff_classifyWith {rule : Rule}
    (hrule : Rule.first? t.config target value = some rule)
    (h : ∀ u, t.Adds [] u →
      AnswersIff c (buildAs role p id target supplied erased value items rule) u
        (Stands role p u id value)) :
    AnswersIff c (classifyWith role p id target supplied erased value items) t
      (Stands role p t id value) := by
  refine answersIff_after (answersIff_config t) fun config u hconfig => ?_
  obtain ⟨rfl, rfl⟩ := hconfig
  simp only [hrule]
  refine answersIff_after (answersIff_say _ _ _ _) fun _ v hv => ?_
  exact answersIff_imp (h v hv) fun _ _ hstands => hstands.after role p hv

/-- Where no rule applies there is no answer. -/
theorem answersIff_classifyWith_none {P : Variable → Trace → Prop}
    (hrule : Rule.first? t.config target value = none) :
    AnswersIff False (classifyWith role p id target supplied erased value items) t P := by
  refine answersIff_after (answersIff_config t) fun config u hconfig => ?_
  obtain ⟨rfl, rfl⟩ := hconfig
  simp only [hrule]
  exact answersIff_breach _

/-- A number is taken where it is to be symbolic. -/
theorem answersIff_number {number : Scalar} (hlacks : t.graph.Lacks id)
    (hnumber : value.toScalar? = some number) :
    AnswersIff (t.config.dynamicShapes = true)
      (classifyWith role p id (.builtin .getItem) supplied erased value items) t
      (Stands role p t id value) := by
  have hrule := Rule.first?_number t.config hnumber
  by_cases hdynamic : t.config.dynamicShapes = true
  · rw [if_pos hdynamic] at hrule
    have hbuild : buildAs role p id (.builtin .getItem) supplied erased value items .dynamicScalar =
        buildSymbolicNumber p id value number := by
      cases value <;> cases hnumber <;> rfl
    refine answersIff_congr (answersIff_classifyWith role p hrule fun u hu => ?_)
      (by simp [hdynamic] : True ↔ _)
    rw [hbuild]
    refine answersIff_after (answersIff_setExample (lacks_after hu hlacks) _) fun _ v hv => ?_
    refine answersIff_pure ⟨[], ?_, hv⟩
    refine .number id _ ?_ hnumber
    rw [hu.config_eq]
    exact hdynamic
  · rw [if_neg hdynamic] at hrule
    exact answersIff_congr (answersIff_classifyWith_none role p hrule) (by simp [hdynamic])

/-- A size is taken unless an extent that is to be symbolic is no signed word. -/
theorem answersIff_size {extents : List Nat} (hlacks : t.graph.Lacks id)
    (hextents : extents.length < Word.signedBound) :
    AnswersIff (t.config.Takes (.size extents))
      (classifyWith role p id target supplied erased (.size extents) items) t
      (Stands role p t id (.size extents)) := by
  have hrule := Rule.first?_size t.config target extents
  by_cases hdynamic : t.config.dynamicShapes = true
  · rw [if_pos hdynamic] at hrule
    have htakes : (∀ n ∈ extents, n < Word.signedBound) ↔ t.config.Takes (.size extents) := by
      simp [Config.Takes, hdynamic]
    refine answersIff_congr (answersIff_classifyWith role p hrule fun u hu => ?_) htakes
    have hbuild := answersIff_buildSymbolicSize p (lacks_after hu hlacks) extents hextents
    refine answersIff_imp hbuild fun v w hv => ?_
    obtain ⟨rfl, hfills⟩ := hv
    refine ⟨_, .symbolicSize id _ extents ?_, hfills⟩
    rw [hu.config_eq]
    exact hdynamic
  · rw [if_neg hdynamic] at hrule
    refine answersIff_congr (answersIff_classifyWith role p hrule fun u hu => ?_)
      (by simp [Config.Takes, hdynamic] : True ↔ _)
    refine answersIff_after (answersIff_setExample (lacks_after hu hlacks) _) fun _ v hv => ?_
    refine answersIff_pure ⟨[], .size id _ extents ?_, hv⟩
    rw [hu.config_eq]
    simpa using hdynamic

theorem answersIff_tensor {x : Tensor} (hlacks : t.graph.Lacks id)
    (hsettled : prepared erased (.tensor x) = .tensor x) :
    AnswersIff True (classifyWith role p id target (some x) erased (.tensor x) items) t
      (Stands role p t id (.tensor x)) := by
  refine answersIff_classifyWith role p (Rule.first?_tensor t.config target x) fun u hu => ?_
  have htensor : (if erased then x.erase else x) = x := by
    cases erased with
    | false => rfl
    | true => exact Value.tensor.inj hsettled
  unfold buildAs
  simp only [htensor]
  have hbuild := answersIff_buildTensor role p (lacks_after hu hlacks) (some x) x
  refine answersIff_imp hbuild fun v w hv => ?_
  obtain ⟨rfl, hfills⟩ := hv
  exact ⟨[], .tensor id _ x, hfills⟩

/-- Where nothing else is known of a value, no rule applies to it. -/
theorem answersIff_other (hrule : Rule.first? t.config (.builtin .getItem) value = none)
    (htakes : ¬t.config.Takes value) :
    AnswersIff (t.config.Takes value)
      (classifyWith role p id (.builtin .getItem) supplied erased value items) t
      (Stands role p t id value) :=
  answersIff_congr (answersIff_classifyWith_none role p hrule) (by simp [htakes])

/-- A container is built around what stands for its items. -/
theorem answersIff_buildSequence (kind : ContainerKind) {vs : List Value}
    (hlacks : t.graph.Lacks id)
    (hunpacks : ∀ config next contents new identity,
      UnpacksAll config role p id 0 next vs contents new →
      Unpacks config role p id next value (.container kind contents none
        (if kind = .list then { p with identity := some identity } else p)) new)
    (hitems : ∀ u, u.config = t.config → u.graph.nodes.size = t.graph.nodes.size →
      AnswersIff c items u (StandAll role p u id 0 vs)) :
    AnswersIff c (buildSequence p id kind value items) t (Stands role p t id value) := by
  refine answersIff_after (answersIff_setExample hlacks _) fun _ u hu => ?_
  have hsize : u.graph.nodes.size = t.graph.nodes.size := hu.size_eq
  refine answersIff_before (hitems u hu.config_eq hsize) fun contents v hv => ?_
  obtain ⟨new, hall, hadds⟩ := hv
  refine answersIff_after (answersIff_containerProvenance p kind) fun q w hw => ?_
  obtain ⟨⟨identity, rfl⟩, hidentity⟩ := hw
  rw [hu.config_eq, hsize] at hall
  have hfills := (hu.adds hadds).adds hidentity
  rw [List.append_nil] at hfills
  exact answersIff_pure ⟨new, hunpacks _ _ _ _ identity hall, hfills⟩

/-- Whatever its target, a node whose example is a container is taken apart. -/
theorem answersIff_sequence {vs : List Value}
    (hvalue : value = .tuple vs ∨ value = .list vs ∨ ∃ type, value = .record type vs)
    (hlacks : t.graph.Lacks id) (hsettled : prepared erased value = value)
    (hitems : ∀ u, u.config = t.config → u.graph.nodes.size = t.graph.nodes.size →
      AnswersIff c items u (StandAll role p u id 0 vs)) :
    AnswersIff c (classifyWith role p id target supplied erased value items) t
      (Stands role p t id value) := by
  have hsequence : Rule.isSequence value = true := by
    rcases hvalue with rfl | rfl | ⟨type, rfl⟩ <;> rfl
  refine answersIff_classifyWith role p (Rule.first?_sequence t.config target hsequence) ?_
  intro u hu
  have hlacks := lacks_after hu hlacks
  have hitems (w : Trace) (hconfig : w.config = u.config)
      (hsize : w.graph.nodes.size = u.graph.nodes.size) :
      AnswersIff c items w (StandAll role p w id 0 vs) :=
    hitems w (hconfig.trans hu.config_eq) (hsize.trans hu.size_eq)
  rcases hvalue with rfl | rfl | ⟨type, rfl⟩
  · unfold buildAs
    simp only [hsettled]
    exact answersIff_buildSequence role p .tuple hlacks (fun _ _ _ _ _ h => .tuple h) hitems
  · unfold buildAs
    simp only [hsettled]
    exact answersIff_buildSequence role p .list hlacks (fun _ _ _ _ identity h => .list h identity)
      hitems
  · unfold buildAs
    simp only [hsettled]
    exact answersIff_buildSequence role p (.record type) hlacks (fun _ _ _ _ _ h => .record h type)
      hitems

/-! ## Containers in containers -/

/-- The trace uses the items of a value as they stand where it uses the value as it stands. -/
theorem prepared_items {placeholders : Bool} {vs : List Value}
    (h : prepared placeholders value = value)
    (hvalue : value = .tuple vs ∨ value = .list vs ∨ ∃ type, value = .record type vs) :
    vs.map (prepared placeholders) = vs := by
  cases placeholders with
  | false => exact List.map_id vs
  | true =>
      have herase : Value.eraseAll vs = vs := by
        rcases hvalue with rfl | rfl | ⟨type, rfl⟩ <;>
          simpa [prepared, Value.erase] using h
      rw [Value.eraseAll_eq_map] at herase
      exact herase

/-- What the trace uses as it stands has nothing to erase, wherever it is used. -/
theorem prepared_eq_of_settled {placeholders : Bool}
    (herased : erased = true → placeholders = true) (h : prepared placeholders value = value) :
    prepared erased value = value := by
  cases erased with
  | false => rfl
  | true =>
      rw [herased rfl] at h
      exact h

mutual

/-- Classifying a node by its example, by recursion on the example. The target matters only where
this is no container, and is then the subscript. -/
theorem answersIff_classify {t : Trace} {id : NodeId} {target : Target} {erased : Bool}
    (value : Value) (htarget : Rule.isSequence value = false → target = .builtin .getItem)
    (hlacks : t.graph.Lacks id) (hnone : value.isNone = false)
    (hsettled : prepared t.config.placeholderPropagation value = value)
    (herased : erased = true → t.config.placeholderPropagation = true)
    (haddressable : value.Addressable) :
    AnswersIff (∀ leaf ∈ value.leaves, t.config.Takes leaf)
      (classify role p id target value.toTensor? erased value) t (Stands role p t id value) := by
  have hprepared := prepared_eq_of_settled herased hsettled
  have hid : id.index < t.graph.nodes.size := by
    obtain ⟨n, hn, -⟩ := hlacks
    exact (Array.getElem?_eq_some_iff.mp hn).1
  have hleaf (h : value.leaves = [value]) :
      t.config.Takes value ↔ ∀ leaf ∈ value.leaves, t.config.Takes leaf := by
    simp [h]
  cases value with
  | none => cases hnone
  | tensor x => exact answersIff_congr (answersIff_tensor role p hlacks hprepared) (hleaf rfl)
  | bool value =>
      obtain rfl := htarget rfl
      exact answersIff_congr (answersIff_number role p hlacks rfl) (hleaf rfl)
  | int value =>
      obtain rfl := htarget rfl
      exact answersIff_congr (answersIff_number role p hlacks rfl) (hleaf rfl)
  | float value =>
      obtain rfl := htarget rfl
      exact answersIff_congr (answersIff_number role p hlacks rfl) (hleaf rfl)
  | size extents =>
      exact answersIff_congr (answersIff_size role p hlacks haddressable) (hleaf rfl)
  | tuple vs =>
      have hitems := prepared_items hsettled (.inl rfl)
      have hlength := haddressable.1
      refine answersIff_sequence role p (.inl rfl) hlacks hprepared fun u hconfig hsize => ?_
      rw [← hconfig] at hitems herased ⊢
      exact answersIff_classifyItems vs (by omega) (by omega) hitems herased haddressable.2
  | list vs =>
      have hitems := prepared_items hsettled (.inr (.inl rfl))
      have hlength := haddressable.1
      refine answersIff_sequence role p (.inr (.inl rfl)) hlacks hprepared fun u hconfig hsize => ?_
      rw [← hconfig] at hitems herased ⊢
      exact answersIff_classifyItems vs (by omega) (by omega) hitems herased haddressable.2
  | record type vs =>
      have hitems := prepared_items hsettled (.inr (.inr ⟨type, rfl⟩))
      have hlength := haddressable.1
      refine answersIff_sequence role p (.inr (.inr ⟨type, rfl⟩)) hlacks hprepared
        fun u hconfig hsize => ?_
      rw [← hconfig] at hitems herased ⊢
      exact answersIff_classifyItems vs (by omega) (by omega) hitems herased haddressable.2
  | _ =>
      obtain rfl := htarget rfl
      refine answersIff_congr (answersIff_other role p ?_ fun htakes => htakes) (hleaf rfl)
      exact Rule.first?_other t.config rfl rfl rfl rfl rfl

/-- Classifying items, by recursion on the list of them. -/
theorem answersIff_classifyItems {t : Trace} {id : NodeId} {erased : Bool} {index : Nat}
    (items : List Value) (hid : id.index < t.graph.nodes.size)
    (hlength : index + items.length ≤ Word.signedBound)
    (hsettled : items.map (prepared t.config.placeholderPropagation) = items)
    (herased : erased = true → t.config.placeholderPropagation = true)
    (haddressable : Value.AddressableAll items) :
    AnswersIff (∀ leaf ∈ Value.leavesAll items, t.config.Takes leaf)
      (classifyItems role p id erased index items) t (StandAll role p t id index items) := by
  cases items with
  | nil =>
      refine answersIff_congr (answersIff_pure ⟨[], .nil _ _ _, .refl t⟩) ?_
      simp [Value.leavesAll]
  | cons item rest =>
      rw [List.length_cons] at hlength
      rw [List.map_cons] at hsettled
      obtain ⟨hitem, hrest⟩ := List.cons.inj hsettled
      have hall : ((∀ leaf ∈ item.leaves, t.config.Takes leaf) ∧
          ∀ leaf ∈ Value.leavesAll rest, t.config.Takes leaf) ↔
          ∀ leaf ∈ Value.leavesAll (item :: rest), t.config.Takes leaf := by
        simp [Value.leavesAll, or_imp, forall_and]
      unfold classifyItems
      by_cases hnone : item.isNone = true
      · -- an absent item is skipped, and is a leaf that is taken
        obtain rfl : item = .none := by cases item <;> simp_all [Value.isNone]
        have hskipped : (∀ leaf ∈ Value.leavesAll rest, t.config.Takes leaf) ↔
            ∀ leaf ∈ Value.leavesAll (.none :: rest), t.config.Takes leaf := by
          rw [← hall]
          simp [Value.leaves, Config.Takes]
        simp only [hnone, if_true]
        refine answersIff_congr ?_ hskipped
        refine answersIff_after (answersIff_pure (P := fun v u => v = .constant .none p ∧ u = t)
          ⟨rfl, rfl⟩) fun first u hu => ?_
        obtain ⟨rfl, rfl⟩ := hu
        refine answersIff_before (answersIff_classifyItems rest hid (by omega) hrest herased
          haddressable.2) fun others w hw => ?_
        obtain ⟨new, hunpacks, hadds⟩ := hw
        exact answersIff_pure ⟨new, .none hunpacks, hadds⟩
      · -- the item is recorded, the guards are merged, and it is classified in turn
        simp only [hnone, Bool.false_eq_true, if_false]
        refine answersIff_congr ?_ hall
        refine answersIff_after (answersIff_recordItem hid (by omega)) fun child u hu => ?_
        obtain ⟨rfl, hrecorded⟩ := hu
        refine answersIff_after (answersIff_addGuards u p.guards) fun _ v hv => ?_
        have hchild := hrecorded.trans hv
        rw [List.append_nil] at hchild
        refine answersIff_after (answersIff_config v) fun config w hconfig => ?_
        obtain ⟨rfl, rfl⟩ := hconfig
        rw [prepared_eq_of_settled herased hitem]
        have hclassify : AnswersIff (∀ leaf ∈ item.leaves, v.config.Takes leaf)
            (classify role p ⟨t.graph.nodes.size⟩ (.builtin .getItem) item.toTensor?
              v.config.placeholderPropagation item) v
            (Stands role p v ⟨t.graph.nodes.size⟩ item) :=
          answersIff_classify item (fun _ => rfl) (lacks_of_adds rfl hchild) (by simpa using hnone)
            (by rw [hchild.config_eq]; exact hitem) (fun herased => herased) haddressable.1
        rw [hchild.config_eq] at hclassify ⊢
        refine answersIff_bind hclassify fun first w hw => ?_
        obtain ⟨inside, hfirst, hfills⟩ := hw
        have hadds := hchild.fills hfills
        have hnext : v.graph.nodes.size = t.graph.nodes.size + 1 := hchild.size_eq
        have hafter := hadds.size_eq
        rw [List.length_cons] at hafter
        have hothers : AnswersIff (∀ leaf ∈ Value.leavesAll rest, w.config.Takes leaf)
            (classifyItems role p id erased (index + 1) rest) w
            (StandAll role p w id (index + 1) rest) :=
          answersIff_classifyItems rest (by omega) (by omega)
            (by rw [hadds.config_eq]; exact hrest) (by rw [hadds.config_eq]; exact herased)
            haddressable.2
        rw [hadds.config_eq] at hothers
        refine answersIff_before hothers fun others z hz => ?_
        obtain ⟨new, hunpacks, hnew⟩ := hz
        rw [hchild.config_eq, hnext] at hfirst
        rw [hadds.config_eq, hafter, Nat.add_comm inside.length, ← Nat.add_assoc] at hunpacks
        refine answersIff_pure ⟨_, .item (by simpa using hnone) hfirst hunpacks, ?_⟩
        exact hadds.trans hnew

end

/-! ## Supplied containers -/

theorem answersIff_node {n : Node} (h : t.graph.node? id = .ok n) :
    AnswersIff True (node id) t fun found u => n = found ∧ t = u :=
  .inl ⟨trivial, n, t, outcome_node h, rfl, rfl⟩

/-- A supplied example is used as the trace uses values. -/
theorem answersIff_exampleValue (e : Value) (module? : Option Nat) :
    AnswersIff True (exampleValue id (some e) module?) t fun value u =>
      value = prepared t.config.placeholderPropagation e ∧ t = u :=
  .inl ⟨trivial, _, t, rfl, rfl, rfl⟩

/-- A container is one also where the trace uses placeholders. -/
theorem isSequence_prepared (placeholders : Bool) (e : Value) :
    Rule.isSequence (prepared placeholders e) = Rule.isSequence e := by
  cases placeholders <;> cases e <;> rfl

/-- Classifying a node whose example is supplied and a container. -/
theorem answersIff_create {n : Node} {e : Value} (module? : Option Nat)
    (hdynamic : t.config.dynamicPropagation = true) (hnode : t.graph.nodes[id.index]? = some n)
    (hexample : n.example? = none) (hsequence : Rule.isSequence e = true)
    (haddressable : e.Addressable) :
    AnswersIff (∀ leaf ∈ e.leaves, t.config.Takes leaf) (create id (some e) module? role p) t
      (Stands role p t id (prepared t.config.placeholderPropagation e)) := by
  refine answersIff_after (answersIff_addGuards t p.guards) fun _ u hu => ?_
  have hnodes : u.graph.nodes = t.graph.nodes := Array.toList_inj.mp (by simpa using hu.nodes_eq)
  have hfound : u.graph.node? id = .ok n := by simp [Graph.node?, hnodes, hnode]
  refine answersIff_after (answersIff_node hfound) fun found v hv => ?_
  obtain ⟨rfl, rfl⟩ := hv
  simp only [hexample, Option.isSome_none, Bool.false_eq_true, if_false]
  refine answersIff_after (answersIff_config u) fun config v hv => ?_
  obtain ⟨rfl, rfl⟩ := hv
  simp only [hu.config_eq, hdynamic, if_true]
  refine answersIff_after (answersIff_exampleValue e module?) fun value v hv => ?_
  obtain ⟨rfl, rfl⟩ := hv
  refine answersIff_after (answersIff_node hfound) fun found v hv => ?_
  obtain ⟨rfl, rfl⟩ := hv
  -- the supplied value is no tensor, and neither is the value that is used
  have hprepared := isSequence_prepared u.config.placeholderPropagation e
  have hgiven : e.toTensor? = none := by
    cases e <;> simp_all [Rule.isSequence, Value.toTensor?]
  generalize hvalue : prepared u.config.placeholderPropagation e = value at hprepared
  rw [hsequence] at hprepared
  have hused : value.toTensor? = none ∧ value.isNone = false := by
    cases value <;> simp_all [Rule.isSequence, Value.toTensor?, Value.isNone]
  have hsettled : prepared u.config.placeholderPropagation value = value := by
    rw [← hvalue]
    exact prepared_prepared (fun h => h) e
  have hpositions : value.Addressable := by
    rw [← hvalue]
    cases u.config.placeholderPropagation with
    | false => exact haddressable
    | true => exact Value.addressable_erase e haddressable
  have hclassify : AnswersIff (∀ leaf ∈ value.leaves, u.config.Takes leaf)
      (classify role p id n.target value.toTensor? false value) u (Stands role p u id value) :=
    answersIff_classify role p value (fun hother => by rw [hprepared] at hother; cases hother)
      (lacks_after hu ⟨n, hnode, hexample⟩) hused.2 hsettled
      (fun herased => absurd herased Bool.false_ne_true) hpositions
  rw [hused.1] at hclassify
  have hleaves := u.config.takes_leaves_prepared u.config.placeholderPropagation e
  rw [hvalue, hu.config_eq] at hleaves
  rw [hu.config_eq] at hclassify hvalue
  rw [Option.bind_some, hgiven, hvalue]
  exact answersIff_imp (answersIff_congr hclassify hleaves) fun _ _ hstands =>
    hstands.after role p hu

end Capture

/-- A container that is supplied as an example is classified if and only if classification knows
what to make of each leaf. The variable then has the shape of the value that the trace uses, the
node has this value as its example, and the nodes for what the value holds come behind those that
were there, each with what it stands for as its example. -/
theorem create_unpacks {t : Trace} {id : NodeId} {n : Node} {e : Value} (module? : Option Nat)
    (role : TensorRole) (p : Provenance) (hdynamic : t.config.dynamicPropagation = true)
    (hnode : t.graph.nodes[id.index]? = some n) (hexample : n.example? = none)
    (hsequence : Rule.isSequence e = true) (haddressable : e.Addressable) :
    ((∃ v, ((create id (some e) module? role p).outcome t).1 = .ok v) ↔
      ∀ leaf ∈ e.leaves, t.config.Takes leaf) ∧
    ∀ v u, (create id (some e) module? role p).outcome t = (.ok v, u) →
      ∃ new,
        Unpacks t.config role p id t.graph.nodes.size
          (prepared t.config.placeholderPropagation e) v new ∧
        u.graph.nodes.toList =
          t.graph.nodesWith id (prepared t.config.placeholderPropagation e) ++ new := by
  rcases answersIff_create role p module? hdynamic hnode hexample hsequence haddressable with
    ⟨htakes, v, u, hout, hstands⟩ | ⟨htakes, fault, u, hout⟩
  · refine ⟨⟨fun _ => htakes, fun _ => ⟨v, by rw [hout]⟩⟩, fun v' u' hout' => ?_⟩
    obtain ⟨new, hunpacks, hfills⟩ := hstands
    rw [hout] at hout'
    cases hout'
    exact ⟨new, hunpacks, hfills.nodes_eq⟩
  · refine ⟨⟨fun ⟨v, hv⟩ => ?_, fun h => absurd h htakes⟩, fun v' u' hout' => ?_⟩
    · rw [hout] at hv
      cases hv
    · rw [hout] at hout'
      cases hout'

/-- A list with a tensor, an absent item and a tuple that holds a size. -/
def Value.mixed : Value :=
  .list [.tensor (.ofElements [2] #[1.0, 2.0] .f32), .none, .tuple [.size [2, 3]]]

/-- A list in which a tuple holds a size is taken apart at both levels. -/
theorem create_unpacks_mixed :
    ∃ v u new, (create ⟨0⟩ (some .mixed) none .plain .none).outcome (.ofInput "x") = (.ok v, u) ∧
      Unpacks .standard .plain .none ⟨0⟩ 1 (prepared true .mixed) v new ∧
      u.graph.nodes.toList =
        (Trace.ofInput "x").graph.nodesWith ⟨0⟩ (prepared true .mixed) ++ new := by
  have hpositions : Value.mixed.Addressable := by
    simp [Value.mixed, Value.Addressable, Value.AddressableAll, Word.signedBound]
  have hleaves : ∀ leaf ∈ Value.mixed.leaves, Config.standard.Takes leaf := by
    simp [Value.mixed, Value.leaves, Value.leavesAll, Config.Takes, Config.standard]
  have hnode : (Trace.ofInput "x").graph.nodes[0]? = some ⟨⟨0⟩, .placeholder "x", [], [], none⟩ :=
    rfl
  have hcreated := create_unpacks none .plain .none rfl hnode rfl rfl hpositions
  obtain ⟨hanswers, hshape⟩ := hcreated
  obtain ⟨v, hv⟩ := hanswers.mpr hleaves
  rcases hout : (create ⟨0⟩ (some .mixed) none .plain .none).outcome (.ofInput "x") with ⟨result, u⟩
  rw [hout] at hv
  obtain rfl : result = .ok v := hv
  obtain ⟨new, hunpacks, hnodes⟩ := hshape v u hout
  exact ⟨v, u, new, rfl, hunpacks, hnodes⟩

/-- Where sizes are literals, an extent that is no signed word comes out as another number. -/
theorem exists_extent_wrapped :
    ∃ u, ∃ extent : Int64,
      (create ⟨0⟩ (some (.tuple [.size [Word.signedBound]])) none .plain .none).outcome
        (.ofInput "x") =
          (.ok (.container .tuple [.container .size [.constant (.int extent) .none] none .none]
            none .none), u) ∧
      extent.toInt = -Word.signedBound := by
  refine ⟨_, _, rfl, ?_⟩
  decide

end TensorCapture
