import TensorCapture.Capture.Method
import TensorCapture.Proofs.Shadow.Classifying

set_option autoImplicit false

/-! # Methods and attributes in a trace and its shadow

A tensor and its shadow answer the same queries, for they have the same metadata. Every other method
is recorded as the same operation on the same operands, and its result is classified. What the
method takes for counts has to agree.
-/

namespace TensorCapture

namespace Variable

/-! ## Arguments -/

theorem ShadowedBy.isConstant_eq {v v' : Variable} (h : v.ShadowedBy v') :
    v'.isConstant = v.isConstant := by
  unfold isConstant
  rcases both_ok_or_both_error h.toOption_toLiteral with ⟨value, hok, hok'⟩ | ⟨e, e', he, he'⟩
  · rw [hok, hok']
  · rw [he, he']
    rfl

theorem all_isConstant_eq {vs vs' : List Variable} (h : AllShadowedBy vs vs') :
    vs'.all isConstant = vs.all isConstant := by
  induction h with
  | nil => rfl
  | cons hv _ ih => rw [List.all_cons, List.all_cons, hv.isConstant_eq, ih]

theorem ShadowedBy.isContiguousFormat_eq {v v' : Variable} (h : v.ShadowedBy v') :
    v'.isContiguousFormat = v.isContiguousFormat := by
  unfold isContiguousFormat
  rcases both_ok_or_both_error h.toOption_toLiteral with ⟨value, hok, hok'⟩ | ⟨e, e', he, he'⟩
  · rw [hok, hok']
  · rw [he, he']

theorem NamedShadowedBy.get?_rel {kwargs kwargs' : Named Variable}
    (h : NamedShadowedBy kwargs kwargs') (name : String) :
    Option.Rel ShadowedBy (kwargs.get? name) (kwargs'.get? name) := by
  induction kwargs generalizing kwargs' with
  | nil =>
      cases kwargs' with
      | nil => exact .none
      | cons entry rest => cases h.1
  | cons entry rest ih =>
      cases kwargs' with
      | nil => cases h.1
      | cons entry' rest' =>
          obtain ⟨key, v⟩ := entry
          obtain ⟨key', v'⟩ := entry'
          have hkey : key' = key := (List.cons.inj h.1).1
          have hnames : rest'.map Prod.fst = rest.map Prod.fst := (List.cons.inj h.1).2
          obtain _ | ⟨hv, hrest⟩ := h.2
          unfold Named.get?
          rw [List.lookup_cons, List.lookup_cons, hkey]
          cases name == key with
          | true => exact .some hv
          | false => exact ih ⟨hnames, hrest⟩

theorem isEmpty_remove_eq {kwargs kwargs' : Named Variable}
    (h : kwargs'.map Prod.fst = kwargs.map Prod.fst) (name : String) :
    (kwargs'.remove name).isEmpty = (kwargs.remove name).isEmpty := by
  have hnames (kwargs : Named Variable) : (kwargs.remove name).isEmpty =
      ((kwargs.map Prod.fst).filter (· ≠ name)).isEmpty := by
    rw [List.filter_map, List.isEmpty_map]
    rfl
  rw [hnames, hnames, h]

theorem NamedShadowedBy.isEmpty_unansweredKeywords_eq {kwargs kwargs' : Named Variable}
    (h : NamedShadowedBy kwargs kwargs') (name : String) :
    (unansweredKeywords name kwargs').isEmpty = (unansweredKeywords name kwargs).isEmpty := by
  have hisEmpty : kwargs'.isEmpty = kwargs.isEmpty := by
    have hempty := congrArg List.isEmpty h.1
    rwa [List.isEmpty_map, List.isEmpty_map] at hempty
  by_cases hname : name = "is_contiguous"
  · subst hname
    have hformat := h.get?_rel "memory_format"
    have hremove := isEmpty_remove_eq h.1 "memory_format"
    unfold unansweredKeywords
    generalize kwargs.get? "memory_format" = format at hformat ⊢
    generalize kwargs'.get? "memory_format" = format' at hformat ⊢
    cases hformat with
    | none => exact hisEmpty
    | @some format format' hformat =>
        simp only
        rw [hformat.isContiguousFormat_eq]
        by_cases hcontiguous : format.isContiguousFormat = true
        · rw [if_pos hcontiguous, if_pos hcontiguous, hremove]
        · rw [if_neg hcontiguous, if_neg hcontiguous, hisEmpty]
  · rw [unansweredKeywords_of_ne hname, unansweredKeywords_of_ne hname, hisEmpty]

end Variable

namespace SymbolicTensor

variable {x x' : SymbolicTensor}

theorem ShadowedBy.layout?_eq (h : x.ShadowedBy x') : x'.layout? = x.layout? := by
  unfold layout?
  rw [h.metadata_eq]

theorem ShadowedBy.size?_eq (h : x.ShadowedBy x') : x'.size? = x.size? := by
  unfold size?
  rw [h.layout?_eq]

theorem ShadowedBy.runtimeClass_eq (h : x.ShadowedBy x') : x'.runtimeClass = x.runtimeClass := by
  have hmetadata := h.metadata_eq
  obtain ⟨node, metadata, parameter, role, p⟩ := x
  obtain ⟨node', metadata', parameter', role', p'⟩ := x'
  dsimp only at hmetadata
  subst hmetadata
  cases h.role <;> rfl

theorem ShadowedBy.propagated_eq (h : x.ShadowedBy x') : x'.propagated = x.propagated := by
  unfold propagated
  rw [h.provenance_eq]

end SymbolicTensor

namespace Capture

variable {settings : Config} {t t' : Trace} {x x' : SymbolicTensor}
  {args args' : List Variable} {kwargs kwargs' : Named Variable}

theorem append_shadows (hargs : Variable.AllShadowedBy args args')
    (hkwargs : Variable.NamedShadowedBy kwargs kwargs') :
    Variable.AllShadowedBy (args ++ kwargs.values) (args' ++ kwargs'.values) :=
  List.rel_append hargs hkwargs.2

theorem callOperands_eq (hx : x.ShadowedBy x') (hargs : Variable.AllShadowedBy args args')
    (hkwargs : Variable.NamedShadowedBy kwargs kwargs') :
    callOperands x' args' kwargs' = callOperands x args kwargs := by
  unfold callOperands
  rw [Variable.toOperands_eq (.tensor x :: args) (.cons (.tensor hx) hargs),
    Variable.toOperands_eq kwargs.values hkwargs.2, hkwargs.1]

theorem areOneSize_of_two (v w : Variable) (rest : List Variable) :
    areOneSize (v :: w :: rest) = false := by
  cases v <;> rfl

theorem areOneSize_eq (hargs : Variable.AllShadowedBy args args') :
    areOneSize args' = areOneSize args := by
  cases hargs with
  | nil => rfl
  | @cons v v' rest rest' hv hrest =>
      cases hrest with
      | nil => cases hv <;> rfl
      | cons _ _ => rw [areOneSize_of_two, areOneSize_of_two]

theorem recordedName_eq (name : String) (dynamicShapes : Bool)
    (hargs : Variable.AllShadowedBy args args') :
    recordedName name dynamicShapes args' = recordedName name dynamicShapes args := by
  unfold recordedName
  rw [areOneSize_eq hargs]

theorem refusalOf?_eq (settings : Config) (name : String)
    (hargs : Variable.AllShadowedBy args args')
    (hkwargs : Variable.NamedShadowedBy kwargs kwargs') :
    refusalOf? { settings with placeholderPropagation := true } name args' kwargs' =
      refusalOf? settings name args kwargs := by
  unfold refusalOf?
  rw [Variable.all_isConstant_eq (append_shadows hargs hkwargs)]

/-! ## Recording -/

theorem countsAgree_nil (settings : Config) (t t' : Trace) : CountsAgree settings t t' [] :=
  fun _ _ hid => absurd hid List.not_mem_nil

section Methods

variable (h : t.ShadowedBy settings t') (hx : x.ShadowedBy x') (p : Provenance)

include h hx

theorem shadows_createDerived (id : NodeId)
    (hcounted : ∀ n, t.graph.nodes[id.index]? = some n →
      CountsAgree settings t t' (t.graph.counted n.target n.args)) :
    Shadows settings Variable.ShadowedBy (createDerived x id p) (createDerived x' id p) t t' :=
  have hsupplied : ∀ v ∈ (none : Option Value), v.Plain := by
    intro v hv
    cases hv
  shadows_create h hx.role.derived p id hsupplied none fun _ => hcounted

/-- An operation of which the counts agree, in whichever graph they are looked up. -/
theorem shadows_recorded (target : Target) (operands : List Operand) (named : Named Operand)
    (hcounted : ∀ g : Graph, CountsAgree settings t t' (g.counted target operands)) :
    Shadows settings Variable.ShadowedBy (do
        let id ← record target operands named
        createDerived x id p) (do
        let id ← record target operands named
        createDerived x' id p) t t' := by
  refine meets_bind (meets_record h target operands named) ?_
  rintro _ u id u' ⟨rfl, hu, hn, hagrees⟩
  refine shadows_createDerived hu hx p id fun n hfound => ?_
  obtain rfl := Option.some.inj (hn.symm.trans hfound)
  intro hdynamic operand hoperand
  have hnodes := List.mem_append_left (Operand.nodesOfAll named.values)
    (Graph.mem_nodes_of_mem_counted hoperand)
  exact hagrees operand hnodes (hcounted _ hdynamic operand hoperand)

theorem shadows_recordMethod (name : String) (hargs : Variable.AllShadowedBy args args')
    (hkwargs : Variable.NamedShadowedBy kwargs kwargs')
    (hcounted : ∀ operands named, callOperands x args kwargs = .ok (operands, named) →
      CountsAgree settings t t' (t.graph.counted (.method name) operands)) :
    Shadows settings Variable.ShadowedBy (recordMethod x name args kwargs p)
      (recordMethod x' name args' kwargs' p) t t' := by
  refine meets_bind (meets_config h) ?_
  rintro settings _ _ _ ⟨rfl, rfl, rfl, rfl⟩
  dsimp only
  rw [recordedName_eq name _ hargs, callOperands_eq hx hargs hkwargs]
  refine meets_bind (meets_ofExcept _ _) ?_
  rintro ⟨operands, named⟩ _ _ _ ⟨hoperands, rfl, hoperands', rfl⟩
  obtain rfl := Except.ok.inj (hoperands'.symm.trans hoperands)
  refine shadows_recorded h hx p _ operands named ?_
  intro g hdynamic
  -- the method is recorded under another name only where shapes are static
  have hname : recordedName name settings.dynamicShapes args = name := by
    unfold recordedName
    rw [hdynamic, Bool.not_true, Bool.and_false, Bool.false_and]
    exact if_neg Bool.false_ne_true
  rw [hname]
  -- whether a method takes counts is in its name
  exact hcounted operands named hoperands hdynamic

theorem shadows_recordAssignment (hargs : Variable.AllShadowedBy args args')
    (hkwargs : Variable.NamedShadowedBy kwargs kwargs') :
    Shadows settings Variable.ShadowedBy (recordAssignment x args kwargs p)
      (recordAssignment x' args' kwargs' p) t t' := by
  refine meets_bind (meets_addGuards h p.guards) ?_
  rintro _ t _ t' ⟨h, -, -⟩
  rw [callOperands_eq hx hargs hkwargs]
  refine meets_bind (meets_ofExcept _ _) ?_
  rintro ⟨operands, named⟩ _ _ _ ⟨hoperands, rfl, hoperands', rfl⟩
  obtain rfl := Except.ok.inj (hoperands'.symm.trans hoperands)
  refine meets_bind (meets_record h _ operands named) ?_
  rintro _ u _ u' ⟨-, hu, -⟩
  exact meets_pure ⟨.refl _, hu⟩

theorem shadows_length :
    Shadows settings Variable.ShadowedBy (length x p) (length x' p) t t' := by
  unfold length
  rw [hx.size?_eq, hx.node_eq]
  split
  · exact meets_pure ⟨.refl _, h⟩
  · exact shadows_recorded h hx p _ _ _ fun _ => countsAgree_nil settings t t'

/-! ## Methods -/

theorem shadows_callMethod (name : String) (hargs : Variable.AllShadowedBy args args')
    (hkwargs : Variable.NamedShadowedBy kwargs kwargs')
    (hcounted : ∀ operands named, callOperands x args kwargs = .ok (operands, named) →
      CountsAgree settings t t' (t.graph.counted (.method name) operands)) :
    Shadows settings Variable.ShadowedBy (callMethod x name args kwargs)
      (callMethod x' name args' kwargs') t t' := by
  have hguards : Provenance.propagate (.tensor x' :: args' ++ kwargs'.values) =
      Provenance.propagate (.tensor x :: args ++ kwargs.values) :=
    Variable.propagate_eq (.cons (.tensor hx) (append_shadows hargs hkwargs))
  unfold callMethod
  dsimp only
  rw [hguards, hkwargs.isEmpty_unansweredKeywords_eq name, hx.query?_eq]
  generalize Provenance.propagate (.tensor x :: args ++ kwargs.values) = p
  cases x.query? name p with
  | some answer =>
      cases answer with
      | error fault => exact meets_throw fault _
      | ok answer =>
          refine meets_ite _ ?_ (meets_breach _ _)
          intro v u v' u' hout hout'
          obtain ⟨hv, rfl⟩ := ofExcept_eq_ok hout
          obtain ⟨hv', rfl⟩ := ofExcept_eq_ok hout'
          obtain ⟨found, hfound, hshadow⟩ := Variable.indexed_eq_ok hargs hv
          obtain rfl := Except.ok.inj (hfound.symm.trans hv')
          exact ⟨hshadow, h⟩
  | none =>
      refine meets_bind (meets_config h) ?_
      rintro settings _ _ _ ⟨rfl, rfl, rfl, rfl⟩
      rw [refusalOf?_eq settings name hargs hkwargs]
      cases refusalOf? settings name args kwargs with
      | some reason => exact meets_refuse reason _
      | none =>
          dsimp only
          split
          · rw [hx.node_eq]
            exact shadows_recorded h hx p _ _ _ fun _ => countsAgree_nil _ _ _
          · exact shadows_length h hx p
          · exact shadows_recordAssignment h hx p hargs hkwargs
          · exact shadows_recordMethod h hx p _ hargs hkwargs hcounted

/-! ## Attributes -/

omit h hx in
/-- A method without arguments takes no counts. -/
theorem countsAgree_alone (name : String) {operands : List Operand} {named : Named Operand}
    (hoperands : callOperands x [] [] = .ok (operands, named)) :
    CountsAgree settings t t' (t.graph.counted (.method name) operands) := by
  cases hoperands
  show CountsAgree settings t t' (t.graph.counted (.method name) [.node x.node])
  rw [(t.graph.counted_of_receiver rfl x.node 0).1]
  exact countsAgree_nil settings t t'

theorem shadows_ask (name : String) :
    Shadows settings Variable.ShadowedBy (callMethod x name [] []) (callMethod x' name [] [])
      t t' :=
  shadows_callMethod h hx name .nil Variable.namedShadowedBy_nil fun _ _ => countsAgree_alone name

theorem shadows_memberOf (name : String) :
    Shadows settings Variable.ShadowedBy (memberOf x name) (memberOf x' name) t t' := by
  unfold memberOf
  dsimp only
  rw [hx.metadata_eq, hx.layout?_eq, hx.propagated_eq]
  split
  · exact meets_pure ⟨.refl _, h⟩
  · exact shadows_ask h hx "dim"
  · exact meets_pure ⟨.refl _, h⟩
  · exact meets_pure ⟨.refl _, h⟩
  · exact meets_pure ⟨.refl _, h⟩
  · split
    · exact meets_pure ⟨.refl _, h⟩
    · exact shadows_ask h hx "size"
  · exact meets_pure ⟨.refl _, h⟩
  · exact meets_pure ⟨.refl _, h⟩
  · exact meets_pure ⟨.refl _, h⟩
  · exact meets_fail _ _

theorem shadows_readMember (name : String) :
    Shadows settings Variable.ShadowedBy (readMember x name) (readMember x' name) t t' := by
  unfold readMember
  rw [hx.runtimeClass_eq, hx.propagated_eq, hx.provenance_eq]
  refine meets_ite _ (meets_pure ⟨.refl _, h⟩) ?_
  refine meets_bind (shadows_memberOf h hx name) ?_
  rintro v u v' u' ⟨hv, hu⟩
  split
  · exact meets_pure ⟨hv.addGuard _, hu⟩
  · exact meets_pure ⟨hv, hu⟩

/-! ## Unpacking -/

theorem shadows_unpackFrom (index count : Nat) :
    Shadows settings Variable.AllShadowedBy (unpackFrom x index count) (unpackFrom x' index count)
      t t' := by
  induction count generalizing index t t' with
  | zero => exact meets_pure ⟨.nil, h⟩
  | succ count ih =>
      rw [unpackFrom, unpackFrom, hx.node_eq, hx.propagated_eq]
      refine meets_bind (meets_recordItem h x.node index) ?_
      rintro _ t id t' ⟨rfl, h, hn⟩
      have hsupplied : ∀ v ∈ (none : Option Value), v.Plain := by
        intro v hv
        cases hv
      refine meets_bind (shadows_create h (.refl .plain) x.propagated id hsupplied none ?_) ?_
      · intro _ n hfound
        obtain rfl := Option.some.inj (hn.symm.trans hfound)
        rw [(t.graph.counted_of_receiver rfl x.node _).2]
        exact countsAgree_nil settings t t'
      · rintro v u v' u' ⟨hv, hu⟩
        refine meets_bind (ih hu (index + 1)) ?_
        rintro vs w vs' w' ⟨hvs, hw⟩
        exact meets_pure ⟨.cons hv hvs, hw⟩

theorem shadows_unpack :
    Shadows settings Variable.AllShadowedBy (unpack x) (unpack x') t t' := by
  have hrole := hx.role
  unfold unpack
  rw [hx.size?_eq]
  generalize x.role = role at hrole ⊢
  generalize x'.role = role' at hrole ⊢
  cases hrole with
  | refl =>
      split
      · exact meets_fail _ _
      · exact shadows_unpackFrom h hx 0 _
      · exact meets_fail _ _
  | item raw needsUnwrap needsUnwrap' =>
      -- neither of the two is a symbolic number
      rcases x.size? with _ | (_ | ⟨first, rest⟩)
      · exact meets_fail _ _
      · exact meets_fail _ _
      · exact shadows_unpackFrom h hx 0 first

end Methods

end Capture

end TensorCapture
