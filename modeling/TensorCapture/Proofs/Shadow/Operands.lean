import TensorCapture.Proofs.Shadow.Traces

set_option autoImplicit false

/-! # Operands in a trace and its shadow

The operands of a node are resolved to values in a graph and in its shadow. The values in the
shadow are those of the eager trace without elements, but for numbers that the shadow does not
know. Where the nodes in an operand agree, there are no such numbers in it.
-/

namespace TensorCapture

namespace Value

/-! ## Literals -/

mutual

theorem plain_ofLiteral (literal : Literal) : (ofLiteral literal).Plain := by
  cases literal with
  | tuple items => exact plain_tuple (plain_ofLiterals items)
  | _ =>
      intro t ht
      cases ht

theorem plain_ofLiterals (literals : List Literal) : ∀ v ∈ ofLiterals literals, v.Plain := by
  cases literals with
  | nil => exact nofun
  | cons literal rest =>
      intro v hv
      rcases List.mem_cons.mp hv with rfl | hv
      · exact plain_ofLiteral literal
      · exact plain_ofLiterals rest v hv

end

mutual

theorem erase_ofLiteral (literal : Literal) : (ofLiteral literal).erase = ofLiteral literal := by
  cases literal with
  | tuple items => exact congrArg Value.tuple (eraseAll_ofLiterals items)
  | _ => rfl

theorem eraseAll_ofLiterals (literals : List Literal) :
    eraseAll (ofLiterals literals) = ofLiterals literals := by
  cases literals with
  | nil => rfl
  | cons literal rest =>
      rw [ofLiterals, eraseAll, erase_ofLiteral literal, eraseAll_ofLiterals rest]

end

end Value

namespace Graph

variable {dynamicShapes : Bool} {g g' : Graph}

/-! ## Resolving -/

theorem exampleOf_of_resolve {id : NodeId} {v : Value} (h : g.resolve (.node id) = .ok v) :
    g.exampleOf id = .ok (some v) := by
  unfold resolve at h
  split at h
  · cases h
  · cases h
  · rename_i found hfound
    cases h
    exact hfound

theorem resolveAll_cons {operand : Operand} {rest : List Operand} {values : List Value}
    (h : g.resolveAll (operand :: rest) = .ok values) :
    ∃ v vs, g.resolve operand = .ok v ∧ g.resolveAll rest = .ok vs ∧ values = v :: vs := by
  unfold resolveAll at h
  split at h
  · cases h
  · rename_i v hv
    obtain ⟨vs, hvs, rfl⟩ := Except.exists_of_map_eq_ok h
    exact ⟨v, vs, hv, hvs, rfl⟩

theorem resolveNamed_cons {name : String} {operand : Operand} {rest : Named Operand}
    {values : Named Value} (h : g.resolveNamed ((name, operand) :: rest) = .ok values) :
    ∃ v vs, g.resolve operand = .ok v ∧ g.resolveNamed rest = .ok vs ∧
      values = (name, v) :: vs := by
  unfold resolveNamed at h
  split at h
  · cases h
  · rename_i v hv
    obtain ⟨vs, hvs, rfl⟩ := Except.exists_of_map_eq_ok h
    exact ⟨v, vs, hv, hvs, rfl⟩

theorem resolveOperands_eq_ok {n : Node} {args : List Value} {kwargs : Named Value}
    (h : g.resolveOperands n = .ok (args, kwargs)) :
    g.resolveAll n.args = .ok args ∧ g.resolveNamed n.kwargs = .ok kwargs := by
  unfold resolveOperands at h
  cases hargs : g.resolveAll n.args with
  | error e =>
      rw [hargs] at h
      cases h
  | ok vs =>
      cases hkwargs : g.resolveNamed n.kwargs with
      | error e =>
          rw [hargs, hkwargs] at h
          cases h
      | ok named =>
          rw [hargs, hkwargs] at h
          cases h
          exact ⟨rfl, rfl⟩

/-! ## The classes of operands -/

mutual

/-- Examples are plain, so all operands are. -/
theorem ShadowedBy.resolve_plain (h : g.ShadowedBy dynamicShapes g') (operand : Operand)
    {v : Value} (hv : g.resolve operand = .ok v) : v.Plain := by
  cases operand with
  | node id =>
      obtain ⟨v', -, hvalue⟩ := h.exists_example (exampleOf_of_resolve hv)
      exact hvalue.plain
  | literal literal =>
      cases hv
      exact Value.plain_ofLiteral literal
  | tuple items =>
      obtain ⟨values, hvalues, rfl⟩ := Except.exists_of_map_eq_ok hv
      exact Value.plain_tuple (h.resolveAll_plain items hvalues)
  | list items =>
      obtain ⟨values, hvalues, rfl⟩ := Except.exists_of_map_eq_ok hv
      exact Value.plain_list (h.resolveAll_plain items hvalues)

theorem ShadowedBy.resolveAll_plain (h : g.ShadowedBy dynamicShapes g') (operands : List Operand)
    {values : List Value} (hvalues : g.resolveAll operands = .ok values) :
    ∀ v ∈ values, v.Plain := by
  cases operands with
  | nil =>
      cases hvalues
      exact nofun
  | cons operand rest =>
      obtain ⟨v, vs, hv, hvs, rfl⟩ := resolveAll_cons hvalues
      intro u hu
      rcases List.mem_cons.mp hu with rfl | hu
      · exact h.resolve_plain operand hv
      · exact h.resolveAll_plain rest hvs u hu

end

/-! ## Operands in the shadow -/

mutual

/-- Up to unknown numbers, an operand is in the shadow what it is in the eager trace. -/
theorem ShadowedBy.resolve_blursTo (h : g.ShadowedBy dynamicShapes g') (operand : Operand)
    {v v' : Value} (hv : g.resolve operand = .ok v) (hv' : g'.resolve operand = .ok v') :
    v.BlursTo v'.erase := by
  cases operand with
  | node id =>
      obtain ⟨found, hfound, hvalue⟩ := h.exists_example (exampleOf_of_resolve hv)
      obtain rfl : found = v' :=
        Option.some.inj (Except.ok.inj (hfound.symm.trans (exampleOf_of_resolve hv')))
      exact hvalue.erase.blursTo
  | literal literal =>
      cases hv
      cases hv'
      exact Value.blursTo_erase _
  | tuple items =>
      obtain ⟨values, hvalues, rfl⟩ := Except.exists_of_map_eq_ok hv
      obtain ⟨values', hvalues', rfl⟩ := Except.exists_of_map_eq_ok hv'
      exact .tuple (h.resolveAll_blursTo items hvalues hvalues')
  | list items =>
      obtain ⟨values, hvalues, rfl⟩ := Except.exists_of_map_eq_ok hv
      obtain ⟨values', hvalues', rfl⟩ := Except.exists_of_map_eq_ok hv'
      exact .list (h.resolveAll_blursTo items hvalues hvalues')

theorem ShadowedBy.resolveAll_blursTo (h : g.ShadowedBy dynamicShapes g')
    (operands : List Operand) {values values' : List Value}
    (hvalues : g.resolveAll operands = .ok values)
    (hvalues' : g'.resolveAll operands = .ok values') :
    List.Forall₂ Value.BlursTo values (Value.eraseAll values') := by
  cases operands with
  | nil =>
      cases hvalues
      cases hvalues'
      exact .nil
  | cons operand rest =>
      obtain ⟨v, vs, hv, hvs, rfl⟩ := resolveAll_cons hvalues
      obtain ⟨v', vs', hv', hvs', rfl⟩ := resolveAll_cons hvalues'
      exact .cons (h.resolve_blursTo operand hv hv') (h.resolveAll_blursTo rest hvs hvs')

end

theorem ShadowedBy.resolveNamed_blurTo (h : g.ShadowedBy dynamicShapes g')
    {operands : Named Operand} {values values' : Named Value}
    (hvalues : g.resolveNamed operands = .ok values)
    (hvalues' : g'.resolveNamed operands = .ok values') :
    Value.NamedBlurTo values (values'.mapValues Value.erase) := by
  induction operands generalizing values values' with
  | nil =>
      cases hvalues
      cases hvalues'
      exact .nil
  | cons entry rest ih =>
      obtain ⟨name, operand⟩ := entry
      obtain ⟨v, vs, hv, hvs, rfl⟩ := resolveNamed_cons hvalues
      obtain ⟨v', vs', hv', hvs', rfl⟩ := resolveNamed_cons hvalues'
      exact .cons ⟨rfl, h.resolve_blursTo operand hv hv'⟩ (ih hvs hvs')

/-! ## Operands that agree -/

mutual

/-- Where its nodes agree, an operand is in the shadow exactly what it is in the eager trace,
without elements. -/
theorem resolve_agrees (operand : Operand) (h : ∀ id ∈ operand.nodes, g.Agrees g' id)
    {v v' : Value} (hv : g.resolve operand = .ok v) (hv' : g'.resolve operand = .ok v') :
    v'.erase = v.erase := by
  cases operand with
  | node id =>
      have hagreed := h id (List.mem_singleton_self id) v (exampleOf_of_resolve hv)
      obtain rfl : v.erase = v' :=
        Option.some.inj (Except.ok.inj (hagreed.symm.trans (exampleOf_of_resolve hv')))
      exact v.erase_erase
  | literal literal =>
      cases hv
      cases hv'
      rfl
  | tuple items =>
      obtain ⟨values, hvalues, rfl⟩ := Except.exists_of_map_eq_ok hv
      obtain ⟨values', hvalues', rfl⟩ := Except.exists_of_map_eq_ok hv'
      exact congrArg Value.tuple (resolveAll_agrees items h hvalues hvalues')
  | list items =>
      obtain ⟨values, hvalues, rfl⟩ := Except.exists_of_map_eq_ok hv
      obtain ⟨values', hvalues', rfl⟩ := Except.exists_of_map_eq_ok hv'
      exact congrArg Value.list (resolveAll_agrees items h hvalues hvalues')

theorem resolveAll_agrees (operands : List Operand)
    (h : ∀ id ∈ Operand.nodesOfAll operands, g.Agrees g' id) {values values' : List Value}
    (hvalues : g.resolveAll operands = .ok values)
    (hvalues' : g'.resolveAll operands = .ok values') :
    Value.eraseAll values' = Value.eraseAll values := by
  cases operands with
  | nil =>
      cases hvalues
      cases hvalues'
      rfl
  | cons operand rest =>
      obtain ⟨v, vs, hv, hvs, rfl⟩ := resolveAll_cons hvalues
      obtain ⟨v', vs', hv', hvs', rfl⟩ := resolveAll_cons hvalues'
      have hfirst := resolve_agrees operand (fun id hid => h id (List.mem_append_left _ hid)) hv hv'
      have hothers :=
        resolveAll_agrees rest (fun id hid => h id (List.mem_append_right _ hid)) hvs hvs'
      rw [Value.eraseAll, Value.eraseAll, hfirst, hothers]

end

theorem resolveNamed_agrees {operands : Named Operand}
    (h : ∀ id ∈ Operand.nodesOfAll operands.values, g.Agrees g' id) {values values' : Named Value}
    (hvalues : g.resolveNamed operands = .ok values)
    (hvalues' : g'.resolveNamed operands = .ok values') :
    values'.mapValues Value.erase = values.mapValues Value.erase := by
  induction operands generalizing values values' with
  | nil =>
      cases hvalues
      cases hvalues'
      rfl
  | cons entry rest ih =>
      obtain ⟨name, operand⟩ := entry
      obtain ⟨v, vs, hv, hvs, rfl⟩ := resolveNamed_cons hvalues
      obtain ⟨v', vs', hv', hvs', rfl⟩ := resolveNamed_cons hvalues'
      have hfirst := resolve_agrees operand (fun id hid => h id (List.mem_append_left _ hid)) hv hv'
      have hothers := ih (fun id hid => h id (List.mem_append_right _ hid)) hvs hvs'
      show (name, v'.erase) :: vs'.mapValues Value.erase = _
      rw [hfirst, hothers]
      rfl

end Graph

end TensorCapture
