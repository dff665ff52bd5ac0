import TensorCapture.Capture.Execution
import TensorCapture.Proofs.Placeholder.Mirror

set_option autoImplicit false

/-! # Variables without elements

A variable holds elements of a tensor in one place only: a parameter remembers the tensor that
its caller supplied. Erasing a variable forgets these elements. Nothing that a capture reads off
a variable changes by it: not its guards, not the literal or the operand that it stands for, and
not the position that it denotes as an index.
-/

namespace TensorCapture

/-! ## Erasing -/

/-- The symbolic tensor without the elements of the supplied tensor. -/
def SymbolicTensor.erase (t : SymbolicTensor) : SymbolicTensor :=
  { t with parameter := t.parameter.map Tensor.erase }

namespace Variable

mutual

/-- The variable without the elements of supplied tensors. -/
def erase : Variable → Variable
  | tensor value => tensor value.erase
  | container kind items node p => container kind (eraseAll items) node p
  | override wrapped origin hook subclass p => override (erase wrapped) origin hook subclass p
  | member owner name p => member (erase owner) name p
  | dict items p => dict (eraseNamed items) p
  | other => other

/-- Several variables, each erased. -/
def eraseAll : List Variable → List Variable
  | [] => []
  | item :: rest => erase item :: eraseAll rest

/-- Named variables, each erased. -/
def eraseNamed : List (String × Variable) → List (String × Variable)
  | [] => []
  | (name, item) :: rest => (name, erase item) :: eraseNamed rest

end

theorem eraseAll_eq_map (items : List Variable) : eraseAll items = items.map erase := by
  induction items with
  | nil => rfl
  | cons item rest ih => simp [eraseAll, ih]

theorem eraseNamed_eq_mapValues (items : Named Variable) :
    eraseNamed items = items.mapValues erase := by
  induction items with
  | nil => rfl
  | cons entry rest ih =>
      obtain ⟨name, item⟩ := entry
      rw [eraseNamed, ih]
      rfl

theorem values_eraseNamed (kwargs : Named Variable) :
    Named.values (eraseNamed kwargs) = eraseAll kwargs.values := by
  rw [eraseNamed_eq_mapValues, eraseAll_eq_map]
  simp [Named.values, Named.mapValues, Function.comp_def]

theorem names_eraseNamed (kwargs : Named Variable) :
    (eraseNamed kwargs).map Prod.fst = kwargs.map Prod.fst := by
  rw [eraseNamed_eq_mapValues]
  simp [Named.mapValues, Function.comp_def]

theorem eraseAll_append (items others : List Variable) :
    eraseAll (items ++ others) = eraseAll items ++ eraseAll others := by
  simp only [eraseAll_eq_map, List.map_append]

/-! ## What stays -/

@[simp] theorem provenance_erase (v : Variable) : v.erase.provenance = v.provenance := by
  cases v <;> rfl

@[simp] theorem guards_erase (v : Variable) : v.erase.guards = v.guards := by
  rw [guards, provenance_erase, guards]

theorem erase_withProvenance (v : Variable) (p : Provenance) :
    (v.withProvenance p).erase = v.erase.withProvenance p := by
  cases v <;> rfl

theorem erase_addGuards (v : Variable) (guards : GuardSet) :
    (v.addGuards guards).erase = v.erase.addGuards guards := by
  rw [addGuards, erase_withProvenance, addGuards, provenance_erase]

theorem erase_addGuard (v : Variable) (g : Guard) :
    (v.addGuard g).erase = v.erase.addGuard g := by
  rw [addGuard, erase_withProvenance, addGuard, provenance_erase]

mutual

/-- The literal that a variable holds. -/
theorem toLiteral_erase : ∀ v : Variable, v.erase.toLiteral = v.toLiteral
  | container _ items _ _ => by rw [erase, toLiteral, toLiteral, toLiterals_eraseAll items]
  | tensor _ | constant _ _ | object _ _ | override _ _ _ _ _ | member _ _ _ | userClass _ _
  | userFunction _ _ | dict _ _ => rfl

theorem toLiterals_eraseAll : ∀ items : List Variable,
    toLiterals (eraseAll items) = toLiterals items
  | [] => rfl
  | item :: rest => by
      rw [eraseAll, toLiterals, toLiterals, toLiteral_erase item, toLiterals_eraseAll rest]

end

@[simp] theorem isConstant_erase (v : Variable) : v.erase.isConstant = v.isConstant := by
  rw [isConstant, toLiteral_erase, isConstant]

@[simp] theorem isContiguousFormat_erase (v : Variable) :
    v.erase.isContiguousFormat = v.isContiguousFormat := by
  rw [isContiguousFormat, toLiteral_erase, isContiguousFormat]

mutual

/-- The operand that a variable stands for. -/
theorem toOperand_erase : ∀ v : Variable, v.erase.toOperand = v.toOperand
  | container _ items _ _ => by
      rw [erase, toOperand, toOperand, toLiterals_eraseAll items, toOperands_eraseAll items]
  | override wrapped _ _ _ _ => by rw [erase, toOperand, toOperand, toOperand_erase wrapped]
  | tensor _ | constant _ _ | object _ _ | member _ _ _ | userClass _ _ | userFunction _ _
  | dict _ _ => rfl

theorem toOperands_eraseAll : ∀ items : List Variable,
    toOperands (eraseAll items) = toOperands items
  | [] => rfl
  | item :: rest => by
      rw [eraseAll, toOperands, toOperands, toOperand_erase item, toOperands_eraseAll rest]

end

theorem resolveIndex_erase (index : Variable) (length : Nat) :
    resolveIndex index.erase length = resolveIndex index length := by
  rw [resolveIndex, toLiteral_erase, resolveIndex]

end Variable

theorem Provenance.propagate_eraseAll (vars : List Variable) :
    Provenance.propagate (Variable.eraseAll vars) = Provenance.propagate vars := by
  unfold Provenance.propagate
  rw [Variable.eraseAll_eq_map, List.foldl_map]
  simp only [Variable.guards_erase]

/-! ## Items at constant indices -/

namespace Variable

/-- An item of the erased variable is the erased item. -/
theorem itemAt_erase (v index : Variable) :
    v.erase.itemAt index.erase = (v.itemAt index).map erase := by
  cases v with
  | constant value p =>
      cases value with
      | tuple items =>
          show (resolveIndex index.erase items.length >>= _) =
            (resolveIndex index items.length >>= _).map erase
          rw [resolveIndex_erase]
          cases resolveIndex index items.length with
          | error e => rfl
          | ok position =>
              show Except.ok _ = Except.ok _
              rw [guards_erase]
              rfl
      | _ => rfl
  | container kind items node p =>
      show (resolveIndex index.erase (eraseAll items).length >>= _) =
        (resolveIndex index items.length >>= _).map erase
      rw [resolveIndex_erase, eraseAll_eq_map, List.length_map]
      cases resolveIndex index items.length with
      | error e => rfl
      | ok position =>
          -- the item gets the guards of the container, which erasing keeps
          show Except.ok _ = Except.ok _
          rw [guards_erase, erase_addGuards, List.getElem?_map]
          cases items[position]? <;> rfl
  | _ => rfl

theorem itemsAt_erase (v : Variable) (indices : List Variable) :
    v.erase.itemsAt (eraseAll indices) = (v.itemsAt indices).map eraseAll := by
  unfold itemsAt
  induction indices with
  | nil => rfl
  | cons index rest ih =>
      rw [eraseAll, List.mapM_cons, List.mapM_cons, itemAt_erase, ih]
      cases v.itemAt index with
      | error e => rfl
      | ok item => cases rest.mapM v.itemAt <;> rfl

/-- An indexed answer of the erased variable is the erased answer. -/
theorem indexed_erase (v : Variable) (indices : List Variable) (p : Provenance) :
    v.erase.indexed (eraseAll indices) p = (v.indexed indices p).map erase := by
  rcases indices with _ | ⟨index, _ | ⟨second, rest⟩⟩
  · rfl
  · exact itemAt_erase v index
  · show (v.erase.itemsAt (eraseAll (index :: second :: rest))).map _ =
      ((v.itemsAt (index :: second :: rest)).map _).map erase
    rw [itemsAt_erase]
    cases v.itemsAt (index :: second :: rest) <;> rfl

theorem unansweredKeywords_of_ne {name : String} (h : name ≠ "is_contiguous")
    (kwargs : Named Variable) : unansweredKeywords name kwargs = kwargs := by
  unfold unansweredKeywords
  split
  · exact absurd rfl h
  · rfl

/-- The keywords that a query leaves unanswered are the same ones. -/
theorem unansweredKeywords_eraseNamed (name : String) (kwargs : Named Variable) :
    unansweredKeywords name (eraseNamed kwargs) = eraseNamed (unansweredKeywords name kwargs) := by
  by_cases hname : name = "is_contiguous"
  · -- the one query with a keyword of its own, which only a literal answers
    subst hname
    have hremove : (kwargs.mapValues erase).remove "memory_format" =
        (kwargs.remove "memory_format").mapValues erase := by
      simp only [Named.remove, Named.mapValues, List.filter_map]
      rfl
    simp only [unansweredKeywords, eraseNamed_eq_mapValues, Named.get?_mapValues]
    cases kwargs.get? "memory_format" with
    | none => rfl
    | some format =>
        simp only [Option.map_some, isContiguousFormat_erase]
        by_cases hformat : format.isContiguousFormat = true
        · rw [if_pos hformat, if_pos hformat, hremove]
        · rw [if_neg hformat, if_neg hformat]
  · rw [unansweredKeywords_of_ne hname, unansweredKeywords_of_ne hname]

end Variable

/-! ## Operations and answers -/

/-- The call without the elements of supplied tensors. -/
def FunctionCall.erase (call : FunctionCall) : FunctionCall :=
  ⟨call.function.erase, Variable.eraseAll call.args, Variable.eraseNamed call.kwargs⟩

/-- The operation with the elements of all tensors in it forgotten. -/
def Operation.erase : Operation → Operation
  | callMethod self name args kwargs =>
      callMethod self.erase name (Variable.eraseAll args) (Variable.eraseNamed kwargs)
  | readMember self name => readMember self.erase name
  | unpack self => unpack self.erase
  | literalize self => literalize self.erase
  | addInput name source => addInput name source
  | record target args kwargs => record target args kwargs
  | recordItem node index => recordItem node index
  | create node supplied module? role p =>
      create node (supplied.map Value.erase) module? role p
  | inline call => inline call.erase
  | inlineHook function origin hook subclass p args kwargs =>
      inlineHook function.erase origin hook subclass p (Variable.eraseAll args)
        (Variable.eraseNamed kwargs)

/-- The answer without the elements of supplied tensors. -/
def Answer.erase : Answer → Answer
  | value result => value result.erase
  | node id => node id
  | values results => values (Variable.eraseAll results)

end TensorCapture
