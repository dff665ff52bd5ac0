import TensorCapture.Proofs.Placeholder.Erasure

set_option autoImplicit false

/-! # Equal up to elements

Variables, calls, answers and operations are the same here when they are equal after erasing.
Inlined bodies are trees, so for them this goes down the tree: they perform the same operation,
and while they are answered the same, go on as the same body. Calls made meanwhile get the same
body too.
-/

namespace TensorCapture

/-! ## Variables -/

namespace Variable

/-- Equal up to the elements of supplied tensors. -/
def Same (v v' : Variable) : Prop := v.erase = v'.erase

/-- Equal one by one, up to the elements of supplied tensors. -/
def SameAll (vs vs' : List Variable) : Prop := eraseAll vs = eraseAll vs'

/-- The same names, and variables under them that are equal up to the elements of supplied
tensors. -/
def SameNamed (kwargs kwargs' : Named Variable) : Prop := eraseNamed kwargs = eraseNamed kwargs'

theorem same_of_eq {v v' : Variable} (h : v = v') : v.Same v' := congrArg erase h

theorem SameAll.cons {v v' : Variable} {vs vs' : List Variable} (h : v.Same v')
    (hs : SameAll vs vs') : SameAll (v :: vs) (v' :: vs') := by
  unfold SameAll at hs ⊢
  rw [eraseAll, eraseAll, hs]
  exact congrArg (· :: eraseAll vs') h

variable {β : Type}

/-- What erasing does not change, variables that are equal up to elements have in common. -/
theorem SameAll.congr (f : List Variable → β) (hf : ∀ vars, f (eraseAll vars) = f vars)
    {vars vars' : List Variable} (h : SameAll vars vars') : f vars = f vars' :=
  calc f vars
      = f (eraseAll vars) := (hf vars).symm
    _ = f (eraseAll vars') := congrArg f h
    _ = f vars' := hf vars'

/-- The same for named variables. -/
theorem SameNamed.congr (f : Named Variable → β) (hf : ∀ kwargs, f (eraseNamed kwargs) = f kwargs)
    {kwargs kwargs' : Named Variable} (h : SameNamed kwargs kwargs') : f kwargs = f kwargs' :=
  calc f kwargs
      = f (eraseNamed kwargs) := (hf kwargs).symm
    _ = f (eraseNamed kwargs') := congrArg f h
    _ = f kwargs' := hf kwargs'

theorem Same.guards_eq {v v' : Variable} (h : v.Same v') : v.guards = v'.guards :=
  calc v.guards
      = v.erase.guards := v.guards_erase.symm
    _ = v'.erase.guards := congrArg guards h
    _ = v'.guards := v'.guards_erase

/-- Instances of subclasses are the same where the wrapped variables are. -/
theorem Same.override {v v' : Variable} (h : v.Same v') (origin : Source) (hook : String)
    (subclass : RuntimeClass) (p : Provenance) :
    (Variable.override v origin hook subclass p).Same (.override v' origin hook subclass p) :=
  congrArg (Variable.override · origin hook subclass p) h

end Variable

/-! ## Calls of hooks -/

/-- Equal up to the elements of supplied tensors. -/
def FunctionCall.Same (call call' : FunctionCall) : Prop := call.erase = call'.erase

/-- The call of a hook is the same for the same function and arguments. -/
theorem FunctionCall.same_ofHook {function function' : Variable}
    (hfunction : function.Same function') (origin : Source) (hook : String)
    (subclass : RuntimeClass) (p : Provenance)
    {args args' : List Variable} {kwargs kwargs' : Named Variable}
    (hargs : Variable.SameAll args args') (hkwargs : Variable.SameNamed kwargs kwargs') :
    (FunctionCall.ofHook function origin hook subclass p args kwargs).Same
      (.ofHook function' origin hook subclass p args' kwargs') := by
  have htuple : (Variable.tuple args .none).Same (.tuple args' .none) :=
    congrArg (Variable.container .tuple · none .none) hargs
  have hdict : (Variable.dict kwargs .none).Same (.dict kwargs' .none) :=
    congrArg (Variable.dict · .none) hkwargs
  have hall : Variable.SameAll
      (FunctionCall.ofHook function origin hook subclass p args kwargs).args
      (FunctionCall.ofHook function' origin hook subclass p args' kwargs').args :=
    .cons (Variable.same_of_eq rfl) <| .cons hfunction <| .cons (Variable.same_of_eq rfl) <|
      .cons htuple <| .cons hdict rfl
  exact congrArg (FunctionCall.mk _ · []) hall

/-! ## Operations and bodies -/

/-- Equal up to the elements of supplied tensors. -/
def Answer.Same (a a' : Answer) : Prop := a.erase = a'.erase

/-- Equal up to elements. -/
def Operation.Same (operation operation' : Operation) : Prop := operation.erase = operation'.erase

/-- Bodies that do the same, up to elements, for as long as they are answered the same. -/
inductive Body.Same : Body → Body → Prop where
  | finish {result result' : Except CaptureError Variable}
      (h : result.map Variable.erase = result'.map Variable.erase) :
      Same (.finish result) (.finish result')
  | perform {operation operation' : Operation} {nested nested' : FunctionCall → Body}
      {next next' : Except CaptureError Answer → Body} (h : operation.Same operation')
      (hnested : ∀ call call', call.Same call' → Same (nested call) (nested' call'))
      (hnext : ∀ answer answer', answer.map Answer.erase = answer'.map Answer.erase →
        Same (next answer) (next' answer')) :
      Same (.perform operation nested next) (.perform operation' nested' next')

/-- Inliners that give the same body for the same call. -/
def Inliner.Same (inliner inliner' : Inliner) : Prop :=
  ∀ call call', FunctionCall.Same call call' → (inliner call).Same (inliner' call')

end TensorCapture
