import TensorCapture.Proofs.Placeholder.Agree

set_option autoImplicit false

/-! # Running operations on twins

On twins, an operation runs on placeholders of the same operands, in placeholder mode. It gives
the same value, which holds no elements, or the same error. A lazy layer is called outside
placeholder mode first; its operands hold no elements there either, so nothing of them reaches
its result.
-/

namespace TensorCapture

/-- The same value, which holds no elements. -/
def Value.SameHollow (v v' : Value) : Prop := v' = v ∧ v.Hollow

theorem Value.hollow_ofScalar (number : Scalar) : (Value.ofScalar number).Hollow := by
  cases number <;> rfl

theorem Value.sameHollow_erase {v v' : Value} (h : v.erase = v'.erase) :
    v.erase.SameHollow v'.erase :=
  ⟨h.symm, v.hollow_erase⟩

namespace Capture

/-- The same reply of the library; a value in it holds no elements. -/
def SameReply (r r' : Except LibraryError Value) : Prop := r' = r ∧ ∀ v, r = .ok v → v.Hollow

variable {α : Type}

/-- A result that erasing keeps holds no elements. -/
theorem hollow_of_map_erase {result : Kernel Value} (h : result.map Value.erase = result)
    {v : Value} (hv : result = .ok v) : v.Hollow := by
  rw [hv] at h
  exact Except.ok.inj h

/-! ## Kernels and modules -/

theorem agree_inPlaceholderMode {E : α → α → Prop} {act act' : Capture α}
    (h : Agree E act act') : Agree E (inPlaceholderMode act) (inPlaceholderMode act') := by
  intro t t' ht
  have hentered : ({ t.workshop with library := t.workshop.library.enter } : Workshop).Twin
      { t'.workshop with library := t'.workshop.library.enter } :=
    ⟨congrArg Library.enter ht.workshop.library_eq, ht.workshop.modules⟩
  obtain ⟨halike, htwin⟩ := h _ _ (ht.withWorkshop hentered)
  refine ⟨halike, htwin.withWorkshop ⟨?_, htwin.workshop.modules⟩⟩
  exact congrArg Library.leave htwin.workshop.library_eq

/-- What a kernel gives in placeholder mode holds no elements, so twins get the same. -/
theorem agree_runKernel {act : Library → Kernel Value × Library}
    (hact : ∀ (g : Generator) (depth : Nat),
      (act ⟨g, depth + 1⟩).1.map Value.erase = (act ⟨g, depth + 1⟩).1) :
    Agree SameReply (inMode true (runKernel act)) (inMode true (runKernel act)) := by
  intro t t' ht
  have hhollow := hact t.workshop.library.generator t.workshop.library.placeholderDepth
  show Alike SameReply ((inPlaceholderMode (runKernel act)).outcome t).1
      ((inPlaceholderMode (runKernel act)).outcome t').1 ∧
    ((inPlaceholderMode (runKernel act)).outcome t).2.Twin
      ((inPlaceholderMode (runKernel act)).outcome t').2
  unfold inPlaceholderMode runKernel
  simp only [outcome_ofFunction]
  -- the libraries are equal, so this is one and the same outcome
  rw [ht.workshop.library_eq]
  change (act t.workshop.library.enter).1.map Value.erase = (act t.workshop.library.enter).1
    at hhollow
  generalize act t.workshop.library.enter = outcome at hhollow ⊢
  obtain ⟨result, library⟩ := outcome
  have htwin : ({ t with workshop := { t.workshop with library := library.leave } } : Trace).Twin
      { t' with workshop := { t'.workshop with library := library.leave } } :=
    ht.withWorkshop ⟨rfl, ht.workshop.modules⟩
  rcases result with (cause | _) | v
  · exact ⟨.ok ⟨rfl, fun v hv => nomatch hv⟩, htwin⟩
  · exact ⟨.error .abort, htwin⟩
  · refine ⟨.ok ⟨rfl, fun v hv => ?_⟩, htwin⟩
    cases hv
    exact hollow_of_map_erase hhollow rfl

theorem agree_runModule {m m' : Module} (hm : m.Twin m')
    (keep : Module → Workshop → Workshop)
    (hkeep : ∀ {m m' : Module} {w w' : Workshop}, m.Twin m' → w.Twin w' →
      (keep m w).Twin (keep m' w'))
    {args : List Value} (hargs : Value.eraseAll args = args) (kwargs : Named Value) :
    Agree SameReply (runModule m keep args kwargs) (runModule m' keep args kwargs) := by
  intro t t' ht
  have hforward := hm.forward hargs kwargs ht.workshop
  unfold runModule
  simp only [outcome_ofFunction]
  rcases hout : m.forward args kwargs t.workshop with ⟨result, m₁, w₁⟩
  rcases hout' : m'.forward args kwargs t'.workshop with ⟨result', m₁', w₁'⟩
  rw [hout, hout'] at hforward
  obtain ⟨hresult, hhollow, hm₁, hw₁⟩ := hforward
  dsimp only at hresult hhollow
  subst hresult
  have htwin := ht.withWorkshop (hkeep hm₁ hw₁)
  rcases result' with (cause | _) | v
  · exact ⟨.ok ⟨rfl, fun v hv => nomatch hv⟩, htwin⟩
  · exact ⟨.error .abort, htwin⟩
  · refine ⟨.ok ⟨rfl, fun v hv => ?_⟩, htwin⟩
    cases hv
    exact hollow_of_map_erase hhollow rfl

section Module

variable {m m' : Module} {args : List Value}

theorem agree_runItself (handle : Nat) (hm : m.Twin m') (hargs : Value.eraseAll args = args)
    (kwargs : Named Value) :
    Agree SameReply (runItself handle m args kwargs) (runItself handle m' args kwargs) :=
  agree_runModule hm (storeIn handle) (fun hm hw => hw.storeIn hm handle) hargs kwargs

theorem agree_runCopy (hm : m.Twin m') (hargs : Value.eraseAll args = args)
    (kwargs : Named Value) :
    Agree SameReply (runCopy m args kwargs) (runCopy m' args kwargs) :=
  agree_runModule hm (fun _ w => w) (fun _ hw => hw) hargs kwargs

end Module

theorem agree_moduleFor (path : String) (given : Option Nat) :
    Agree (fun r r' => r'.1 = r.1 ∧ r.2.Twin r'.2) (moduleFor path given)
      (moduleFor path given) := by
  refine agree_bind agree_get fun t t' ht => ?_
  rw [ht.module?_eq]
  cases given.or (t.graph.module? path) with
  | none => exact agree_breach _
  | some handle =>
      dsimp only
      obtain ⟨hnone, hnone'⟩ | ⟨m, m', hm, hm', htwin⟩ := ht.workshop.cell handle
      · rw [hnone, hnone']
        exact agree_breach _
      · rw [hm, hm']
        exact agree_pure ⟨rfl, htwin⟩

theorem agree_moduleAt (handle : Nat) {m m' : Module} (hm : m.Twin m') :
    Agree Module.Twin (asks fun t => (t.workshop.modules[handle]?).getD m)
      (asks fun t => (t.workshop.modules[handle]?).getD m') := by
  intro t t' ht
  refine ⟨.ok ?_, ht⟩
  show ((t.workshop.modules[handle]?).getD m).Twin ((t'.workshop.modules[handle]?).getD m')
  obtain ⟨hnone, hnone'⟩ | ⟨found, found', hfound, hfound', htwin⟩ := ht.workshop.cell handle
  · rw [hnone, hnone']
    exact hm
  · rw [hfound, hfound']
    exact htwin

theorem agree_workshop : Agree Workshop.Twin (asks Trace.workshop) (asks Trace.workshop) :=
  fun _ _ ht => ⟨.ok ht.workshop, ht⟩

/-! ## Errors -/

theorem agree_interpretError (target : Target) (args : List Value) (e : LibraryError) :
    Agree Value.SameHollow (interpretError target args true e)
      (interpretError target args true e) := by
  cases e with
  | dataDependentOutput operator =>
      refine agree_bind agree_config fun config config' hconfig => ?_
      rw [hconfig.1]
      refine agree_ite _ ?_ (agree_refuse _)
      split
      · exact agree_pure ⟨rfl, Value.hollow_ofScalar _⟩
      · exact agree_breach _
  | unsupported reason => exact agree_refuse _
  | placeholderUnsupported reason => exact agree_refuse _
  | dynamicOutputShape operator => exact agree_refuse _
  | _ => exact agree_fail _

theorem agree_settle (target : Target) (args : List Value) {r r' : Except LibraryError Value}
    (h : SameReply r r') :
    Agree Value.SameHollow (settle target args true r) (settle target args true r') := by
  obtain ⟨rfl, hhollow⟩ := h
  cases r' with
  | ok v => exact agree_pure ⟨rfl, hhollow v rfl⟩
  | error e => exact agree_interpretError target args e

/-! ## Calls of modules -/

theorem agree_callModule (path : String) (given : Option Nat) {args : List Value}
    (hargs : Value.eraseAll args = args) (kwargs : Named Value) :
    Agree SameReply (callModule path given args kwargs true)
      (callModule path given args kwargs true) := by
  refine agree_bind (agree_moduleFor path given) ?_
  rintro ⟨_, m⟩ ⟨handle, m'⟩ ⟨rfl, hm⟩
  refine agree_bind agree_workshop fun w w' hw => ?_
  dsimp only
  rw [hm.isLazy_eq w w']
  refine agree_ite _ ?_ ?_
  · -- the first call gives the layer its parameters; both runs draw them from the same seed
    have second : Agree SameReply (do
        let m ← asks fun t => (t.workshop.modules[handle]?).getD m
        inMode true (runItself handle m args kwargs)) (do
        let m' ← asks fun t => (t.workshop.modules[handle]?).getD m'
        inMode true (runItself handle m' args kwargs)) :=
      agree_bind (agree_moduleAt handle hm) fun _ _ hm =>
        agree_inPlaceholderMode (agree_runItself handle hm hargs kwargs)
    rw [hm.name_eq]
    refine agree_bind (agree_say _ _ _) fun _ _ _ => ?_
    refine agree_bind (agree_runItself handle hm hargs kwargs) ?_
    rintro _ first ⟨rfl, -⟩
    cases first with
    | error e => exact agree_bind (agree_interpretError _ args e) fun _ _ _ => second
    | ok v => exact second
  · rw [if_pos rfl, if_pos rfl, hm.erase_eq]
    exact agree_inPlaceholderMode (agree_runCopy hm.erase hargs kwargs)

/-! ## Nodes -/

theorem map_prepared_true (args : List Value) : args.map (prepared true) = Value.eraseAll args := by
  rw [Value.eraseAll_eq_map]
  rfl

theorem erased_runMethod (name : String) (args : List Value) (kwargs : Named Value) :
    Agree SameReply
      (inMode true (runMethod name (Value.eraseAll args) (kwargs.mapValues Value.erase)))
      (inMode true (runMethod name (Value.eraseAll args) (kwargs.mapValues Value.erase))) := by
  cases args with
  | nil => exact agree_inPlaceholderMode (agree_pure ⟨rfl, fun v hv => nomatch hv⟩)
  | cons receiver rest =>
      have hact (g : Generator) (depth : Nat) :=
        (Library.callMethod_abstracts g depth name receiver rest kwargs).erased
      have h := @agree_runKernel (fun library =>
        (library.callMethod name receiver.erase (Value.eraseAll rest)
          (kwargs.mapValues Value.erase), library)) hact
      exact h

theorem erased_runFunction (target : Target) (args : List Value) (kwargs : Named Value) :
    Agree SameReply
      (inMode true (runKernel fun library =>
        library.callFunction target (Value.eraseAll args) (kwargs.mapValues Value.erase)))
      (inMode true (runKernel fun library =>
        library.callFunction target (Value.eraseAll args) (kwargs.mapValues Value.erase))) :=
  agree_runKernel fun g depth => (Library.callFunction_abstracts g depth target args kwargs).erased

theorem agree_runNode (id : NodeId) (module? : Option Nat) :
    Agree Value.SameHollow (runNode id module?) (runNode id module?) := by
  refine agree_bind agree_config ?_
  rintro config _ ⟨rfl, hplaceholders⟩
  rw [hplaceholders]
  refine agree_bind (agree_node id) ?_
  rintro node _ ⟨rfl, -⟩
  refine agree_bind agree_get fun t t' ht => ?_
  rw [ht.graph_eq]
  refine agree_bind (agree_ofExcept_self (E := Eq) _ fun _ _ => rfl) ?_
  rintro ⟨args, kwargs⟩ _ rfl
  dsimp only
  rw [map_prepared_true]
  have hargs := Value.eraseAll_eraseAll args
  -- from here the operands are erased, whatever the target makes of them
  split
  · exact agree_bind (agree_breach (E := SameReply) _) fun _ _ h => agree_settle _ _ h
  · exact agree_bind (erased_runFunction _ args kwargs) fun _ _ h => agree_settle _ _ h
  · exact agree_bind (erased_runFunction _ args kwargs) fun _ _ h => agree_settle _ _ h
  · exact agree_bind (erased_runMethod _ args kwargs) fun _ _ h => agree_settle _ _ h
  · exact agree_bind (agree_callModule _ _ hargs _) fun _ _ h => agree_settle _ _ h

theorem agree_keepingGenerator {E : α → α → Prop} {act act' : Capture α} (h : Agree E act act') :
    Agree E (keepingGenerator act) (keepingGenerator act') := by
  intro t t' ht
  obtain ⟨halike, htwin⟩ := h t t' ht
  refine ⟨halike, htwin.withWorkshop ⟨?_, htwin.workshop.modules⟩⟩
  show ({ (act'.outcome t').2.workshop.library with
    generator := t'.workshop.library.generator } : Library) = _
  rw [htwin.workshop.library_eq, ht.workshop.library_eq]
  rfl

/-- Supplied examples that are equal without their elements give the same example value. -/
theorem agree_exampleValue (id : NodeId) {supplied supplied' : Option Value}
    (h : supplied.map Value.erase = supplied'.map Value.erase) (module? : Option Nat) :
    Agree Value.SameHollow (exampleValue id supplied module?)
      (exampleValue id supplied' module?) := by
  refine agree_keepingGenerator ?_
  cases supplied with
  | none =>
      cases supplied' with
      | none => exact agree_runNode id module?
      | some v' => cases h
  | some v =>
      cases supplied' with
      | none => cases h
      | some v' =>
          refine agree_bind agree_config ?_
          rintro config _ ⟨rfl, hplaceholders⟩
          rw [hplaceholders]
          exact agree_pure (Value.sameHollow_erase (Option.some.inj h))

end Capture

end TensorCapture
