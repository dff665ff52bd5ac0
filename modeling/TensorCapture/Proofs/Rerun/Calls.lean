import TensorCapture.Proofs.Rerun.Continues

set_option autoImplicit false

/-! # Calling the target of a node

What calling a target comes to is decided by the prepared operands, by the library, and, where the
target is a module, by the layer under its path. A lazy layer has no parameters before its first
call. If the capture goes on from that call, it came to what the layer's new parameters give.
-/

namespace TensorCapture

/-! ## Targets -/

/-- The layer as a step calls it: without elements where placeholders are used. -/
def Linear.called (placeholders : Bool) (l : Linear) : Linear :=
  if placeholders then l.erase else l

namespace Trace

/-- The library as a step runs it. -/
def running (t : Trace) (placeholders : Bool) : Library :=
  if placeholders then t.library.enter else t.library

/-- The layer under a path, once it has parameters. -/
def layerAt? (t : Trace) (path : String) : Option Linear :=
  (t.graph.module? path).bind fun handle => (t.workshop.modules[handle]?).bind Module.layer?

/-- What calling a target on prepared operands comes to. Placeholders are not called, and neither
are layers that have no parameters. -/
def kernel? (t : Trace) (target : Target) (args : List Value) (kwargs : Named Value)
    (placeholders : Bool) : Option (Kernel Value) :=
  match target with
  | .placeholder _ => none
  | .method name =>
      match args with
      | receiver :: rest => some ((t.running placeholders).callMethod name receiver rest kwargs)
      | [] => some (Kernel.fail (.methodWithoutReceiver name))
  | .module path => (t.layerAt? path).map fun layer => (layer.called placeholders).forward args
  | .builtin b => some ((t.running placeholders).callFunction (.builtin b) args kwargs).1
  | .function name => some ((t.running placeholders).callFunction (.function name) args kwargs).1

theorem kernel_mono {t u : Trace} (hlibrary : u.library = t.library)
    (hlayers : ∀ path layer, t.layerAt? path = some layer → u.layerAt? path = some layer)
    {target : Target} {args : List Value} {kwargs : Named Value} {placeholders : Bool}
    {k : Kernel Value} (h : t.kernel? target args kwargs placeholders = some k) :
    u.kernel? target args kwargs placeholders = some k := by
  have hrunning : u.running placeholders = t.running placeholders := by
    unfold running
    rw [hlibrary]
  cases target with
  | placeholder name => cases h
  | builtin b =>
      rw [kernel?, hrunning]
      exact h
  | function name =>
      rw [kernel?, hrunning]
      exact h
  | method name =>
      cases args with
      | nil => exact h
      | cons receiver rest =>
          rw [kernel?, hrunning]
          exact h
  | module path =>
      obtain ⟨layer, hlayer, rfl⟩ := Option.map_eq_some_iff.mp h
      exact congrArg (Option.map _) (hlayers path layer hlayer)

end Trace

namespace Capture

variable {t t' : Trace} {args : List Value} {kwargs : Named Value} {placeholders : Bool}

/-! ## Calling modules -/

theorem outcome_config (t : Trace) : config.outcome t = (.ok t.config, t) := rfl

theorem answer_inMode_runKernel (act : Library → Kernel Value × Library) (t : Trace) :
    ((inMode placeholders (runKernel act)).outcome t).1 =
      reply (act (t.running placeholders)).1 := by
  cases placeholders with
  | false => exact congrArg Prod.fst (outcome_runKernel act t)
  | true => exact congrArg Prod.fst (outcome_runKernel act _)

/-- A module with parameters runs its layer. -/
theorem forward_of_layer {m : Module} {layer : Linear} (h : m.layer? = some layer)
    (args : List Value) (kwargs : Named Value) (w : Workshop) :
    (m.forward args kwargs w).1 = layer.forward args := by
  cases m with
  | linear l => exact congrArg (fun l => Linear.forward l args) (Option.some.inj h)
  | replay r => cases h
  | lazyLinear l =>
      have hinner : l.inner = some layer := h
      have hforward : l.forward args = (layer.forward args, l, none) := by
        unfold LazyLinear.forward
        rw [hinner]
      simp only [Module.forward, hforward]

theorem isLazy_of_layer {m : Module} {layer : Linear} (h : m.layer? = some layer) (w : Workshop) :
    m.isLazy w = false := by
  cases m with
  | linear l => rfl
  | replay r => cases h
  | lazyLinear l =>
      have hinner : l.inner = some layer := h
      show l.inner.isNone = false
      rw [hinner]
      rfl

theorem layer_erase {m : Module} {layer : Linear} (h : m.layer? = some layer) :
    m.erase.layer? = some layer.erase := by
  cases m with
  | linear l => exact congrArg (fun l => some (Linear.erase l)) (Option.some.inj h)
  | replay r => cases h
  | lazyLinear l => exact congrArg (Option.map Linear.erase) h

theorem layer_deepCopy {m : Module} {layer : Linear} (h : m.layer? = some layer) :
    m.deepCopy.layer? = some layer := by
  cases m with
  | linear l => exact h
  | replay r => cases h
  | lazyLinear l => exact h

theorem moduleFor_of_module {path : String} {given : Option Nat} {handle : Nat} {m : Module}
    (hgiven : given.or (t.graph.module? path) = some handle)
    (hm : t.workshop.modules[handle]? = some m) :
    (moduleFor path given).outcome t = (.ok (handle, m), t) := by
  unfold moduleFor
  rw [outcome_bind_ok (outcome_get t)]
  simp only [hgiven, hm]
  rfl

/-- A copy of a module with parameters is called, and the cells stay as they are. -/
theorem callModule_of_layer {path : String} {handle : Nat} {m : Module} {layer : Linear}
    (hhandle : t.graph.module? path = some handle) (hm : t.workshop.modules[handle]? = some m)
    (hlayer : m.layer? = some layer) :
    ((callModule path none args kwargs placeholders).outcome t).1 =
        reply ((layer.called placeholders).forward args) ∧
      ((callModule path none args kwargs placeholders).outcome t).2.workshop.modules =
        t.workshop.modules := by
  have hgiven : (none : Option Nat).or (t.graph.module? path) = some handle := hhandle
  unfold callModule
  rw [outcome_bind_ok (moduleFor_of_module hgiven hm)]
  dsimp only
  rw [outcome_bind_ok (show (asks Trace.workshop).outcome t = (.ok t.workshop, t) from rfl),
    isLazy_of_layer hlayer, if_neg Bool.false_ne_true]
  cases placeholders with
  | true =>
      rw [if_pos rfl]
      let entered : Trace :=
        { t with workshop := { t.workshop with library := t.workshop.library.enter } }
      have hcopy := outcome_runModule m.erase (fun _ w => w) args kwargs entered
      constructor
      · refine (congrArg Prod.fst hcopy).trans (congrArg reply ?_)
        exact forward_of_layer (layer_erase hlayer) args kwargs entered.workshop
      · refine (congrArg (fun out => out.2.workshop.modules) hcopy).trans ?_
        exact m.erase.modules_forward args kwargs entered.workshop
  | false =>
      rw [if_neg Bool.false_ne_true]
      have hcopy := outcome_runModule m.deepCopy (fun _ w => w) args kwargs t
      constructor
      · refine (congrArg Prod.fst hcopy).trans (congrArg reply ?_)
        exact forward_of_layer (layer_deepCopy hlayer) args kwargs t.workshop
      · refine (congrArg (fun out => out.2.workshop.modules) hcopy).trans ?_
        exact m.deepCopy.modules_forward args kwargs t.workshop

/-- An error becomes a value only where an item is asked for. -/
theorem interpretError_of_not_item (target : Target) (h : target.isMethod "item" = false)
    (args : List Value) (placeholders : Bool) (e : LibraryError) (t : Trace) :
    ∃ fault, (interpretError target args placeholders e).outcome t = (.error fault, t) := by
  unfold interpretError
  split
  · exact ⟨_, rfl⟩
  · exact ⟨_, rfl⟩
  · have hrefused : (t.config.captureScalarOutputs && target.isMethod "item") = false := by
      rw [h, Bool.and_false]
    rw [outcome_bind_ok (outcome_config t), if_neg (by rw [hrefused]; exact Bool.false_ne_true)]
    exact ⟨_, rfl⟩
  · exact ⟨_, rfl⟩
  · exact ⟨_, rfl⟩

/-- The first call of a lazy layer: where it gives a value, the layer has its parameters. -/
theorem forward_of_lazy {l : LazyLinear} (hlazy : l.inner = none) {v : Value}
    (h : (l.forward args).1 = .ok v) :
    ∃ layer, (l.forward args).2.1 = { l with inner := some layer } := by
  unfold LazyLinear.forward at h ⊢
  rw [hlazy] at h ⊢
  dsimp only at h ⊢
  split at h
  · cases h
  · split at h
    · cases h
    · rename_i layer _
      exact ⟨layer, rfl⟩

/-- Calling a module in its cell, in either mode: the answer, and what is in the cell then. -/
theorem runItself_cell (placeholders : Bool) {handle : Nat} {m : Module}
    (hm : t.workshop.modules[handle]? = some m) (args : List Value) (kwargs : Named Value) :
    ∃ w : Workshop,
      ((inMode placeholders (runItself handle m args kwargs)).outcome t).1 =
        reply (m.forward args kwargs w).1 ∧
      ((inMode placeholders
          (runItself handle m args kwargs)).outcome t).2.workshop.modules[handle]? =
        some (m.forward args kwargs w).2.1 := by
  have stored (u : Trace) (hu : u.workshop.modules = t.workshop.modules) :
      ((runItself handle m args kwargs).outcome u).1 = reply (m.forward args kwargs u.workshop).1 ∧
      ((runItself handle m args kwargs).outcome u).2.workshop.modules[handle]? =
        some (m.forward args kwargs u.workshop).2.1 := by
    unfold runItself
    rw [outcome_runModule]
    refine ⟨rfl, ?_⟩
    dsimp only
    rw [Workshop.Twin.getElem?_modules_storeIn, if_pos rfl,
      m.modules_forward args kwargs u.workshop, hu, hm]
    rfl
  cases placeholders with
  | false => exact ⟨_, stored t rfl⟩
  | true =>
      let entered : Trace :=
        { t with workshop := { t.workshop with library := t.workshop.library.enter } }
      exact ⟨_, stored entered rfl⟩

/-- The call of a layer that has got its parameters, in its cell. -/
theorem second_call {handle : Nat} {m m₀ : Module} {layer : Linear}
    (hm : t.workshop.modules[handle]? = some m) (hlayer : m.layer? = some layer)
    {r : Except LibraryError Value}
    (h : (do
      let m ← asks fun t => (t.workshop.modules[handle]?).getD m₀
      inMode placeholders (runItself handle m args kwargs)).outcome t = (.ok r, t')) :
    ∃ m, t'.workshop.modules[handle]? = some m ∧ m.layer? = some layer ∧
      reply (layer.forward args) = .ok r := by
  have hfound : (asks fun t => (t.workshop.modules[handle]?).getD m₀).outcome t = (.ok m, t) := by
    show (Except.ok ((t.workshop.modules[handle]?).getD m₀), t) = _
    rw [hm]
    rfl
  rw [outcome_bind_ok hfound] at h
  obtain ⟨w, hanswer, hcell⟩ := runItself_cell placeholders hm args kwargs
  rw [h] at hanswer hcell
  rw [forward_of_layer hlayer] at hanswer
  exact ⟨_, hcell, (m.becomes_forward args kwargs w).layer_eq hlayer, hanswer.symm⟩

/-- The call of a lazy layer: where the capture can go on from it, the layer has its parameters
afterwards, and the call came to what they give. -/
theorem callModule_of_lazy {path : String} {handle : Nat} {l : LazyLinear}
    (hhandle : t.graph.module? path = some handle)
    (hm : t.workshop.modules[handle]? = some (.lazyLinear l)) (hlazy : l.inner = none)
    {r : Except LibraryError Value}
    (h : (callModule path none args kwargs placeholders).outcome t = (.ok r, t')) :
    ∃ m layer, t'.workshop.modules[handle]? = some m ∧ m.layer? = some layer ∧
      reply (layer.forward args) = .ok r := by
  have hisLazy : (Module.lazyLinear l).isLazy t.workshop = true := by
    show l.inner.isNone = true
    rw [hlazy]
    rfl
  have hgiven : (none : Option Nat).or (t.graph.module? path) = some handle := hhandle
  unfold callModule at h
  rw [outcome_bind_ok (moduleFor_of_module hgiven hm)] at h
  dsimp only at h
  rw [outcome_bind_ok (show (asks Trace.workshop).outcome t = (.ok t.workshop, t) from rfl),
    if_pos hisLazy, outcome_bind_ok (show (say _ _ _).outcome t = (.ok (), _) from rfl)] at h
  obtain ⟨w, hfirst, hcell⟩ := runItself_cell false
    (show ({ t with workshop :=
        t.workshop.say .debug .graph _ } : Trace).workshop.modules[handle]? =
      some (.lazyLinear l) from hm) args kwargs
  change ((runItself handle (.lazyLinear l) args kwargs).outcome _).1 = reply (l.forward args).1
    at hfirst
  -- the first call gives a value, or else the capture does not go on
  cases hforward : (l.forward args).1 with
  | ok v =>
      obtain ⟨layer, hlayer⟩ := forward_of_lazy hlazy hforward
      rw [hforward] at hfirst
      rw [outcome_bind_ok (Prod.ext hfirst rfl)] at h
      have hafter : ((Module.lazyLinear l).forward args kwargs w).2.1.layer? = some layer :=
        congrArg LazyLinear.inner hlayer
      obtain ⟨m, hstored, hsame, hreply⟩ := second_call hcell hafter h
      exact ⟨m, layer, hstored, hsame, hreply⟩
  | error fault =>
      rw [hforward] at hfirst
      cases fault with
      | abort =>
          rw [outcome_bind_error (Prod.ext hfirst rfl)] at h
          cases h
      | error e =>
          rw [outcome_bind_ok (Prod.ext hfirst rfl)] at h
          obtain ⟨fault, hfault⟩ :=
            interpretError_of_not_item (.module path) rfl args placeholders e _
          dsimp only at h
          rw [outcome_bind_error hfault] at h
          cases h

/-! ## Calling targets -/

theorem layer_of_layerAt {path : String} {layer : Linear} (h : t.layerAt? path = some layer) :
    ∃ handle m, t.graph.module? path = some handle ∧ t.workshop.modules[handle]? = some m ∧
      m.layer? = some layer := by
  obtain ⟨handle, hhandle, hcell⟩ := Option.bind_eq_some_iff.mp h
  obtain ⟨m, hm, hlayer⟩ := Option.bind_eq_some_iff.mp hcell
  exact ⟨handle, m, hhandle, hm, hlayer⟩

theorem layerAt_of_layer {path : String} {handle : Nat} {m : Module} {layer : Linear}
    (hhandle : t.graph.module? path = some handle) (hm : t.workshop.modules[handle]? = some m)
    (hlayer : m.layer? = some layer) : t.layerAt? path = some layer := by
  unfold Trace.layerAt?
  rw [hhandle, Option.bind_some, hm, Option.bind_some, hlayer]

theorem answer_callTarget {target : Target} {k : Kernel Value}
    (h : t.kernel? target args kwargs placeholders = some k) :
    ((callTarget target none args kwargs placeholders).outcome t).1 = reply k := by
  cases target with
  | placeholder name => cases h
  | builtin b =>
      rw [← Option.some.inj h]
      exact answer_inMode_runKernel _ t
  | function name =>
      rw [← Option.some.inj h]
      exact answer_inMode_runKernel _ t
  | method name =>
      cases args with
      | nil =>
          rw [← Option.some.inj h]
          cases placeholders <;> rfl
      | cons receiver rest =>
          rw [← Option.some.inj h]
          exact answer_inMode_runKernel
            (fun library => (library.callMethod name receiver rest kwargs, library)) t
  | module path =>
      obtain ⟨layer, hlayerAt, rfl⟩ := Option.map_eq_some_iff.mp h
      obtain ⟨handle, m, hhandle, hm, hlayer⟩ := layer_of_layerAt hlayerAt
      exact (callModule_of_layer hhandle hm hlayer).1

/-- On operands without elements, a layer gives the same with and without elements. -/
theorem forward_called (layer : Linear)
    (hargs : placeholders = true → Value.eraseAll args = args) :
    (layer.called placeholders).forward args = layer.forward args := by
  cases placeholders with
  | false => rfl
  | true =>
      have herased := layer.forward_eraseAll args
      rw [hargs rfl] at herased
      exact herased.symm

/-- A call of a module that the capture can go on from: afterwards there is a layer under the
path, and the call came to what that layer gives. -/
theorem layerAt_of_callModule {path : String} (hlayered : t.Layered)
    (hargs : placeholders = true → Value.eraseAll args = args) {r : Except LibraryError Value}
    (h : (callModule path none args kwargs placeholders).outcome t = (.ok r, t')) :
    ∃ handle m layer, t.graph.module? path = some handle ∧
      t'.workshop.modules[handle]? = some m ∧ m.layer? = some layer ∧
      reply ((layer.called placeholders).forward args) = .ok r := by
  rcases hfor : (moduleFor path none).outcome t with ⟨_ | ⟨handle, m⟩, t₁⟩
  · unfold callModule at h
    rw [outcome_bind_error hfor] at h
    cases h
  · obtain ⟨-, hhandle, hm⟩ := outcome_moduleFor hfor
    rw [Option.none_or] at hhandle
    cases hlayer : m.layer? with
    | some layer =>
        obtain ⟨hanswer, hmodules⟩ := callModule_of_layer hhandle hm hlayer
        rw [h] at hanswer hmodules
        refine ⟨handle, m, layer, hhandle, ?_, hlayer, hanswer.symm⟩
        exact (congrArg (fun cells => cells[handle]?) hmodules).trans hm
    | none =>
        -- a layer without parameters is a lazy one
        cases m with
        | linear l => cases hlayer
        | replay r =>
            have hreplay := hlayered handle _ hm
            cases hreplay
        | lazyLinear l =>
            obtain ⟨m, layer, hstored, hsame, hreply⟩ := callModule_of_lazy hhandle hm hlayer h
            rw [← forward_called layer hargs] at hreply
            exact ⟨handle, m, layer, hhandle, hstored, hsame, hreply⟩

/-- Where the capture can go on from the call of a target, a trace with the same library, paths
and modules can make the same call. -/
theorem kernel_of_callTarget {target : Target} (hlayered : t.Layered)
    (hargs : placeholders = true → Value.eraseAll args = args) {r : Except LibraryError Value}
    (h : (callTarget target none args kwargs placeholders).outcome t = (.ok r, t')) {u : Trace}
    (hlibrary : u.library = t.library) (hpaths : u.graph.module? = t.graph.module?)
    (hmodules : u.workshop.modules = t'.workshop.modules) :
    ∃ k, u.kernel? target args kwargs placeholders = some k ∧ reply k = .ok r := by
  have hrunning : u.running placeholders = t.running placeholders := by
    unfold Trace.running
    rw [hlibrary]
  have same {k : Kernel Value} (ht : t.kernel? target args kwargs placeholders = some k)
      (hu : u.kernel? target args kwargs placeholders = some k) :
      ∃ k, u.kernel? target args kwargs placeholders = some k ∧ reply k = .ok r := by
    have hanswer := answer_callTarget ht
    rw [h] at hanswer
    exact ⟨k, hu, hanswer.symm⟩
  cases target with
  | placeholder name => cases h
  | builtin b => exact same rfl (by rw [Trace.kernel?, hrunning])
  | function name => exact same rfl (by rw [Trace.kernel?, hrunning])
  | method name =>
      cases args with
      | nil => exact same rfl rfl
      | cons receiver rest => exact same rfl (by rw [Trace.kernel?, hrunning])
  | module path =>
      obtain ⟨handle, m, layer, hhandle, hm, hlayer, hreply⟩ :=
        layerAt_of_callModule hlayered hargs h
      rw [← hpaths] at hhandle
      rw [← hmodules] at hm
      exact ⟨_, congrArg (Option.map _) (layerAt_of_layer hhandle hm hlayer), hreply⟩

end Capture

end TensorCapture
