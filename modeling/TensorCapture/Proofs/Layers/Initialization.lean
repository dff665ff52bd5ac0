import TensorCapture.Proofs.Layers.Lazy
import TensorCapture.Proofs.Rerun.Replays

set_option autoImplicit false

/-! # Initialization of lazy layers

A node that calls a lazy layer calls it twice. The first call is outside placeholder mode and gives
the layer its parameters, and the second one gives the node its result. As a call made again comes
to the same and changes nothing more, the node gets what one call would give it, and the layer is
left as one call would leave it.
-/

namespace TensorCapture

/-- The node calls a lazy layer that has no parameters yet. -/
def Trace.CallsLazy (t : Trace) (id : NodeId) (path : String) (given : Option Nat) : Prop :=
  ∃ n handle l, t.graph.node? id = .ok n ∧ n.target = .module path ∧
    given.or (t.graph.module? path) = some handle ∧
    t.workshop.modules[handle]? = some (.lazyLinear l) ∧ l.inner = none

namespace Capture

/-! ## Nodes without the first call -/

/-- Calls a module itself, once. -/
def callOnce (path : String) (given : Option Nat) (args : List Value) (kwargs : Named Value)
    (placeholders : Bool) : Capture (Except LibraryError Value) := do
  let (handle, m) ← moduleFor path given
  inMode placeholders (runItself handle m args kwargs)

/-- Runs a node that calls the module under a path, which is called once. -/
def runOnce (id : NodeId) (path : String) (given : Option Nat) : Capture Value := do
  let placeholders := (← config).placeholderPropagation
  let node ← node id
  let (args, kwargs) ← ofExcept ((← get).graph.resolveOperands node)
  let args := args.map (prepared placeholders)
  let kwargs := kwargs.mapValues (prepared placeholders)
  let result ← callOnce path given args kwargs placeholders
  settle node.target args placeholders result

/-- The example value of a node that calls the module under a path, which is called once. -/
def exampleOnce (id : NodeId) (path : String) (given : Option Nat) : Capture Value :=
  keepingGenerator (runOnce id path given)

/-! ## The two calls -/

variable {t : Trace} {path : String} {given : Option Nat} {handle : Nat} {l : LazyLinear}
  {args : List Value} {kwargs : Named Value} {placeholders : Bool}

/-- A lazy layer does not look at the mode it is called in. -/
theorem outcome_runItself_lazyLinear (placeholders : Bool) (handle : Nat) (l : LazyLinear)
    (args : List Value) (kwargs : Named Value) (t : Trace) :
    ∃ w : Workshop,
      (inMode placeholders (runItself handle (.lazyLinear l) args kwargs)).outcome t =
        (reply (l.forward args).1, { t with workshop := w }) ∧
      w.modules = t.workshop.modules.setIfInBounds handle (.lazyLinear (l.forward args).2.1) := by
  have stored (u : Trace) :
      ∃ w : Workshop, (runItself handle (.lazyLinear l) args kwargs).outcome u =
          (reply (l.forward args).1, { u with workshop := w }) ∧
        w.modules = u.workshop.modules.setIfInBounds handle (.lazyLinear (l.forward args).2.1) := by
    have hcells := (Module.lazyLinear l).modules_forward args kwargs u.workshop
    unfold runItself
    rw [outcome_runModule]
    refine ⟨_, rfl, ?_⟩
    show Array.setIfInBounds _ _ _ = _
    rw [hcells]
    rfl
  cases placeholders with
  | false => exact stored t
  | true =>
      let entered : Trace :=
        { t with workshop := { t.workshop with library := t.workshop.library.enter } }
      obtain ⟨w, hout, hw⟩ := stored entered
      refine ⟨{ w with library := w.library.leave }, ?_, hw⟩
      show (inPlaceholderMode (runItself handle (.lazyLinear l) args kwargs)).outcome t = _
      unfold inPlaceholderMode
      rw [outcome_ofFunction]
      dsimp only
      rw [hout]

/-- The module under the path is called in its cell, and what this comes to is settled. -/
theorem outcome_callOnce_of_lazy (hgiven : given.or (t.graph.module? path) = some handle)
    (hm : t.workshop.modules[handle]? = some (.lazyLinear l)) (args : List Value)
    (kwargs : Named Value) (placeholders : Bool) :
    ∃ w : Workshop,
      (callOnce path given args kwargs placeholders).outcome t =
        (reply (l.forward args).1, { t with workshop := w }) ∧
      w.modules = t.workshop.modules.setIfInBounds handle (.lazyLinear (l.forward args).2.1) := by
  unfold callOnce
  rw [outcome_bind_ok (moduleFor_of_module hgiven hm)]
  exact outcome_runItself_lazyLinear placeholders handle l args kwargs t

/-- The second call, which finds the layer as the first one left it. -/
theorem outcome_second_of_lazy (hm : t.workshop.modules[handle]? = some (.lazyLinear l))
    (m : Module) (args : List Value) (kwargs : Named Value) (placeholders : Bool) :
    ∃ w : Workshop,
      (do
        let m ← asks fun t => (t.workshop.modules[handle]?).getD m
        inMode placeholders (runItself handle m args kwargs) :
          Capture (Except LibraryError Value)).outcome t =
        (reply (l.forward args).1, { t with workshop := w }) ∧
      w.modules = t.workshop.modules.setIfInBounds handle (.lazyLinear (l.forward args).2.1) := by
  have hfound : (asks fun t => (t.workshop.modules[handle]?).getD m).outcome t =
      (.ok (.lazyLinear l), t) := by
    show (Except.ok ((t.workshop.modules[handle]?).getD m), t) = _
    rw [hm]
    rfl
  rw [outcome_bind_ok hfound]
  exact outcome_runItself_lazyLinear placeholders handle l args kwargs t

/-- The call of a lazy layer: what the layer gives, or the error that is made of a reported one. -/
theorem outcome_callModule_of_lazy (hgiven : given.or (t.graph.module? path) = some handle)
    (hm : t.workshop.modules[handle]? = some (.lazyLinear l)) (hlazy : l.inner = none)
    (args : List Value) (kwargs : Named Value) (placeholders : Bool) :
    ∃ (answer : Outcome CaptureError (Except LibraryError Value)) (w : Workshop),
      (callModule path given args kwargs placeholders).outcome t =
        (answer, { t with workshop := w }) ∧
      w.modules = t.workshop.modules.setIfInBounds handle (.lazyLinear (l.forward args).2.1) ∧
      (answer = reply (l.forward args).1 ∨
        ∃ e fault, (l.forward args).1 = .error (.error e) ∧ answer = .error fault ∧
          ((interpretError (.module path) args placeholders e).outcome t).1 = .error fault) := by
  have hisLazy : (Module.lazyLinear l).isLazy t.workshop = true := by
    show l.inner.isNone = true
    rw [hlazy]
    rfl
  let said : Trace :=
    { t with workshop :=
        t.workshop.say .debug .graph s!"initializing lazy module {(Module.lazyLinear l).name}" }
  obtain ⟨w, hfirst, hcells⟩ := outcome_runItself_lazyLinear false handle l args kwargs said
  change (runItself handle (.lazyLinear l) args kwargs).outcome said = _ at hfirst
  change w.modules = t.workshop.modules.setIfInBounds _ _ at hcells
  unfold callModule
  rw [outcome_bind_ok (moduleFor_of_module hgiven hm)]
  dsimp only
  rw [outcome_bind_ok (show (asks Trace.workshop).outcome t = (.ok t.workshop, t) from rfl),
    if_pos hisLazy, outcome_bind_ok (show (say _ _ _).outcome t = (.ok (), said) from rfl)]
  cases hforward : (l.forward args).1 with
  | ok v =>
      -- the second call finds the layer as the first one left it
      obtain ⟨hagain, hkept⟩ := l.forward_again args
      have hstored : w.modules[handle]? = some (.lazyLinear (l.forward args).2.1) := by
        rw [hcells]
        exact Array.getElem?_setIfInBounds_self_of_lt (Array.getElem?_eq_some_iff.mp hm).1
      obtain ⟨w', hsecond, hcells'⟩ := outcome_second_of_lazy
        (show ({ t with workshop := w } : Trace).workshop.modules[handle]? = _ from hstored)
        (.lazyLinear l) args kwargs placeholders
      rw [hforward] at hfirst hagain
      rw [hagain] at hsecond
      refine ⟨.ok (.ok v), w', ?_, ?_, .inl rfl⟩
      · rw [outcome_bind_ok hfirst]
        exact hsecond
      · calc w'.modules
            = w.modules.setIfInBounds handle (.lazyLinear (l.forward args).2.1) := by
                rw [hcells', hkept]
          _ = t.workshop.modules.setIfInBounds handle (.lazyLinear (l.forward args).2.1) := by
                rw [hcells, Array.setIfInBounds_setIfInBounds]
  | error fault =>
      rw [hforward] at hfirst
      cases fault with
      | abort =>
          refine ⟨.error .abort, w, ?_, hcells, .inl rfl⟩
          rw [outcome_bind_error hfirst]
      | error e =>
          obtain ⟨fault, hfault⟩ :=
            interpretError_of_not_item (.module path) rfl args placeholders e
              { t with workshop := w }
          refine ⟨.error fault, w, ?_, hcells, .inr ⟨e, fault, rfl, rfl, ?_⟩⟩
          · rw [outcome_bind_ok hfirst]
            dsimp only
            rw [outcome_bind_error hfault]
          · have hsame := answer_settle (t := t) (u := { t with workshop := w }) rfl
              (.module path) args placeholders (.error e)
            change ((interpretError _ _ _ _).outcome _).1 = _ at hsame
            rw [hfault] at hsame
            exact hsame.symm

/-- What the capture makes of the two calls is what it makes of one, and the same is in the cells
afterwards. -/
theorem settled_callModule_of_lazy (hgiven : given.or (t.graph.module? path) = some handle)
    (hm : t.workshop.modules[handle]? = some (.lazyLinear l)) (hlazy : l.inner = none)
    (args : List Value) (kwargs : Named Value) (placeholders : Bool) :
    let twice := (callModule path given args kwargs placeholders >>=
      settle (.module path) args placeholders).outcome t
    let once := (callOnce path given args kwargs placeholders >>=
      settle (.module path) args placeholders).outcome t
    twice.1 = once.1 ∧ twice.2.workshop.modules = once.2.workshop.modules := by
  obtain ⟨w, honce, hcells⟩ := outcome_callOnce_of_lazy hgiven hm args kwargs placeholders
  obtain ⟨answer, w', htwice, hcells', hanswer⟩ :=
    outcome_callModule_of_lazy hgiven hm hlazy args kwargs placeholders
  have hsame : w'.modules = w.modules := hcells'.trans hcells.symm
  have settled (r : Except LibraryError Value) (w : Workshop) :=
    outcome_settle (t := t) (u := { t with workshop := w }) rfl (.module path) args placeholders r
  dsimp only
  rw [outcome_bind, outcome_bind, honce, htwice]
  rcases hanswer with rfl | ⟨e, fault, hreported, rfl, hfault⟩
  · cases reply (l.forward args).1 with
    | error fault => exact ⟨rfl, hsame⟩
    | ok r =>
        dsimp only
        rw [settled r w', settled r w]
        exact ⟨rfl, hsame⟩
  · rw [hreported]
    show Except.error fault =
        ((settle (.module path) args placeholders (.error e)).outcome { t with workshop := w }).1 ∧
      w'.modules = ((settle (.module path) args placeholders (.error e)).outcome
        { t with workshop := w }).2.workshop.modules
    rw [settled (.error e) w]
    exact ⟨hfault.symm, hsame⟩

/-- Dropping the first call changes neither what a node gets nor what is in the cells
afterwards. -/
theorem outcome_runNode_of_lazy {id : NodeId} (h : t.CallsLazy id path given) :
    ((runNode id given).outcome t).1 = ((runOnce id path given).outcome t).1 ∧
      ((runNode id given).outcome t).2.workshop.modules =
        ((runOnce id path given).outcome t).2.workshop.modules := by
  obtain ⟨n, handle, l, hnode, htarget, hgiven, hm, hlazy⟩ := h
  unfold runOnce
  rw [runNode_eq, outcome_bind_ok (outcome_config t), outcome_bind_ok (outcome_config t),
    outcome_bind_ok (outcome_node hnode), outcome_bind_ok (outcome_node hnode),
    outcome_bind_ok (outcome_get t), outcome_bind_ok (outcome_get t)]
  cases t.graph.resolveOperands n with
  | error e => exact ⟨rfl, rfl⟩
  | ok operands =>
      obtain ⟨args, kwargs⟩ := operands
      rw [htarget]
      exact settled_callModule_of_lazy hgiven hm hlazy _ _ _

/-- So it is for the example value of the node. -/
theorem outcome_exampleValue_of_lazy {id : NodeId} (h : t.CallsLazy id path given) :
    ((exampleValue id none given).outcome t).1 = ((exampleOnce id path given).outcome t).1 ∧
      ((exampleValue id none given).outcome t).2.workshop.modules =
        ((exampleOnce id path given).outcome t).2.workshop.modules :=
  outcome_runNode_of_lazy h

end Capture

open Capture

/-- A lazy layer waits, and it materializes once, as do its copies and their copies, whatever the
calls on them and their order. So the call that a node makes first changes neither what the node
gets nor what is in the cells afterwards. -/
theorem lazy_layer_materializes_once (name : String) (outputs : Nat) (seed : UInt64)
    (w : Workshop) (calls : List FamilyCall) :
    (Family.ofLazy name outputs seed w).Waits 0 ∧
      (∀ i < ((Family.ofLazy name outputs seed w).run calls).members.length,
        ((Family.ofLazy name outputs seed w).run calls).Materializes name outputs seed i) ∧
      ∀ (t : Trace) (id : NodeId) (path : String) (given : Option Nat), t.CallsLazy id path given →
        ((exampleValue id none given).outcome t).1 = ((exampleOnce id path given).outcome t).1 ∧
          ((exampleValue id none given).outcome t).2.workshop.modules =
            ((exampleOnce id path given).outcome t).2.workshop.modules := by
  refine ⟨Family.waits_ofLazy name outputs seed w, fun i hi => ?_, fun t id path given h => ?_⟩
  · exact Family.materializes_run name outputs seed w calls hi
  · exact outcome_exampleValue_of_lazy h

/-- A trace with an input and a node that calls a lazy layer on it. -/
def Trace.callingLazy : Trace :=
  let (handle, t) := (Trace.start "main" .standard (.ofSeed 0)).addModule
    (.lazyLinear (.unmaterialized "proj" 3 11))
  let t := t.register "proj" handle
  { t with graph := { t.graph with nodes := #[
      ⟨⟨0⟩, .placeholder "x", [], [], some (.tensor (.placeholder [2, 4] .f32))⟩,
      ⟨⟨1⟩, .module "proj", [.node ⟨0⟩], [], none⟩] } }

/-- The layer settles on four inputs, and the node gets a value of one call. -/
theorem lazy_layer_materializes_once_proj :
    (∃ drawn, Linear.seeded "proj" 4 3 11 = .ok drawn ∧
      ((Family.ofLazy "proj" 3 11 (.ofLibrary (.ofSeed 0))).step
        (.forward 0 [.tensor (.placeholder [2, 4] .f32)] [])).Settled 0 4 drawn) ∧
      Trace.callingLazy.CallsLazy ⟨1⟩ "proj" none ∧
      ∃ v, ((exampleValue ⟨1⟩ none none).outcome .callingLazy).1 = .ok v ∧
        ((exampleOnce ⟨1⟩ "proj" none).outcome .callingLazy).1 = .ok v := by
  obtain ⟨hwaits, hmaterializes, hnodes⟩ :=
    lazy_layer_materializes_once "proj" 3 11 (.ofLibrary (.ofSeed 0)) []
  have hcalls : Trace.callingLazy.CallsLazy ⟨1⟩ "proj" none :=
    ⟨_, 0, .unmaterialized "proj" 3 11, rfl, rfl, rfl, rfl, rfl⟩
  refine ⟨?_, hcalls, ?_⟩
  · obtain ⟨drawn, hdrawn, -, hsettled⟩ := (hmaterializes 0 (by decide)).first hwaits
      (.placeholder [2, 4] .f32) 4 [] rfl ⟨by decide, by decide⟩
    exact ⟨drawn, hdrawn, hsettled⟩
  · obtain ⟨v, hv⟩ : ∃ v, ((exampleOnce ⟨1⟩ "proj" none).outcome .callingLazy).1 = .ok v :=
      ⟨_, rfl⟩
    exact ⟨v, (hnodes .callingLazy ⟨1⟩ "proj" none hcalls).1.trans hv, hv⟩

end TensorCapture
