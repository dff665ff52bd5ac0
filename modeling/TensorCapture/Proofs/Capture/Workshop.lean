import TensorCapture.Proofs.Capture.Keeps

set_option autoImplicit false

/-! # Running operations

Running an operation changes the workshop of a trace and nothing else, and leaves placeholder
mode as deep as it was. The example value of a node is got with the generator kept, so that the
library is afterwards as it was before, whatever the run comes to.
-/

namespace TensorCapture

/-! ## The depth of placeholder mode -/

theorem Library.placeholderDepth_callBuiltin (lib : Library) (b : Builtin) (args : List Value) :
    (lib.callBuiltin b args).2.placeholderDepth = lib.placeholderDepth := by
  unfold callBuiltin
  split
  · rfl
  · split <;> rfl
  · rfl

theorem Library.placeholderDepth_callFunction (lib : Library) (target : Target)
    (args : List Value) (kwargs : Named Value) :
    (lib.callFunction target args kwargs).2.placeholderDepth = lib.placeholderDepth := by
  unfold callFunction
  split
  · split <;> rfl
  · rfl
  · exact lib.placeholderDepth_callBuiltin _ args
  · rfl

theorem Module.placeholderDepth_forward (m : Module) (args : List Value) (kwargs : Named Value)
    (w : Workshop) :
    (m.forward args kwargs w).2.2.library.placeholderDepth = w.library.placeholderDepth := by
  cases m with
  | linear layer => rfl
  | lazyLinear layer =>
      rcases hrun : layer.forward args with ⟨outcome, layer', width⟩
      cases width with
      | none => simp only [forward, hrun]
      | some inputs =>
          simp only [forward, hrun]
          rfl
  | replay r => rfl

/-! ## What the library replies -/

namespace Capture

/-- What a step gets from an operation of the library: a value or a reported error, unless the
run ends. -/
def reply : Kernel Value → Outcome CaptureError (Except LibraryError Value)
  | .ok value => .ok (.ok value)
  | .error (.error cause) => .ok (.error cause)
  | .error .abort => .error .abort

theorem outcome_runKernel (act : Library → Kernel Value × Library) (t : Trace) :
    (runKernel act).outcome t =
      (reply (act t.workshop.library).1,
        { t with workshop := { t.workshop with library := (act t.workshop.library).2 } }) := by
  unfold runKernel
  rw [outcome_ofFunction]
  -- the outcome decides the answer, but the library is kept in every case
  rcases act t.workshop.library with ⟨(_ | _) | _, _⟩ <;> rfl

theorem outcome_runModule (m : Module) (keep : Module → Workshop → Workshop) (args : List Value)
    (kwargs : Named Value) (t : Trace) :
    (runModule m keep args kwargs).outcome t =
      let called := m.forward args kwargs t.workshop
      (reply called.1, { t with workshop := keep called.2.1 called.2.2 }) := by
  unfold runModule
  rw [outcome_ofFunction]
  rcases m.forward args kwargs t.workshop with ⟨(_ | _) | _, _, _⟩ <;> rfl

end Capture

/-! ## Steps that work -/

/-- Nothing but the workshop changes, and placeholder mode is as deep as before. -/
def Trace.Works (t u : Trace) : Prop :=
  ∃ w : Workshop, u = { t with workshop := w } ∧
    w.library.placeholderDepth = t.workshop.library.placeholderDepth

instance : IsPreorder Trace Trace.Works where
  refl t := ⟨t.workshop, rfl, rfl⟩
  trans := by
    rintro t _ _ ⟨w, rfl, hw⟩ ⟨w', rfl, hw'⟩
    exact ⟨w', rfl, hw'.trans hw⟩

namespace Capture

open Trace

theorem works_say (level : Log.Level) (channel : Log.Channel) (text : String) :
    Keeps Works (say level channel text) := fun t =>
  ⟨t.workshop.say level channel text, rfl, rfl⟩

theorem works_runKernel {act : Library → Kernel Value × Library}
    (hact : ∀ lib, (act lib).2.placeholderDepth = lib.placeholderDepth) :
    Keeps Works (runKernel act) := by
  intro t
  rw [outcome_runKernel]
  exact ⟨_, rfl, hact t.workshop.library⟩

theorem works_runModule (m : Module) (keep : Module → Workshop → Workshop)
    (hkeep : ∀ m w, (keep m w).library = w.library) (args : List Value) (kwargs : Named Value) :
    Keeps Works (runModule m keep args kwargs) := by
  intro t
  rw [outcome_runModule]
  refine ⟨_, rfl, ?_⟩
  rw [hkeep]
  exact m.placeholderDepth_forward args kwargs t.workshop

theorem works_runItself (handle : Nat) (m : Module) (args : List Value) (kwargs : Named Value) :
    Keeps Works (runItself handle m args kwargs) :=
  works_runModule m (storeIn handle) (fun _ _ => rfl) args kwargs

theorem works_runCopy (copy : Module) (args : List Value) (kwargs : Named Value) :
    Keeps Works (runCopy copy args kwargs) :=
  works_runModule copy (fun _ w => w) (fun _ _ => rfl) args kwargs

theorem works_runMethod (name : String) (args : List Value) (kwargs : Named Value) :
    Keeps Works (runMethod name args kwargs) := by
  cases args with
  | nil => exact keeps_pure _
  | cons receiver rest => exact works_runKernel fun _ => rfl

/-- Placeholder mode is left as often as it is entered. -/
theorem works_inPlaceholderMode {α : Type} {act : Capture α} (h : Keeps Works act) :
    Keeps Works (inPlaceholderMode act) := by
  intro t
  obtain ⟨w, hw, hdepth⟩ :=
    h { t with workshop := { t.workshop with library := t.workshop.library.enter } }
  unfold inPlaceholderMode
  rw [outcome_ofFunction]
  dsimp only
  rw [hw]
  refine ⟨{ w with library := w.library.leave }, rfl, ?_⟩
  have hentered : w.library.placeholderDepth = t.workshop.library.placeholderDepth + 1 := hdepth
  show w.library.placeholderDepth - 1 = t.workshop.library.placeholderDepth
  omega

theorem works_inMode {α : Type} (placeholders : Bool) {act : Capture α} (h : Keeps Works act) :
    Keeps Works (inMode placeholders act) :=
  keeps_ite _ (works_inPlaceholderMode h) h

theorem works_callModule (path : String) (given : Option Nat) (args : List Value)
    (kwargs : Named Value) (placeholders : Bool) :
    Keeps Works (callModule path given args kwargs placeholders) := by
  refine keeps_bind (keeps_moduleFor path given) fun (handle, m) => ?_
  refine keeps_bind (keeps_asks _) fun w => keeps_ite _ ?_ ?_
  · -- a lazy module: the first call outside placeholder mode, then the call itself
    refine keeps_bind (works_say _ _ _) fun _ => ?_
    refine keeps_bind (works_runItself handle m args kwargs) fun first => ?_
    have second : Keeps Works (do
        let m ← asks fun t => (t.workshop.modules[handle]?).getD m
        inMode placeholders (runItself handle m args kwargs)) :=
      keeps_bind (keeps_asks _) fun m => works_inMode _ (works_runItself handle m args kwargs)
    split
    · exact keeps_bind (keeps_interpretError _ args placeholders _) fun _ => second
    · exact second
  · refine keeps_ite _ ?_ ?_
    · exact works_inMode true (works_runCopy m.erase args kwargs)
    · exact works_runCopy m.deepCopy args kwargs

theorem works_callTarget (target : Target) (module? : Option Nat) (args : List Value)
    (kwargs : Named Value) (placeholders : Bool) :
    Keeps Works (callTarget target module? args kwargs placeholders) := by
  cases target with
  | placeholder name => exact keeps_breach _
  | builtin b =>
      exact works_inMode _ (works_runKernel fun lib => lib.placeholderDepth_callFunction _ _ _)
  | function name =>
      exact works_inMode _ (works_runKernel fun lib => lib.placeholderDepth_callFunction _ _ _)
  | method name => exact works_inMode _ (works_runMethod _ _ _)
  | module path => exact works_callModule _ _ _ _ _

theorem works_runNode (id : NodeId) (module? : Option Nat) : Keeps Works (runNode id module?) :=
  keeps_runNode (fun target => works_callTarget target module?) id

/-- With the generator kept, such a step leaves the library as it was. -/
theorem keepingGenerator_works {α : Type} {act : Capture α} (h : Keeps Works act) (t : Trace) :
    ∃ w : Workshop, ((keepingGenerator act).outcome t).2 = { t with workshop := w } ∧
      w.library = t.workshop.library := by
  obtain ⟨w, hw, hdepth⟩ := h t
  refine ⟨{ w with library := { w.library with generator := t.workshop.library.generator } },
    ?_, ?_⟩
  · unfold keepingGenerator
    rw [outcome_ofFunction]
    rcases hout : act.outcome t with ⟨result, t'⟩
    rw [hout] at hw
    dsimp only at hw ⊢
    rw [hw]
  · -- a library is its generator and the depth of placeholder mode
    show (⟨t.workshop.library.generator, w.library.placeholderDepth⟩ : Library) = _
    rw [hdepth]

/-- Getting an example value changes nothing but the workshop, and not the library in it. -/
theorem exampleValue_works (id : NodeId) (supplied : Option Value) (module? : Option Nat)
    (t : Trace) :
    ∃ w : Workshop, ((exampleValue id supplied module?).outcome t).2 = { t with workshop := w } ∧
      w.library = t.workshop.library := by
  apply keepingGenerator_works
  cases supplied with
  | none => exact works_runNode id module?
  | some value => exact keeps_bind keeps_config fun _ => keeps_pure _

end Capture

end TensorCapture
