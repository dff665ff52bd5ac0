import Mathlib.Logic.Function.Iterate
import TensorCapture.Proofs.Capture.Operations

set_option autoImplicit false

/-! # Traces that share a library

No operation changes the library of its trace, or whether calls go to hooks, however it ends and
whatever inlined code does meanwhile. Traces that share a library and nothing else are therefore
isolated: in every order of their operations each one goes through what it goes through alone.
-/

namespace TensorCapture

/-! ## What no operation changes -/

namespace Trace

variable {literals : Option Inliner → Prop} {t u : Trace}

theorem Step.library_eq (h : Step literals t u) : u.library = t.library := by
  cases h with
  | work w h => exact h
  | graph _ => rfl
  | literalize _ _ _ _ => rfl

theorem Step.dispatching_eq (h : Step literals t u) : u.dispatching = t.dispatching := by
  cases h <;> rfl

theorem Reaches.library_eq (h : Reaches literals t u) : u.library = t.library := by
  induction h with
  | refl => rfl
  | tail _ hstep ih => exact hstep.library_eq.trans ih

theorem Reaches.dispatching_eq (h : Reaches literals t u) : u.dispatching = t.dispatching := by
  induction h with
  | refl => rfl
  | tail _ hstep ih => exact hstep.dispatching_eq.trans ih

end Trace

/-! ## Runs -/

/-- What chooses the operations of a run: the next one may depend on the outcomes so far. -/
abbrev Client := List (Outcome CaptureError Answer) → Operation

/-- A trace with the outcomes of the operations performed on it. -/
structure Run where
  trace : Trace
  outcomes : List (Outcome CaptureError Answer)

namespace Run

/-- The run with another state of the library. -/
def withLibrary (r : Run) (library : Library) : Run := ⟨r.trace.withLibrary library, r.outcomes⟩

/-- The run after the next operation of its client. -/
def next (client : Client) (r : Run) : Run :=
  let (outcome, trace) := (Capture.perform (client r.outcomes)).outcome r.trace
  ⟨trace, r.outcomes ++ [outcome]⟩

/-- The run after so many operations with nothing in between. -/
def alone (client : Client) (r : Run) (count : Nat) : Run := (next client)^[count] r

theorem library_next (client : Client) (r : Run) :
    (r.next client).trace.library = r.trace.library :=
  (Capture.reaches_perform (client r.outcomes) r.trace).library_eq

theorem alone_succ (client : Client) (r : Run) (count : Nat) :
    r.alone client (count + 1) = (r.next client).alone client count := rfl

end Run

/-- Runs that share a library, one for each name. -/
structure Shared (ι : Type) where
  library : Library
  runs : ι → Run

namespace Shared

variable {ι : Type}

/-- The run of this name as it finds the library now. -/
def run (s : Shared ι) (i : ι) : Run := (s.runs i).withLibrary s.library

variable [DecidableEq ι]

/-- The next operation of one run. It works with the library that the runs share. -/
def turn (clients : ι → Client) (s : Shared ι) (i : ι) : Shared ι :=
  let r := (s.run i).next (clients i)
  ⟨r.trace.library, Function.update s.runs i r⟩

/-- One operation after the other, in the order of a schedule. -/
def interleave (clients : ι → Client) (s : Shared ι) (schedule : List ι) : Shared ι :=
  schedule.foldl (turn clients) s

variable (clients : ι → Client)

theorem library_turn (s : Shared ι) (i : ι) : (s.turn clients i).library = s.library :=
  Run.library_next (clients i) (s.run i)

theorem run_turn_self (s : Shared ι) (i : ι) :
    (s.turn clients i).run i = (s.run i).next (clients i) := by
  have hruns : (s.turn clients i).runs i = (s.run i).next (clients i) :=
    Function.update_self i _ s.runs
  unfold run at *
  rw [hruns]
  rfl

theorem run_turn_of_ne (s : Shared ι) {i j : ι} (h : j ≠ i) :
    (s.turn clients i).run j = s.run j := by
  have hruns : (s.turn clients i).runs j = s.runs j := Function.update_of_ne h _ s.runs
  unfold run
  rw [hruns, library_turn]

/-- Whatever the schedule, the library is as before and each run is what it is alone. -/
theorem interleave_eq_alone (s : Shared ι) (schedule : List ι) (i : ι) :
    (s.interleave clients schedule).library = s.library ∧
      (s.interleave clients schedule).run i =
        (s.run i).alone (clients i) (schedule.count i) := by
  induction schedule generalizing s with
  | nil => exact ⟨rfl, rfl⟩
  | cons j rest ih =>
      obtain ⟨hlibrary, hrun⟩ := ih (s.turn clients j)
      refine ⟨hlibrary.trans (library_turn clients s j), hrun.trans ?_⟩
      by_cases hij : j = i
      · -- its own turn: the first operation of the run alone
        subst hij
        calc ((s.turn clients j).run j).alone (clients j) (rest.count j)
            = ((s.run j).next (clients j)).alone (clients j) (rest.count j) := by
              rw [run_turn_self]
          _ = (s.run j).alone (clients j) (rest.count j + 1) := (Run.alone_succ _ _ _).symm
          _ = (s.run j).alone (clients j) ((j :: rest).count j) := by rw [List.count_cons_self]
      · -- the turn of another: the run does not notice
        rw [run_turn_of_ne clients s (Ne.symm hij), List.count_cons_of_ne hij]

end Shared

/-- Every operation leaves the library and the way calls are dispatched as they were. Of traces
that share a library, each one gets from its operations, in any order among those of the others,
the outcomes and the final trace that it gets alone. -/
theorem traces_isolated :
    (∀ (operation : Operation) (t : Trace),
      ((Capture.perform operation).outcome t).2.library = t.library ∧
        ((Capture.perform operation).outcome t).2.dispatching = t.dispatching) ∧
      ∀ (ι : Type) [DecidableEq ι] (clients : ι → Client) (s : Shared ι) (schedule : List ι)
        (i : ι),
        (s.interleave clients schedule).library = s.library ∧
          (s.interleave clients schedule).run i =
            (s.run i).alone (clients i) (schedule.count i) := by
  constructor
  · intro operation t
    have h := Capture.reaches_perform operation t
    exact ⟨h.library_eq, h.dispatching_eq⟩
  · intro ι _ clients s schedule i
    exact Shared.interleave_eq_alone clients s schedule i

end TensorCapture
