set_option autoImplicit false

/-! # Outcomes of an operation

An operation either answers, reports an error, or stops because an index or a machine word ran
out of range. The last case is not an error that a caller can handle: it ends the run. Keeping
it apart from the reported errors lets a statement speak about the reported ones alone.
-/

namespace TensorCapture

/-- Why an operation gave no answer. -/
inductive Fault (ε : Type) where
  /-- The operation reported `cause`. -/
  | error (cause : ε)
  /-- An index or a machine word left its range, and the run ends. -/
  | abort
  deriving DecidableEq, Repr

/-- What an operation comes to: an answer, or the fault that prevented one. -/
abbrev Outcome (ε α : Type) := Except (Fault ε) α

namespace Outcome

variable {ε α : Type}

/-- Reports an error. -/
def fail (cause : ε) : Outcome ε α := .error (.error cause)

/-- Ends the run. -/
def stop : Outcome ε α := .error .abort

/-- The value that a bounded computation found, or the end of the run where it left its range. -/
def ofBounded : Option α → Outcome ε α
  | some a => .ok a
  | none => stop

@[simp] theorem ofBounded_some (a : α) : (ofBounded (some a) : Outcome ε α) = .ok a := rfl

@[simp] theorem ofBounded_none : (ofBounded none : Outcome ε α) = stop := rfl

theorem ofBounded_eq_ok_iff {o : Option α} {a : α} :
    (ofBounded o : Outcome ε α) = .ok a ↔ o = some a := by
  cases o <;> simp [ofBounded, stop]

end Outcome

end TensorCapture
