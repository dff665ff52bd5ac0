import TensorCapture.Library.Arguments

set_option autoImplicit false

/-! # Replaying modules

A replaying module stands in for a module of the traced program. It answers its calls from a
list of replies, repeating the last one, and may draw random numbers at each call. The number
of calls is shared with its copies.
-/

namespace TensorCapture

/-- Which copy of a module a call reached. -/
inductive CopyKind where
  /-- The module itself. -/
  | itself
  | deep
  | placeholder
  deriving DecidableEq, Repr

/-- The name in documents. -/
def CopyKind.tag : CopyKind → String
  | .itself => "original"
  | .deep => "deep"
  | .placeholder => "placeholder"

/-- How long a replaying module counts as lazy. -/
inductive Laziness where
  | never
  /-- Until the first call of it or of a copy, even a failing one. -/
  | once
  | always
  deriving DecidableEq, Repr

/-- A module that answers from a list of replies. -/
structure Replay where
  name : String
  /-- Where the number of calls is counted. -/
  tally : Nat
  copy : CopyKind
  replies : List (List Value → Kernel Value)
  laziness : Laziness
  /-- How many random numbers each call draws. -/
  draws : Nat

/-- The reply to a call after `count` others. -/
def Replay.reply (r : Replay) (count : Nat) (args : List Value) : Kernel Value :=
  match r.replies[min count (r.replies.length - 1)]? with
  | some reply => reply args
  | none => .ok .none

/-- Whether the module is lazy after `count` calls. -/
def Replay.isLazy (r : Replay) (count : Nat) : Bool :=
  match r.laziness with
  | .never => false
  | .once => count = 0
  | .always => true

end TensorCapture
