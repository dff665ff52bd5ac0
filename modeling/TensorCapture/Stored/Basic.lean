import TensorCapture.Json.Basic
import TensorCapture.Word

set_option autoImplicit false

/-! # Stored forms

Values are stored as documents. A choice among constructors is the name of the constructor, or
an object whose one field has that name and holds the content; a record is an object with a
field for each part, or an array of all parts in order. Readers get the number of levels of
arrays and objects that may still be entered.
-/

namespace TensorCapture.Stored

/-- The number of levels that a document may have. -/
def levelLimit : Nat := 127

/-! ## Leaves -/

/-- The truth value in a document. -/
def bool? : Json → Option Bool
  | .bool value => some value
  | _ => none

/-- The text in a document. -/
def text? : Json → Option String
  | .text value => some value
  | _ => none

/-- The natural number below a bound in a document. -/
def naturalBelow? (bound : Nat) : Json → Option Nat
  | .integer n => if 0 ≤ n ∧ n < bound then some n.toNat else none
  | _ => none

/-- The signed word in a document. -/
def signed? : Json → Option Int64
  | .integer n => Word.ofInt? n
  | _ => none

/-- A whole number as the nearest double. -/
def wholeToFloat (n : Int) : Float :=
  let magnitude := (UInt64.ofNat n.natAbs).toFloat
  if n < 0 then -magnitude else magnitude

/-- The double in a document. -/
def float? : Json → Option Float
  | .integer n => some (wholeToFloat n)
  | .real x => some x
  | _ => none

/-! ## Choices -/

/-- A constructor that has no content. -/
def bare (name : String) : Json := .text name

/-- A constructor with its content. -/
def tagged (name : String) (content : Json) : Json := .object [(name, content)]

/-- The member of a list with this name, in a document that stores the name alone. -/
def choice? {α : Type} (name : α → String) (all : List α) (levels : Nat) : Json → Option α
  | .text tag => all.find? fun a => name a = tag
  | .object [(tag, .null)] => if levels = 0 then none else all.find? fun a => name a = tag
  | _ => none

/-- The name of the constructor and its content, with the levels left for the content. -/
def tagged? (levels : Nat) : Json → Option (String × Json × Nat)
  | .object [(tag, content)] => if levels = 0 then none else some (tag, content, levels - 1)
  | _ => none

/-! ## Records -/

/-- The parts of a record by name, in the order of the names, with the levels left for them. No
part may be given twice; parts with other names are ignored. -/
def parts? (names : List String) (levels : Nat) : Json → Option (List (Option Json) × Nat)
  | .object fields =>
      if levels = 0 ∨ names.any (fun name => 1 < fields.countP (·.1 = name)) then none
      else some (names.map fun name => fields.lookup name, levels - 1)
  | .array items =>
      if levels = 0 ∨ items.length ≠ names.length then none
      else some (items.map some, levels - 1)
  | _ => none

/-- The items of an array, with the levels left for them. -/
def items? (levels : Nat) : Json → Option (List Json × Nat)
  | .array items => if levels = 0 then none else some (items, levels - 1)
  | _ => none

end TensorCapture.Stored
