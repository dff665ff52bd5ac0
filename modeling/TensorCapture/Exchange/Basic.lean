import TensorCapture.Fault
import TensorCapture.Json.Reader
import TensorCapture.Stored.Basic

set_option autoImplicit false

/-! # Exchange forms

Exchange forms are documents for other programs. They differ from the stored forms in what is
compared bit by bit: a double is written as the sixteen hexadecimal digits of its bits, and all
doubles that are no number look the same. Numbers may be left out altogether.
-/

namespace TensorCapture.Exchange

/-- How much of a value is written. -/
inductive Detail where
  | full
  /-- Shapes and types, but no numbers. -/
  | shapes
  deriving DecidableEq, Repr

/-- What stands for a number that is left out. -/
def withheld : Json := .text "hidden"

/-! ## Doubles -/

/-- The last hexadecimal digits of a number, as many as given. -/
def hexDigits : Nat → Nat → List Char
  | 0, _ => []
  | count + 1, n => hexDigits count (n / 16) ++ [Nat.digitChar (n % 16)]

/-- The bits of a double. -/
def ofFloat (x : Float) : Json :=
  .text (if x.isNaN then "nan" else String.ofList (hexDigits 16 x.toBits.toNat))

/-- The number that hexadecimal digits denote. -/
def hexNumber? (digits : List Char) : Option Nat :=
  digits.foldlM (fun n c => (Json.hexValue? c).map (n * 16 + ·)) 0

/-- The double in a document: a number, the name of a double that is no number or infinite, or
its bits. -/
def float? : Json → Option Float
  | .text "nan" => some (0.0 / 0.0)
  | .text "inf" => some (1.0 / 0.0)
  | .text "-inf" => some (-1.0 / 0.0)
  | .text digits =>
      if digits.length = 16 then
        (hexNumber? digits.toList).map fun n => Float.ofBits (UInt64.ofNat n)
      else none
  | j => Stored.float? j

/-! ## Parts of a document -/

/-- A part that is neither missing nor null. -/
def given? (name : String) (j : Json) : Option Json :=
  match j.field? name with
  | some .null => none
  | part => part

/-- A part that has to be there. -/
def part? {α : Type} (name : String) (read : Json → Option α) (j : Json) : Option α :=
  (j.field? name).bind read

/-- A part that may be missing. -/
def optional? {α : Type} (name : String) (read : Json → Option α) (j : Json) :
    Option (Option α) :=
  match given? name j with
  | some part => (read part).map some
  | none => some none

/-- A part with a standard value. -/
def partOr? {α : Type} (name : String) (read : Json → Option α) (standard : α) (j : Json) :
    Option α :=
  (optional? name read j).map fun value => value.getD standard

/-- A natural number. -/
def natural? : Json → Option Nat
  | .integer n => if 0 ≤ n then some n.toNat else none
  | _ => none

/-- The items of an array, each read. -/
def list? {α : Type} (read : Json → Option α) : Json → Option (List α)
  | .array items => items.mapM read
  | _ => none

/-- The fields of an object, each read. -/
def fields? {α : Type} (read : Json → Option α) : Json → Option (List (String × α))
  | .object fields => fields.mapM fun (name, value) => (read value).map (name, ·)
  | _ => none

/-! ## Reading what may end the run -/

/-- The fault of a document that describes nothing. -/
structure Malformed where
  deriving DecidableEq, Repr

/-- What reading a document comes to. It ends the run where a described tensor has more
positions than a word counts, or than it has elements. -/
abbrev Reading (α : Type) := Outcome Malformed α

/-- What a reader found that ends no run. -/
def Reading.ofOption {α : Type} : Option α → Reading α
  | some a => .ok a
  | none => Outcome.fail ⟨⟩

/-! ## Lists of numbers -/

/-- A list of natural numbers. -/
def naturals (ns : List Nat) : Json := .array (ns.map Json.natural)

end TensorCapture.Exchange
