import TensorCapture.Json.Basic
import TensorCapture.Word

set_option autoImplicit false

/-! # Reading numbers

A number without a point and without an exponent that fits a word is a whole number. Any other
number becomes a double: its digits are collected in one word, which is rounded to a double and
then multiplied or divided by a power of ten. Digits that no longer fit the word count only for
the power before the point, and not at all behind it.
-/

namespace TensorCapture.Json

/-- The value of a decimal digit. -/
def digitValue? (c : Char) : Option Nat :=
  if c.isDigit then some (c.toNat - '0'.toNat) else none

/-- Digits collected so far, and the power of ten they are multiplied by. -/
structure Significand where
  value : Nat
  exponent : Int

/-- The characters after the digits at the front. -/
def dropDigits (cs : List Char) : List Char := cs.dropWhile Char.isDigit

/-- Collects digits before the point. Once a digit no longer fits, it and all later ones only
raise the power. -/
def collectWhole (value : Nat) : List Char → Significand × List Char
  | [] => (⟨value, 0⟩, [])
  | c :: rest =>
      match digitValue? c with
      | none => (⟨value, 0⟩, c :: rest)
      | some d =>
          if value * 10 + d < Word.bound then collectWhole (value * 10 + d) rest
          else
            let after := dropDigits rest
            (⟨value, 1 + (rest.length - after.length : Nat)⟩, after)

/-- Collects digits behind the point. Once a digit no longer fits, it and all later ones are
left out. -/
def collectFraction (s : Significand) : List Char → Significand × List Char
  | [] => (s, [])
  | c :: rest =>
      match digitValue? c with
      | none => (s, c :: rest)
      | some d =>
          if s.value * 10 + d < Word.bound then
            collectFraction ⟨s.value * 10 + d, s.exponent - 1⟩ rest
          else (s, dropDigits rest)

/-- The largest exponent that is counted. -/
def exponentLimit : Nat := 0x7fffffff

/-- Reads the digits of an exponent; `none` where the number exceeds the limit. -/
def collectExponent (value : Nat) : List Char → Option Nat × List Char
  | [] => (some value, [])
  | c :: rest =>
      match digitValue? c with
      | none => (some value, c :: rest)
      | some d =>
          if value * 10 + d ≤ exponentLimit then collectExponent (value * 10 + d) rest
          else (none, dropDigits rest)

/-- A power of ten as the nearest double. -/
def powerOfTen (n : Nat) : Float := Float.ofScientific 1 false n

/-- `f * 10 ^ e`, one rounding a step, or nothing where it is not finite. -/
def scale (f : Float) (e : Int) : Option Float :=
  if h : e < -308 then
    if f == 0 then some f else scale (f / powerOfTen 308) (e + 308)
  else if e < 0 then some (f / powerOfTen e.natAbs)
  else if 308 < e then if f == 0 then some f else none
  else
    let x := f * powerOfTen e.toNat
    if x.isInf then none else some x
termination_by (-e).toNat
decreasing_by omega

/-- The document of a double with a sign. -/
def ofMagnitude (negative : Bool) : Option Float → Json
  | some x => .real (if negative then -x else x)
  | none => .unreadable

/-- The double that the collected digits denote. -/
def Significand.toJson (negative : Bool) (s : Significand) : Json :=
  ofMagnitude negative (scale (UInt64.ofNat s.value).toFloat s.exponent)

/-- The whole number that the digits denote. Negative zero and numbers below the signed words
become doubles. -/
def ofWhole (negative : Bool) (value : Nat) : Json :=
  if negative then
    if value = 0 ∨ Word.signedBound < value then .real (-(UInt64.ofNat value).toFloat)
    else .integer (-value)
  else .integer value

/-- Reads an exponent behind its mark. -/
def readExponent (negative : Bool) (s : Significand) (cs : List Char) :
    Option (Json × List Char) :=
  let (down, cs) := match cs with
    | '+' :: rest => (false, rest)
    | '-' :: rest => (true, rest)
    | _ => (false, cs)
  match cs with
  | c :: _ =>
      if c.isDigit then
        match collectExponent 0 cs with
        | (some e, rest) =>
            let exponent := if down then s.exponent - e else s.exponent + e
            some (Significand.toJson negative ⟨s.value, exponent⟩, rest)
        | (none, rest) =>
            if s.value ≠ 0 ∧ !down then some (.unreadable, rest)
            else some (.real (if negative then -0.0 else 0.0), rest)
      else none
  | [] => none

/-- Reads what may follow the digits before the point. -/
def readSuffix (negative whole : Bool) (s : Significand) (cs : List Char) :
    Option (Json × List Char) :=
  match cs with
  | '.' :: rest =>
      match rest with
      | c :: _ =>
          if c.isDigit then
            let (s, rest) := collectFraction s rest
            match rest with
            | 'e' :: rest => readExponent negative s rest
            | 'E' :: rest => readExponent negative s rest
            | _ => some (s.toJson negative, rest)
          else none
      | [] => none
  | 'e' :: rest => readExponent negative s rest
  | 'E' :: rest => readExponent negative s rest
  | _ => some (if whole then ofWhole negative s.value else s.toJson negative, cs)

/-- Reads a number without its sign. A zero in front stands alone. -/
def readMagnitude (negative : Bool) (cs : List Char) : Option (Json × List Char) :=
  match cs with
  | '0' :: rest =>
      match rest with
      | c :: _ => if c.isDigit then none else readSuffix negative true ⟨0, 0⟩ rest
      | [] => readSuffix negative true ⟨0, 0⟩ []
  | c :: _ =>
      if c.isDigit then
        let (s, rest) := collectWhole 0 cs
        readSuffix negative (s.exponent = 0) s rest
      else none
  | [] => none

/-- Reads a number. -/
def readNumber (cs : List Char) : Option (Json × List Char) :=
  match cs with
  | '-' :: rest => readMagnitude true rest
  | _ => readMagnitude false cs

end TensorCapture.Json
