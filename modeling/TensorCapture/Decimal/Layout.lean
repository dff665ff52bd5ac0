import TensorCapture.Decimal.Shortest

set_option autoImplicit false

/-! # Laying out the digits of a double

A layout decides what the digits do not: where positional form ends, how an exponent is
marked, which of two equally near decimals is taken, and what stands for the values that are
no numbers.
-/

namespace TensorCapture.Decimal

/-- The decisions of one way to write doubles. -/
structure Layout where
  /-- The least decimal exponent that is written positionally. -/
  positionalFrom : Int
  /-- The largest decimal exponent that is written positionally. -/
  positionalTo : Int
  /-- What stands between the digits and a non-negative exponent. -/
  exponentMark : String
  tie : Tie
  nan : String
  infinity : String
  negativeInfinity : String

/-- The digits of a number as text. -/
def digitText (n : Nat) : List Char := Nat.toDigits 10 n

/-- Digits with the point after the first `point` of them; at least one digit stands on either
side. -/
def positional (digits : List Char) (point : Int) : List Char :=
  if point ≤ 0 then ['0', '.'] ++ List.replicate (-point).toNat '0' ++ digits
  else if digits.length ≤ point.toNat then
    digits ++ List.replicate (point.toNat - digits.length) '0' ++ ['.', '0']
  else digits.take point.toNat ++ ['.'] ++ digits.drop point.toNat

/-- Digits with the point after the first one, where there are more, and an exponent. -/
def scientific (mark : String) (digits : List Char) (exponent : Int) : List Char :=
  let head := match digits with
    | [] => []
    | [d] => [d]
    | d :: rest => d :: '.' :: rest
  let tail := if exponent < 0 then ['e', '-'] ++ digitText exponent.natAbs
    else mark.toList ++ digitText exponent.toNat
  head ++ tail

/-- A finite non-negative magnitude. -/
def Layout.magnitudeText (layout : Layout) (s : Scaled) : List Char :=
  if s.mantissa = 0 then ['0', '.', '0']
  else
    let d := shortest layout.tie s
    let digits := digitText d.digits
    let exponent : Int := d.exponent + digits.length - 1
    if layout.positionalFrom ≤ exponent ∧ exponent ≤ layout.positionalTo then
      positional digits (exponent + 1)
    else scientific layout.exponentMark digits exponent

/-- A double as text. -/
def Layout.render (layout : Layout) (x : Float) : String :=
  if x.isNaN then layout.nan
  else if x.isInf then if x < 0 then layout.negativeInfinity else layout.infinity
  else
    let s := Scaled.ofFloat x
    String.ofList ((if s.negative then ['-'] else []) ++ layout.magnitudeText s)

end TensorCapture.Decimal
