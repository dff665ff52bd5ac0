set_option autoImplicit false

/-! # Doubles as scaled integers

A finite double is a sign and a magnitude `m * 2 ^ q` with natural `m` and integral `q`.
`Scaled.ofFloat` reads the two numbers from the bits and `Scaled.toFloat` writes them back;
remainders and decimal digits are computed on them in exact integers.
-/

namespace TensorCapture.Decimal

/-- A sign and a magnitude `mantissa * 2 ^ exponent`. -/
structure Scaled where
  negative : Bool
  mantissa : Nat
  exponent : Int
  deriving DecidableEq, Repr

namespace Scaled

/-- The exponent of the smallest positive double. -/
def leastExponent : Int := -1074

/-- The least mantissa of a double that is not subnormal. -/
def leastNormal : Nat := 0x10000000000000

/-- The number of values of the exponent field. -/
def fieldBound : Nat := 0x800

/-- The bit of the sign. -/
def signBit : Nat := 0x8000000000000000

/-- The parts of a finite double. -/
def ofFloat (x : Float) : Scaled :=
  let bits : Nat := x.toBits.toNat
  let field : Nat := bits / leastNormal % fieldBound
  let fraction : Nat := bits % leastNormal
  if field = 0 then ⟨decide (signBit ≤ bits), fraction, leastExponent⟩
  else ⟨decide (signBit ≤ bits), leastNormal + fraction, (field : Int) - 1075⟩

/-- How far the mantissa can be shifted to the left: until it has 53 bits, or until the
exponent is the least one. -/
def headroom (m : Nat) (q : Int) : Nat := min (52 - m.log2) (q - leastExponent).toNat

/-- The double with these parts. The mantissa has at most 53 bits and the exponent is not
below the least one, so the double is exact. -/
def toFloat (s : Scaled) : Float :=
  let shift := headroom s.mantissa s.exponent
  let m := s.mantissa * Nat.pow 2 shift
  let q := s.exponent - shift
  let magnitude :=
    if s.mantissa = 0 then 0
    else if m < leastNormal then m
    else (q + 1075).toNat * leastNormal + (m - leastNormal)
  Float.ofBits (UInt64.ofNat ((if s.negative then signBit else 0) + magnitude))

end Scaled

/-- The remainder of truncating division of doubles, computed exactly. It has the sign of the
dividend. An infinite dividend or a zero divisor has none. -/
def remainder (x y : Float) : Float :=
  if x.isNaN || y.isNaN || x.isInf || y == 0 then 0.0 / 0.0
  else if y.isInf then x
  else
    let a := Scaled.ofFloat x
    let b := Scaled.ofFloat y
    let q := min a.exponent b.exponent
    let numerator := a.mantissa * Nat.pow 2 (a.exponent - q).toNat
    let denominator := b.mantissa * Nat.pow 2 (b.exponent - q).toNat
    Scaled.toFloat ⟨a.negative, numerator % denominator, q⟩

end TensorCapture.Decimal
