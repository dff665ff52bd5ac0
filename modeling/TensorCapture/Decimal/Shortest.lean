import TensorCapture.Decimal.Binary64

set_option autoImplicit false

/-! # The shortest decimal that reads back

Every decimal strictly inside the interval of reals that round to a double reads back as that
double; the ends of the interval do so exactly when the mantissa is even. Among these decimals
the one with the fewest digits is written, and of several with that many digits the nearest.
All comparisons are made in exact integers.
-/

namespace TensorCapture.Decimal

/-- A decimal `digits * 10 ^ exponent`. -/
structure Digits where
  digits : Nat
  exponent : Int
  deriving DecidableEq, Repr

/-- What is written when two decimals are equally near. -/
inductive Tie where
  /-- The one whose last digit is even. -/
  | toEven
  /-- The one of larger magnitude. -/
  | away
  deriving DecidableEq, Repr

/-- The reals that round to a double `m * 2 ^ q`, in units of `2 ^ (q - 2)`. -/
structure Interval where
  low : Nat
  value : Nat
  high : Nat
  /-- The exponent of the unit. -/
  exponent : Int
  /-- Whether the ends belong to it. -/
  closed : Bool

/-- The interval of a positive double. Below the least mantissa of a binade the neighbour is
half as far away. -/
def Interval.ofScaled (s : Scaled) : Interval :=
  let m := s.mantissa
  let narrow := m = Scaled.leastNormal ∧ Scaled.leastExponent < s.exponent
  ⟨4 * m - (if narrow then 1 else 2), 4 * m, 4 * m + 2, s.exponent - 2, m % 2 = 0⟩

/-- A decimal `c * 10 ^ k` and a binary `b * 2 ^ e`, brought to a common unit. -/
def onCommonUnit (c : Nat) (k : Int) (b : Nat) (e : Int) : Nat × Nat :=
  (c * Nat.pow 10 k.toNat * Nat.pow 2 (-e).toNat, b * Nat.pow 2 e.toNat * Nat.pow 10 (-k).toNat)

/-- Whether `c * 10 ^ k` lies in the interval. -/
def Interval.holds (i : Interval) (c : Nat) (k : Int) : Bool :=
  let (x, low) := onCommonUnit c k i.low i.exponent
  let (y, high) := onCommonUnit c k i.high i.exponent
  if i.closed then low ≤ x && y ≤ high else low < x && y < high

/-- The decimal exponent `p` of a positive rational: it is below `10 ^ p` and not below
`10 ^ (p - 1)`. -/
def magnitude (num den : Nat) : Int :=
  let estimate : Int := (Nat.toDigits 10 num).length - (Nat.toDigits 10 den).length
  if den * Nat.pow 10 estimate.toNat ≤ num * Nat.pow 10 (-estimate).toNat then estimate + 1
  else estimate

/-- The better of the two neighbours `c` and `c + 1` of a value on the grid `10 ^ k`, among
those in the interval. -/
def Interval.nearest? (i : Interval) (tie : Tie) (c : Nat) (k : Int) : Option Nat :=
  match i.holds c k, i.holds (c + 1) k with
  | false, false => none
  | true, false => some c
  | false, true => some (c + 1)
  | true, true =>
      let (below, value) := onCommonUnit c k i.value i.exponent
      let (above, _) := onCommonUnit (c + 1) k i.value i.exponent
      let down := value - below
      let up := above - value
      if down < up then some c
      else if up < down then some (c + 1)
      else match tie with
        | .away => some (c + 1)
        | .toEven => if c % 2 = 0 then some c else some (c + 1)

/-- The first grid, from coarse to fine, on which a neighbour of the value is in the interval. -/
def Interval.search (i : Interval) (tie : Tie) (num den : Nat) (p : Int) : List Nat → Digits
  | [] => ⟨0, 0⟩
  | count :: rest =>
      let k := p - count
      let c := num * Nat.pow 10 (-k).toNat / (den * Nat.pow 10 k.toNat)
      match i.nearest? tie c k with
      | some d => ⟨d, k⟩
      | none => i.search tie num den p rest

/-- The decimal without the zeros at its end. -/
def Digits.trim : Nat → Digits → Digits
  | 0, d => d
  | fuel + 1, d =>
      if d.digits ≠ 0 ∧ d.digits % 10 = 0 then Digits.trim fuel ⟨d.digits / 10, d.exponent + 1⟩
      else d

/-- The shortest decimal of a positive double. Seventeen digits always suffice. -/
def shortest (tie : Tie) (s : Scaled) : Digits :=
  let num := s.mantissa * Nat.pow 2 s.exponent.toNat
  let den := Nat.pow 2 (-s.exponent).toNat
  Digits.trim 20 <|
    (Interval.ofScaled s).search tie num den (magnitude num den) (List.range' 1 17)

end TensorCapture.Decimal
