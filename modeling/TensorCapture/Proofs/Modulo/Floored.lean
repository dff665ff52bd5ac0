import TensorCapture.Library.Basic
import TensorCapture.Proofs.Elements.Completions

set_option autoImplicit false

/-! # The remainder with the sign of the divisor

Flooring division leaves a remainder that has the sign of the divisor and is smaller than it. There
is exactly one such remainder for each dividend. The library gets it from truncating division, whose
remainder has the sign of the dividend: it adds the divisor and takes the remainder once more. The
result is always a signed word, but the sum need not be one, and neither need the quotient be that
the machine forms along with the first remainder. Where one of the two is not, the run ends.

Divisors of at most half the magnitude of a signed word are safe. For every larger one there is a
dividend with which the sum overflows.
-/

namespace TensorCapture

/-! ## Flooring division -/

/-- The remainder that flooring division leaves: the dividend without it is a multiple of the
divisor, its sign is that of the divisor unless it is zero, and it is smaller than the divisor. -/
structure FlooredRemainder (a b r : Int) : Prop where
  dvd : b ∣ a - r
  sign : r = 0 ∨ r.sign = b.sign
  lt : r.natAbs < b.natAbs

namespace FlooredRemainder

variable {a b r s : Int}

theorem bounds_of_pos (h : FlooredRemainder a b r) (hb : 0 < b) : 0 ≤ r ∧ r < b := by
  have hlt : r.natAbs < b.natAbs := h.lt
  have hnonneg : 0 ≤ r := by
    rcases h.sign with hzero | hsign
    · exact hzero.ge
    · rw [Int.sign_eq_one_of_pos hb] at hsign
      exact (Int.pos_of_sign_eq_one hsign).le
  omega

theorem bounds_of_neg (h : FlooredRemainder a b r) (hb : b < 0) : b < r ∧ r ≤ 0 := by
  have hlt : r.natAbs < b.natAbs := h.lt
  have hnonpos : r ≤ 0 := by
    rcases h.sign with hzero | hsign
    · exact hzero.le
    · rw [Int.sign_eq_neg_one_of_neg hb] at hsign
      exact (Int.neg_of_sign_eq_neg_one hsign).le
  omega

/-- Two remainders on the same side of zero differ by less than the divisor, and by a multiple of
it. -/
theorem unique (h : FlooredRemainder a b r) (h' : FlooredRemainder a b s) : r = s := by
  have hdvd : b ∣ r - s := by
    have hsub : r - s = (a - s) - (a - r) := by ring
    rw [hsub]
    exact Int.dvd_sub h'.dvd h.dvd
  have hlt : (r - s).natAbs < b.natAbs := by
    rcases lt_trichotomy b 0 with hneg | hzero | hpos
    · have hr := h.bounds_of_neg hneg
      have hs := h'.bounds_of_neg hneg
      omega
    · have hr := h.lt
      omega
    · have hr := h.bounds_of_pos hpos
      have hs := h'.bounds_of_pos hpos
      omega
  exact sub_eq_zero.mp (Int.eq_zero_of_dvd_of_natAbs_lt_natAbs hdvd hlt)

end FlooredRemainder

section Truncated

variable {a b : Int}

theorem natAbs_tmod_lt (a : Int) (hb : b ≠ 0) : (a.tmod b).natAbs < b.natAbs := by
  rw [Int.natAbs_tmod]
  exact Nat.mod_lt _ (Int.natAbs_pos.mpr hb)

/-- The sum of the truncating remainder and the divisor has the sign of the divisor, so that its
own truncating remainder has it too. -/
theorem flooredRemainder_tmod (a : Int) (hb : b ≠ 0) :
    FlooredRemainder a b ((a.tmod b + b).tmod b) := by
  have hfirst : (a.tmod b).natAbs < b.natAbs := natAbs_tmod_lt a hb
  refine ⟨?_, ?_, natAbs_tmod_lt _ hb⟩
  · have hsplit : a - (a.tmod b + b).tmod b =
        (a - a.tmod b) + ((a.tmod b + b) - (a.tmod b + b).tmod b) - b := by ring
    have hmultiple : ∀ i : Int, b ∣ i - i.tmod b := fun i => Int.dvd_self_sub_of_tmod_eq rfl
    rw [hsplit]
    exact Int.dvd_sub (Int.dvd_add (hmultiple a) (hmultiple _)) (Int.dvd_refl b)
  · rcases lt_or_gt_of_ne hb with hneg | hpos
    · have hsum : 0 ≤ -(a.tmod b + b) := by omega
      have hlast := Int.tmod_nonneg b hsum
      rw [Int.neg_tmod] at hlast
      rcases eq_or_lt_of_le (neg_nonneg.mp hlast) with hzero | hlt
      · exact .inl hzero
      · exact .inr (by rw [Int.sign_eq_neg_one_of_neg hlt, Int.sign_eq_neg_one_of_neg hneg])
    · have hsum : 0 ≤ a.tmod b + b := by omega
      rcases eq_or_lt_of_le (Int.tmod_nonneg b hsum) with hzero | hlt
      · exact .inl hzero.symm
      · exact .inr (by rw [Int.sign_eq_one_of_pos hlt, Int.sign_eq_one_of_pos hpos])

end Truncated

/-! ## Signed words -/

namespace Word

variable {a b : Int64}

theorem toInt_ne_zero (hb : b ≠ 0) : b.toInt ≠ 0 := by
  intro hzero
  apply hb
  exact Int64.toInt_inj.mp hzero

theorem fitsSigned_toInt (a : Int64) : FitsSigned a.toInt := ⟨a.le_toInt, a.toInt_lt⟩

/-- The word that holds the remainder. -/
def floorMod (a b : Int64) : Int64 := Int64.ofInt ((a.toInt.tmod b.toInt + b.toInt).tmod b.toInt)

/-- The remainder is smaller than the divisor, which is a word already. -/
theorem toInt_floorMod (a : Int64) (hb : b ≠ 0) :
    (floorMod a b).toInt = (a.toInt.tmod b.toInt + b.toInt).tmod b.toInt := by
  have hlt := (flooredRemainder_tmod a.toInt (toInt_ne_zero hb)).lt
  obtain ⟨hlower, hupper⟩ := fitsSigned_toInt b
  apply Int64.toInt_ofInt_of_le
  · omega
  · omega

theorem flooredRemainder_floorMod (a : Int64) (hb : b ≠ 0) :
    FlooredRemainder a.toInt b.toInt (floorMod a b).toInt := by
  rw [toInt_floorMod a hb]
  exact flooredRemainder_tmod a.toInt (toInt_ne_zero hb)

/-- What the remainder is formed from are signed words: the quotient, with one exception, and the
sum of the truncating remainder and the divisor. -/
structure ModuloFits (a b : Int64) : Prop where
  quotient : ¬(a = Int64.minValue ∧ b = -1)
  sum : FitsSigned (a.toInt.tmod b.toInt + b.toInt)

theorem ofInt?_eq_none {i : Int} (h : ¬FitsSigned i) : ofInt? i = none := by
  have hleast : Int64.minValue.toInt = -2 ^ 63 := by decide
  have hgreatest : Int64.maxValue.toInt = 2 ^ 63 - 1 := by decide
  unfold FitsSigned at h
  unfold ofInt?
  apply if_neg
  rw [hleast, hgreatest]
  omega

/-- A divisor of at most half the magnitude leaves room for the sum. -/
theorem moduloFits_of_natAbs_le (hb : b ≠ 0) (hsmall : b.toInt.natAbs ≤ 2 ^ 62)
    (ha : a ≠ Int64.minValue) : ModuloFits a b := by
  have hlt : (a.toInt.tmod b.toInt).natAbs < b.toInt.natAbs :=
    natAbs_tmod_lt _ (toInt_ne_zero hb)
  refine ⟨fun h => ha h.1, ?_⟩
  constructor
  · omega
  · omega

/-- The dividend next to a divisor, on the side of zero, is its own remainder. -/
theorem exists_not_moduloFits (hlarge : 2 ^ 62 < b.toInt.natAbs) :
    ∃ a, a ≠ Int64.minValue ∧ ¬ModuloFits a b := by
  obtain ⟨hlower, hupper⟩ := fitsSigned_toInt b
  have hleast : Int64.minValue.toInt = -2 ^ 63 := by decide
  -- the sum of the two is next to twice the divisor
  have hsum : ∀ i : Int, FitsSigned i → i ≠ -2 ^ 63 → i.tmod b.toInt = i →
      ¬FitsSigned (i + b.toInt) → ∃ a, a ≠ Int64.minValue ∧ ¬ModuloFits a b := by
    intro i hi hne hself houtside
    have hword : (Int64.ofInt i).toInt = i := Int64.toInt_ofInt_of_le hi.1 hi.2
    refine ⟨Int64.ofInt i, ?_, fun hfits => houtside ?_⟩
    · intro hmin
      rw [hmin, hleast] at hword
      exact hne hword.symm
    · have hfits := hfits.sum
      rwa [hword, hself] at hfits
  rcases lt_or_ge b.toInt 0 with hneg | hpos
  · apply hsum (b.toInt + 1)
    · exact ⟨by omega, by omega⟩
    · omega
    · have hnear : (-(b.toInt + 1)).tmod (-b.toInt) = -(b.toInt + 1) :=
        Int.tmod_eq_of_lt (by omega) (by omega)
      rw [Int.neg_tmod, Int.tmod_neg] at hnear
      omega
    · unfold FitsSigned
      omega
  · apply hsum (b.toInt - 1)
    · exact ⟨by omega, by omega⟩
    · omega
    · exact Int.tmod_eq_of_lt (by omega) (by omega)
    · unfold FitsSigned
      omega

/-- The divisors with which no dividend but the least word overflows. -/
theorem natAbs_le_iff_moduloFits (hb : b ≠ 0) :
    b.toInt.natAbs ≤ 2 ^ 62 ↔ ∀ a, a ≠ Int64.minValue → ModuloFits a b := by
  constructor
  · intro hsmall a ha
    exact moduloFits_of_natAbs_le hb hsmall ha
  · intro hfits
    by_contra hlarge
    obtain ⟨a, ha, hnot⟩ := exists_not_moduloFits (not_le.mp hlarge)
    exact hnot (hfits a ha)

end Word

/-! ## The library's remainder -/

namespace Library

open Word

variable {a b : Int64}

/-- The truncating remainder is formed wherever the quotient is a signed word. -/
theorem remSigned?_eq_some (hb : b ≠ 0) (hquotient : ¬(a = Int64.minValue ∧ b = -1)) :
    remSigned? a b = some (a % b) := by
  apply if_neg
  rintro (hzero | hexception)
  · exact hb hzero
  · exact hquotient hexception

/-- The remainder is found where what it is formed from fits. -/
theorem integerMod_eq_ok (hb : b ≠ 0) (hfits : ModuloFits a b) :
    integerMod a b = .ok (floorMod a b) := by
  obtain ⟨s, hs, hsum⟩ := ofInt?_eq_some hfits.sum
  have hadd : addSigned? (a % b) b = some s := by
    unfold addSigned?
    rw [Int64.toInt_mod]
    exact hs
  -- a sum of -2^63 with the divisor -1 would need a remainder that is not smaller than 1
  have hlast : ¬(s = Int64.minValue ∧ b = -1) := by
    rintro ⟨rfl, rfl⟩
    have hleast : Int64.minValue.toInt = -2 ^ 63 := by decide
    have hdivisor : (-1 : Int64).toInt = -1 := by decide
    have hlt := natAbs_tmod_lt a.toInt (toInt_ne_zero hb)
    rw [hleast, hdivisor] at hsum
    rw [hdivisor] at hlt
    omega
  have hword : s % b = floorMod a b := by
    apply Int64.toInt_inj.mp
    rw [Int64.toInt_mod, hsum, toInt_floorMod a hb]
  unfold integerMod
  rw [if_neg hb, remSigned?_eq_some hb hfits.quotient, Option.bind_eq_bind, Option.bind_some, hadd,
    Option.bind_some, remSigned?_eq_some hb hlast, hword]
  rfl

/-- Where something does not fit, the run ends. -/
theorem integerMod_eq_abort (hb : b ≠ 0) (hfits : ¬ModuloFits a b) :
    integerMod a b = .error .abort := by
  unfold integerMod
  rw [if_neg hb]
  by_cases hquotient : a = Int64.minValue ∧ b = -1
  · have hnone : remSigned? a b = none := if_pos (.inr hquotient)
    rw [hnone]
    rfl
  · have hsum : ¬FitsSigned (a.toInt.tmod b.toInt + b.toInt) := fun h => hfits ⟨hquotient, h⟩
    have hadd : addSigned? (a % b) b = none := by
      unfold addSigned?
      rw [Int64.toInt_mod]
      exact ofInt?_eq_none hsum
    rw [remSigned?_eq_some hb hquotient, Option.bind_eq_bind, Option.bind_some, hadd]
    rfl

end Library

end TensorCapture
