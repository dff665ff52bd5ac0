import Mathlib.Algebra.Order.Ring.Nat
import Mathlib.Data.Prod.Lex
import Mathlib.Order.Compare

set_option autoImplicit false

/-! # Doubles

What is no number is incomparable to every double, itself included. All others are in one line: by
the sign and whether they are infinite, then by exponent and significand, where the two zeros stand
at one place. So the laws of an order hold as far as they compare two numbers.

A natural number below `2 ^ 53` is a double without rounding: its significand is moved up to the
full length, and the exponent tells by how much.
-/

namespace TensorCapture.Double

/-! ## The order -/

section Order

open Float.Model (UnpackedFloat)

/-- Where a number stands among the doubles. What is no number stands nowhere. -/
def standing? : UnpackedFloat → Option (Int ×ₗ Int ×ₗ Int)
  | .notANumber => none
  | .infinity .negative => some (toLex (-2, toLex (0, 0)))
  | .finite .negative significand exponent _ => some (toLex (-1, toLex (-exponent, -significand)))
  | .zero _ => some (toLex (0, toLex (0, 0)))
  | .finite .positive significand exponent _ => some (toLex (1, toLex (exponent, significand)))
  | .infinity .positive => some (toLex (2, toLex (0, 0)))

theorem compare_natCast (m n : Nat) : compare (m : Int) n = compare m n := by
  simp only [Int.compare_eq_ite_lt, Nat.compare_eq_ite_lt, Int.ofNat_lt]

theorem compare_neg_neg (a b : Int) : compare (-a) (-b) = (compare a b).swap := by
  rw [Int.compare_swap]
  simp only [Int.compare_eq_ite_lt, Int.neg_lt_neg_iff]

/-- On one side of zero, the exponents are compared first. -/
theorem compare_side (side e e' m m' : Int) :
    compare (toLex (side, toLex (e, m)) : Int ×ₗ Int ×ₗ Int) (toLex (side, toLex (e', m'))) =
      (compare e e').then (compare m m') := by
  simp [Prod.Lex.compare_def, compareLex, compareOn]

theorem compare_eq (a b : UnpackedFloat) :
    a.compare b = (standing? a).bind fun j => (standing? b).map (compare j) := by
  rcases a with (_ | _) | _ | (_ | _) | ⟨_ | _, m, e, _⟩ <;>
    rcases b with (_ | _) | _ | (_ | _) | ⟨_ | _, m', e', _⟩
  case finite.negative.finite.negative =>
    -- below zero, the order is the other way round
    refine congrArg some (Eq.trans ?_ (compare_side (-1) (-e) (-e') (-m) (-m')).symm)
    rw [compare_neg_neg, compare_neg_neg, compare_natCast, Ordering.swap_then]
  case finite.positive.finite.positive =>
    refine congrArg some (Eq.trans ?_ (compare_side 1 e e' m m').symm)
    rw [compare_natCast]
  all_goals rfl

variable {u v w : Float}

theorem lt_iff : v < w ↔
    ∃ j k, standing? v.toModel.unpack = some j ∧ standing? w.toModel.unpack = some k ∧ j < k := by
  have hmodel : v < w ↔ v.toModel < w.toModel := decide_eq_true_iff
  have hcompare : v.toModel < w.toModel ↔
      (v.toModel.unpack.compare w.toModel.unpack == some .lt) = true := Iff.rfl
  rw [hmodel, hcompare, compare_eq]
  cases standing? v.toModel.unpack <;> cases standing? w.toModel.unpack <;>
    simp [compare_lt_iff_lt]

theorem le_iff : v ≤ w ↔
    ∃ j k, standing? v.toModel.unpack = some j ∧ standing? w.toModel.unpack = some k ∧ j ≤ k := by
  have hmodel : v ≤ w ↔ v.toModel ≤ w.toModel := decide_eq_true_iff
  have hcompare : v.toModel ≤ w.toModel ↔
      (v.toModel.unpack.compare w.toModel.unpack).any (·.isLE) = true := Iff.rfl
  rw [hmodel, hcompare, compare_eq]
  cases standing? v.toModel.unpack <;> cases standing? w.toModel.unpack <;>
    simp [compare_le_iff_le, Ordering.isLE_iff_ne_gt]

theorem lt_irrefl (v : Float) : ¬v < v := by
  intro h
  obtain ⟨j, k, hj, hk, hlt⟩ := lt_iff.mp h
  obtain rfl : j = k := Option.some.inj (hj.symm.trans hk)
  exact hlt.false

theorem lt_of_lt_of_le (h : u < v) (h' : v ≤ w) : u < w := by
  obtain ⟨i, j, hi, hj, hlt⟩ := lt_iff.mp h
  obtain ⟨j', k, hj', hk, hle⟩ := le_iff.mp h'
  obtain rfl : j = j' := Option.some.inj (hj.symm.trans hj')
  exact lt_iff.mpr ⟨i, k, hi, hk, hlt.trans_le hle⟩

theorem le_of_lt (h : v < w) : v ≤ w := by
  obtain ⟨j, k, hj, hk, hlt⟩ := lt_iff.mp h
  exact le_iff.mpr ⟨j, k, hj, hk, hlt.le⟩

theorem lt_trans (h : u < v) (h' : v < w) : u < w := lt_of_lt_of_le h (le_of_lt h')

/-- What is smaller is not as large. -/
theorem not_le_of_lt (h : v < w) : ¬w ≤ v := fun h' => lt_irrefl v (lt_of_lt_of_le h h')

end Order

/-! ## Natural numbers -/

section Naturals

open Float.Model (Format totalExponent)
open Float.Model.UnpackedFloat

variable {n m : Nat} {e : Int}

/-- The significand of a natural number, moved up to its full length. -/
def significand (n : Nat) : Nat := n * 2 ^ (52 - n.log2)

theorem log2_le_of_lt (hn : n ≠ 0) (h : n < 2 ^ 53) : n.log2 ≤ 52 :=
  Nat.lt_succ_iff.mp ((Nat.log2_lt hn).mpr h)

theorem significand_bounds (hn : n ≠ 0) (h : n < 2 ^ 53) :
    2 ^ 52 ≤ significand n ∧ significand n < 2 ^ 53 := by
  have hlog := log2_le_of_lt hn h
  have hlow : 2 ^ n.log2 * 2 ^ (52 - n.log2) ≤ significand n :=
    Nat.mul_le_mul_right _ (Nat.log2_self_le hn)
  have hhigh : significand n < 2 ^ (n.log2 + 1) * 2 ^ (52 - n.log2) :=
    Nat.mul_lt_mul_of_pos_right Nat.lt_log2_self (Nat.two_pow_pos _)
  rw [← Nat.pow_add] at hlow hhigh
  have hall : n.log2 + (52 - n.log2) = 52 := by omega
  have hmore : n.log2 + 1 + (52 - n.log2) = 53 := by omega
  rw [hall] at hlow
  rw [hmore] at hhigh
  exact ⟨hlow, hhigh⟩

theorem significand_pos (hn : n ≠ 0) (h : n < 2 ^ 53) : 0 < significand n :=
  (Nat.two_pow_pos 52).trans_le (significand_bounds hn h).1

theorem log2_significand (hn : n ≠ 0) (h : n < 2 ^ 53) : (significand n).log2 = 52 :=
  (Nat.log2_eq_iff (significand_pos hn h).ne').mpr (significand_bounds hn h)

theorem targetExponent_eq (hm : m.log2 = 52) (he : -1074 ≤ e) :
    Format.targetExponent .binary64 (totalExponent m e) = e := by
  have htotal : totalExponent m e = 53 + e := by
    unfold totalExponent
    rw [hm]
    rfl
  rw [htotal]
  show max (53 + e - 53) (-1074) = e
  omega

/-- A significand of full length stays where it is. -/
theorem shiftToTargetExponent_eq (hm : m.log2 = 52) (he : -1074 ≤ e) :
    shiftToTargetExponent .binary64 m e .exact = (⟨m, false, false⟩, e) := by
  unfold shiftToTargetExponent shiftToExponent
  rw [targetExponent_eq hm he]
  dsimp only
  rw [Int.sub_self]
  exact Prod.ext rfl (Int.add_zero e)

theorem roundWithAccuracy_eq (hm : m.log2 = 52) (he : -1074 ≤ e) (hpos : 0 < m) :
    roundWithAccuracy .binary64 .positive m e .exact = .finite .positive m e hpos := by
  have hround : (ExtendedMantissa.mk m false false).roundedMantissa = m := rfl
  unfold roundWithAccuracy
  rw [shiftToTargetExponent_eq hm he]
  dsimp only
  rw [hround, shiftToTargetExponent_eq hm he]
  exact dif_neg hpos.ne'

theorem round_eq (hn : n ≠ 0) (h : n < 2 ^ 53) :
    Float.Model.UnpackedFloat.round .binary64 .positive n 0 =
      .finite .positive (significand n) (n.log2 - 52) (significand_pos hn h) := by
  have hlog := log2_le_of_lt hn h
  have htarget : Format.targetExponent .binary64 (totalExponent n 0) = n.log2 - 52 := by
    show max ((n.log2 : Int) + 1 + 0 - 53) (-1074) = n.log2 - 52
    omega
  have hshift : (0 - ((n.log2 : Int) - 52)).toNat = 52 - n.log2 := by omega
  have hexponent : 0 - ((52 - n.log2 : Nat) : Int) = n.log2 - 52 := by omega
  unfold Float.Model.UnpackedFloat.round decreaseExponent
  rw [htarget]
  dsimp only
  rw [hshift, hexponent, Nat.shiftLeft_eq]
  exact roundWithAccuracy_eq (log2_significand hn h) (by omega) (significand_pos hn h)

theorem pack_eq (hn : n ≠ 0) (h : n < 2 ^ 53) :
    pack .binary64 (ofNat .binary64 n) =
      packComponents .binary64 .positive (BitVec.ofNat 11 (n.log2 + 1023))
        (BitVec.ofNat 52 (significand n)) := by
  have hlog := log2_le_of_lt hn h
  have hround : ofNat .binary64 n =
      .finite .positive (significand n) (n.log2 - 52) (significand_pos hn h) := by
    have hsign : compare (n : Int) 0 = .gt := Int.compare_eq_gt.mpr (by omega)
    unfold ofNat ofInt Float.Model.UnpackedFloat.normalize
    rw [hsign]
    exact round_eq hn h
  have hbiased : ((n.log2 : Int) - 52 + Format.exponentBias .binary64 +
      Format.mantissaBitsWithoutImplicit .binary64).toNat = n.log2 + 1023 := by
    show ((n.log2 : Int) - 52 + 1023 + 52).toNat = n.log2 + 1023
    omega
  rw [hround]
  unfold pack
  dsimp only
  have hfinite : ¬2048 ≤ n.log2 + 1023 + 1 := by omega
  rw [hbiased, log2_significand hn h, if_neg hfinite]
  exact if_pos rfl

/-- The fields of a natural number as a double. Zero has an exponent of its own. -/
theorem fields_eq (h : n < 2 ^ 53) :
    (unpackExponent (pack .binary64 (ofNat .binary64 n))).toNat =
        (if n = 0 then 0 else n.log2 + 1023) ∧
      (unpackMantissa (pack .binary64 (ofNat .binary64 n))).toNat = significand n % 2 ^ 52 := by
  by_cases hn : n = 0
  · subst hn
    exact ⟨by decide, by decide⟩
  · have hlog := log2_le_of_lt hn h
    rw [pack_eq hn h, unpackExponent_packComponents, unpackMantissa_packComponents, if_neg hn,
      BitVec.toNat_ofNat, BitVec.toNat_ofNat]
    have hfits : n.log2 + 1023 < 2 ^ 11 := by omega
    exact ⟨Nat.mod_eq_of_lt hfits, rfl⟩

theorem toBits_toFloat_ofNat (h : n < 2 ^ 53) :
    (UInt64.ofNat n).toFloat.toModel.toBits.toBitVec = pack .binary64 (ofNat .binary64 n) := by
  have hsmall : n < UInt64.size := h.trans (by decide)
  show pack .binary64 (ofNat .binary64 (UInt64.ofNat n).toNat) = _
  rw [UInt64.toNat_ofNat_of_lt' hsmall]

/-- Below `2 ^ 53`, different naturals are different doubles. -/
theorem toFloat_ofNat_inj {k : Nat} (hn : n < 2 ^ 53) (hk : k < 2 ^ 53)
    (h : (UInt64.ofNat n).toFloat = (UInt64.ofNat k).toFloat) : n = k := by
  have hpack : pack .binary64 (ofNat .binary64 n) = pack .binary64 (ofNat .binary64 k) := by
    rw [← toBits_toFloat_ofNat hn, ← toBits_toFloat_ofNat hk, h]
  obtain ⟨hexponent, hsignificand⟩ := fields_eq hn
  obtain ⟨hexponent', hsignificand'⟩ := fields_eq hk
  rw [hpack, hexponent'] at hexponent
  rw [hpack, hsignificand'] at hsignificand
  by_cases hzero : n = 0
  · by_contra hne
    rw [if_pos hzero, if_neg (by omega)] at hexponent
    omega
  · have hk' : k ≠ 0 := by
      rintro rfl
      rw [if_pos rfl, if_neg hzero] at hexponent
      omega
    rw [if_neg hzero, if_neg hk'] at hexponent
    have hlog : k.log2 = n.log2 := by omega
    -- of full length, the significands have their first bit in common
    have hsame : significand n = significand k := by
      have hbounds := significand_bounds hzero hn
      have hbounds' := significand_bounds hk' hk
      omega
    unfold significand at hsame
    rw [hlog] at hsame
    exact Nat.eq_of_mul_eq_mul_right (Nat.two_pow_pos _) hsame

end Naturals

end TensorCapture.Double
