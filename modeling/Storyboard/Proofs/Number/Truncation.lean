import Mathlib
import Storyboard.Proofs.Number.Values

namespace Storyboard.Number

/-!
# Doubles without their fractions

A double that is made a whole number loses its fraction and nothing else, as
long as the whole number is one of 64 bits.
-/

open Float.Model (UnpackedFloat)
open Float.Model.UnpackedFloat

/--
Shifting a mantissa to the exponent zero divides away what is behind the point.
-/
theorem roundToInt_positive (mantissa : Nat) (exponent : ℤ) :
    roundToInt .positive mantissa exponent =
      ⌊(mantissa : ℚ) * 2 ^ exponent⌋₊ := by
  simp only [roundToInt, decreaseExponent, shiftToExponent, mantissa_shift,
    mantissa_ofMantissaAndAccuracy, sub_zero, Sign.apply]
  rcases Int.eq_nat_or_neg exponent with ⟨count, rfl | rfl⟩
  · have whole :
        (mantissa : ℚ) * 2 ^ (count : ℤ) = (mantissa <<< count : Nat) := by
      rw [Nat.shiftLeft_eq, zpow_natCast]
      push_cast
      rfl
    rw [whole, Nat.floor_natCast, Int.toNat_natCast, sub_self, sub_self,
      Int.toNat_zero, pow_zero, Nat.div_one]
  · have quotient : (mantissa : ℚ) * 2 ^ (-(count : ℤ)) =
        (mantissa : ℚ) / (2 ^ count : Nat) := by
      rw [zpow_neg, zpow_natCast]
      push_cast
      rfl
    have noShift : (-(count : ℤ)).toNat = 0 := by omega
    have shift :
        (0 - (-(count : ℤ) - ((0 : Nat) : ℤ))).toNat = count := by omega
    rw [quotient, Nat.floor_div_eq_div, noShift, shift, Nat.shiftLeft_zero]

theorem toNat_toUInt64
    {double : Float}
    (finite : double.isFinite = true)
    (notNegative : 0 ≤ value double)
    (small : value double < 2 ^ 64) :
    double.toUInt64.toNat = ⌊value double⌋₊ := by
  have isWhole :
      (unpacked double).toInt 0 (UInt64.size - 1) = ⌊value double⌋₊ := by
    rw [value_eq_partsValue finite] at notNegative ⊢
    have finiteParts := finiteParts_of_isFinite finite
    cases isParts : unpacked double with
    | zero sign =>
        rw [partsValue.eq_def (.zero sign)]
        simp [toInt]
    | finite sign mantissa exponent positive =>
        cases sign with
        | positive =>
            exact roundToInt_positive mantissa exponent
        | negative =>
            rw [isParts] at notNegative
            have magnitude : (0 : ℚ) < mantissa * 2 ^ exponent :=
              mul_pos (by exact_mod_cast positive)
                (zpow_pos (by norm_num) exponent)
            exact absurd notNegative (neg_neg_iff_pos.mpr magnitude).not_ge
    | _ =>
        rw [isParts] at finiteParts
        exact finiteParts.elim
  have inWord : ⌊value double⌋₊ < UInt64.size :=
    (Nat.floor_lt notNegative).mpr (small.trans_eq (by norm_num [UInt64.size]))
  change (UInt64.ofNatClamp
    ((unpacked double).toInt 0 (UInt64.size - 1)).toNat).toNat = _
  rw [isWhole, Int.toNat_natCast, UInt64.ofNatClamp, dif_pos inWord,
    UInt64.toNat_ofNatLT]

/-- Rounding does not lead out of the range up to a whole number. -/
theorem Rounds.between_natCast
    {exact : ℚ}
    {result : Float}
    (rounds : Rounds exact result)
    {bound : Nat}
    (short : bound < 2 ^ 53)
    (notNegative : 0 ≤ exact)
    (atMost : exact ≤ bound) :
    0 ≤ result ∧ result ≤ Float.ofNat bound :=
  ⟨rounds.le_of_value_le isNaN_zero (value_zero ▸ notNegative),
    rounds.le_of_le_value (isNaN_ofNat short) ((value_ofNat short).1 ▸ atMost)⟩

theorem toNat_toUInt64_le
    {double : Float}
    {bound : Nat}
    (short : bound < 2 ^ 53)
    (notNegative : 0 ≤ double)
    (atMost : double ≤ Float.ofNat bound) :
    double.toUInt64.toNat ≤ bound := by
  obtain ⟨lower, upper, finite⟩ :=
    value_between_natCast short notNegative atMost
  have boundSmall : (bound : ℚ) < 2 ^ 64 := by
    exact_mod_cast short.trans (by decide)
  rw [toNat_toUInt64 finite lower (upper.trans_lt boundSmall)]
  exact Nat.floor_le_of_le upper

end Storyboard.Number
