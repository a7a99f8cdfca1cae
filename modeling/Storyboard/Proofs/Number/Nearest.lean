import Mathlib.Data.Nat.Log
import Storyboard.Number.Binary64

namespace Storyboard.Number

/-!
# Rounding to the nearest double

The nearest double depends on the value of a fraction only, not on how the
fraction is written, and the value of a finite pattern is rounded to that
pattern.
-/

/-- A common factor of a quotient does not change how it is rounded. -/
theorem roundQuotient_mul_mul_left
    {factor : Nat}
    (positive : 0 < factor)
    (numerator denominator : Nat) :
    roundQuotient (factor * numerator) (factor * denominator) =
      roundQuotient numerator denominator := by
  have scaled (left right : Nat) : factor * left < factor * right ↔
      left < right :=
    Nat.mul_lt_mul_left positive
  simp only [roundQuotient, Nat.mul_div_mul_left _ _ positive,
    Nat.mul_mod_mul_left, Nat.mul_left_comm 2 factor, scaled]

/-- Equal fractions have the same nearest double. -/
theorem nearestPattern_mul_mul_left
    {factor : Nat}
    (positive : 0 < factor)
    (numerator denominator : Nat) :
    nearestPattern (factor * numerator) (factor * denominator) =
      nearestPattern numerator denominator := by
  simp only [nearestPattern, Nat.mul_assoc, Nat.mul_div_mul_left _ _ positive,
    roundQuotient_mul_mul_left positive]

theorem roundQuotient_eq_zero
    {numerator denominator : Nat}
    (small : 2 * numerator < denominator) :
    roundQuotient numerator denominator = 0 := by
  have less : numerator < denominator := by omega
  simp only [roundQuotient, Nat.div_eq_of_lt less, Nat.mod_eq_of_lt less,
    if_pos small]

/-- A fraction of less than half a least positive double is rounded to zero. -/
theorem nearestPattern_eq_zero
    {numerator denominator : Nat}
    (small : 2 * (numerator * unitsPerOne) < denominator) :
    nearestPattern numerator denominator = 0 := by
  have less : numerator * unitsPerOne < denominator := by omega
  simp only [nearestPattern, Nat.div_eq_of_lt less, Nat.log2_zero, Nat.zero_sub,
    Nat.zero_mul, Nat.pow_eq, Nat.pow_zero, Nat.mul_one,
    roundQuotient_eq_zero small, Nat.add_zero, Nat.min_zero]

theorem twoTo_pos (exponent : Nat) : 0 < twoTo exponent :=
  Nat.two_pow_pos exponent

theorem unitsPerOne_pos : 0 < unitsPerOne := by
  unfold unitsPerOne
  exact twoTo_pos _

/-- How far the value of a pattern goes beyond the bits of a mantissa. -/
def shiftOfPattern (pattern : Nat) : Nat :=
  pattern / twoTo 52 - 1

theorem unitsOfPattern_eq (pattern : Nat) :
    unitsOfPattern pattern =
      (pattern - shiftOfPattern pattern * twoTo 52) *
        twoTo (shiftOfPattern pattern) :=
  rfl

/-- The shift of a pattern can be told from its value. -/
theorem log2_unitsOfPattern (pattern : Nat) :
    (unitsOfPattern pattern).log2 - 52 = shiftOfPattern pattern := by
  rw [unitsOfPattern_eq]
  simp only [shiftOfPattern, twoTo, Nat.pow_eq]
  by_cases subnormal : pattern < 2 ^ 53
  · have noShift : pattern / 2 ^ 52 - 1 = 0 := by omega
    rw [noShift, Nat.zero_mul, Nat.sub_zero, Nat.pow_zero, Nat.mul_one]
    by_cases isZero : pattern = 0
    · rw [isZero, Nat.log2_zero]
    · have short := (Nat.log2_lt isZero).mpr subnormal
      omega
  · generalize shiftEq : pattern / 2 ^ 52 - 1 = shift
    have fills : 2 ^ 52 ≤ pattern - shift * 2 ^ 52 := by omega
    have fits : pattern - shift * 2 ^ 52 < 2 ^ 53 := by omega
    have shifted :
        ((pattern - shift * 2 ^ 52) * 2 ^ shift).log2 = 52 + shift := by
      rw [Nat.log2_eq_iff (Nat.mul_pos (by omega) (Nat.two_pow_pos shift)).ne']
      rw [Nat.pow_add, Nat.add_right_comm, Nat.pow_add]
      exact ⟨Nat.mul_le_mul_right _ fills,
        Nat.mul_lt_mul_of_pos_right fits (Nat.two_pow_pos shift)⟩
    rw [shifted, Nat.add_sub_cancel_left]

/-- The value of a finite pattern is rounded to the pattern. -/
theorem nearestPattern_unitsOfPattern
    {pattern : Nat}
    (finite : pattern < infinityPattern) :
    nearestPattern (unitsOfPattern pattern) unitsPerOne = pattern := by
  have shiftBound : shiftOfPattern pattern * twoTo 52 ≤ pattern := by
    simp only [shiftOfPattern, twoTo, Nat.pow_eq]
    omega
  have exactQuotient :
      roundQuotient (unitsOfPattern pattern * unitsPerOne)
          (unitsPerOne * twoTo (shiftOfPattern pattern)) =
        pattern - shiftOfPattern pattern * twoTo 52 := by
    rw [unitsOfPattern_eq, Nat.mul_assoc, Nat.mul_comm (twoTo _) unitsPerOne]
    exact roundQuotient_mul _ (Nat.mul_pos unitsPerOne_pos (Nat.two_pow_pos _))
  simp only [nearestPattern, Nat.mul_div_cancel _ unitsPerOne_pos,
    log2_unitsOfPattern, exactQuotient, Nat.add_sub_cancel' shiftBound]
  exact Nat.min_eq_right (Nat.le_of_lt finite)

end Storyboard.Number
