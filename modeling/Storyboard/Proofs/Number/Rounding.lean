import Mathlib
import Storyboard.Proofs.Number.Packing

namespace Storyboard.Number

/-!
# Rounding to the nearest rank

A mantissa is rounded by what is known of the digits behind it: whether there
are any, and on which side of one half they lie.  As shifting a bit out keeps
this knowledge, the result is the nearest rank of the number that the digits
stand for.
-/

open Float.Model (Format UnpackedFloat)
open Float.Model.UnpackedFloat

/-- What is known of a number whose whole part is a mantissa. -/
def Describes (mantissa : Nat) : Accuracy → ℚ → Prop
  | .exact, number => number = mantissa
  | .inexact .lt, number => mantissa < number ∧ number < mantissa + 1 / 2
  | .inexact .eq, number => number = mantissa + 1 / 2
  | .inexact .gt, number => mantissa + 1 / 2 < number ∧ number < mantissa + 1

theorem describes_exact (mantissa : Nat) : Describes mantissa .exact mantissa :=
  rfl

/--
What is known of a number is also known of its half when the last bit is shifted
out.
-/
theorem Describes.shiftRightOne
    {extended : ExtendedMantissa}
    {number : ℚ}
    (described : Describes extended.mantissa extended.accuracy number) :
    Describes extended.shiftRightOne.mantissa extended.shiftRightOne.accuracy
      (number / 2) := by
  obtain ⟨mantissa, roundBit, stickyBit⟩ := extended
  have half : 2 * (mantissa / 2) + mantissa % 2 = mantissa :=
    Nat.div_add_mod mantissa 2
  have halfCast :
      (2 : ℚ) * (mantissa / 2 : Nat) + (mantissa % 2 : Nat) = mantissa := by
    exact_mod_cast half
  rcases Nat.mod_two_eq_zero_or_one mantissa with even | odd
  · rw [even, Nat.cast_zero] at halfCast
    cases roundBit <;> cases stickyBit <;>
      simp only [ExtendedMantissa.shiftRightOne, ExtendedMantissa.accuracy,
        Describes, even, bne_self_eq_false, Bool.or_false, Bool.or_true]
        at described ⊢ <;>
      grind
  · have isOdd : (1 != 0) = true := rfl
    rw [odd, Nat.cast_one] at halfCast
    cases roundBit <;> cases stickyBit <;>
      simp only [ExtendedMantissa.shiftRightOne, ExtendedMantissa.accuracy,
        Describes, odd, isOdd, Bool.or_false, Bool.or_true] at described ⊢ <;>
      grind

theorem Describes.shift
    {extended : ExtendedMantissa}
    {number : ℚ}
    (described : Describes extended.mantissa extended.accuracy number)
    (count : Nat) :
    Describes (extended >>> count).mantissa (extended >>> count).accuracy
      (number / 2 ^ count) := by
  induction count with
  | zero =>
      rw [pow_zero, div_one]
      exact described
  | succ count inductionHypothesis =>
      rw [pow_succ, ← div_div]
      exact inductionHypothesis.shiftRightOne

theorem mantissa_shift (extended : ExtendedMantissa) (count : Nat) :
    (extended >>> count).mantissa = extended.mantissa / 2 ^ count := by
  induction count with
  | zero =>
      rw [pow_zero, Nat.div_one]
      rfl
  | succ count inductionHypothesis =>
      rw [pow_succ, ← Nat.div_div_eq_div_mul, ← inductionHypothesis]
      rfl

theorem describes_ofMantissaAndAccuracy
    {mantissa : Nat}
    {accuracy : Accuracy}
    {number : ℚ}
    (described : Describes mantissa accuracy number) :
    let extended := ExtendedMantissa.ofMantissaAndAccuracy mantissa accuracy
    Describes extended.mantissa extended.accuracy number := by
  cases accuracy with
  | exact =>
      exact described
  | inexact order =>
      cases order <;> exact described

theorem mantissa_ofMantissaAndAccuracy (mantissa : Nat) (accuracy : Accuracy) :
    (ExtendedMantissa.ofMantissaAndAccuracy mantissa accuracy).mantissa =
      mantissa := by
  cases accuracy with
  | exact =>
      rfl
  | inexact order =>
      cases order <;> rfl

namespace Nearest

variable
  {exact : ℚ}
  {rank : ℤ}

theorem of_between
    (atLeast : rankValue rank ≤ exact)
    (atMost : exact ≤ halfway rank)
    (even : exact = halfway rank → Even rank) :
    Nearest exact rank where
  halfway_le := (halfway_pred_lt_rankValue rank).le.trans atLeast
  le_halfway := atMost
  even_of_eq := by
    rintro (same | same)
    · exact absurd same ((halfway_pred_lt_rankValue rank).trans_le atLeast).ne'
    · exact even same

theorem of_between_succ
    (atLeast : halfway rank ≤ exact)
    (atMost : exact ≤ rankValue (rank + 1))
    (even : exact = halfway rank → Even (rank + 1)) :
    Nearest exact (rank + 1) where
  halfway_le := by rwa [add_sub_cancel_right]
  le_halfway := atMost.trans (rankValue_lt_halfway _).le
  even_of_eq := by
    rw [add_sub_cancel_right]
    rintro (same | same)
    · exact even same
    · exact absurd same (atMost.trans_lt (rankValue_lt_halfway _)).ne

/--
A mantissa that is rounded to the nearest even one is the mantissa of the
nearest rank.
-/
theorem of_describes
    {shift mantissa : Nat}
    {accuracy : Accuracy}
    {number : ℚ}
    (described : Describes mantissa accuracy number)
    (short : mantissa < 2 ^ 53)
    (full : 2 ^ 52 ≤ mantissa ∨ shift = 0) :
    Nearest (number * 2 ^ ((shift : ℤ) - 1074))
      (shift * 2 ^ 52 + accuracy.roundToNearestEven mantissa : Nat) := by
  set unit : ℚ := 2 ^ ((shift : ℤ) - 1074)
  have unitPos : 0 < unit := zpow_pos (by decide) _
  have here : rankValue (shift * 2 ^ 52 + mantissa : Nat) = mantissa * unit :=
    rankValue_of_parts short.le full
  have next : rankValue ((shift * 2 ^ 52 + mantissa : Nat) + 1) =
      (mantissa + 1) * unit := by
    have nextParts :
        rankValue (shift * 2 ^ 52 + (mantissa + 1) : Nat) =
          (mantissa + 1 : Nat) * unit :=
      rankValue_of_parts (Nat.succ_le_of_lt short)
        (full.imp_left Nat.le_succ_of_le)
    rw [← Nat.add_assoc] at nextParts
    push_cast at nextParts ⊢
    exact nextParts
  have middle : halfway (shift * 2 ^ 52 + mantissa : Nat) =
      (mantissa + 1 / 2) * unit := by
    rw [halfway, here, next]
    ring
  have parity : Even (((shift * 2 ^ 52 + mantissa : Nat) : ℤ)) ↔
      Even mantissa := by
    rw [Int.even_coe_nat, Nat.even_add]
    have shifted : Even (shift * 2 ^ 52) :=
      (Nat.even_pow.mpr ⟨even_two, by decide⟩).mul_left shift
    exact ⟨fun same => same.mp shifted, fun even => iff_of_true shifted even⟩
  cases accuracy with
  | exact =>
      obtain rfl : number = mantissa := described
      rw [Accuracy.roundToNearestEven, ← here]
      exact .self _
  | inexact order =>
      cases order with
      | lt =>
          obtain ⟨above, below⟩ := described
          refine of_between ?_ ?_ ?_
          · rw [Accuracy.roundToNearestEven, here]
            exact mul_le_mul_of_nonneg_right above.le unitPos.le
          · rw [Accuracy.roundToNearestEven, middle]
            exact mul_le_mul_of_nonneg_right below.le unitPos.le
          · rw [Accuracy.roundToNearestEven, middle]
            intro same
            exact absurd same (mul_lt_mul_of_pos_right below unitPos).ne
      | eq =>
          obtain rfl : number = mantissa + 1 / 2 := described
          rw [← middle]
          rcases Nat.mod_two_eq_zero_or_one mantissa with isEven | isOdd
          · rw [Accuracy.roundToNearestEven, isEven, Nat.add_zero]
            exact of_between (rankValue_lt_halfway _).le le_rfl
              fun _ => parity.mpr (Nat.even_iff.mpr isEven)
          · rw [Accuracy.roundToNearestEven, isOdd, ← Nat.add_assoc,
              Nat.cast_succ]
            refine of_between_succ le_rfl ?_ fun _ => ?_
            · rw [middle, next]
              exact mul_le_mul_of_nonneg_right (by linarith) unitPos.le
            · rw [Int.even_add_one, parity, Nat.even_iff]
              omega
      | gt =>
          obtain ⟨above, below⟩ := described
          rw [Accuracy.roundToNearestEven, ← Nat.add_assoc, Nat.cast_succ]
          refine of_between_succ ?_ ?_ ?_
          · rw [middle]
            exact mul_le_mul_of_nonneg_right above.le unitPos.le
          · rw [next]
            exact mul_le_mul_of_nonneg_right below.le unitPos.le
          · rw [middle]
            intro same
            exact absurd same (mul_lt_mul_of_pos_right above unitPos).ne'

end Nearest

/-- A number with a sign. -/
def signed (sign : Sign) (number : ℚ) : ℚ :=
  match sign with
  | .negative => -number
  | .positive => number

theorem Nearest.signed
    {exact : ℚ}
    {rank : ℤ}
    (nearest : Nearest exact rank)
    (sign : Sign) :
    Nearest (signed sign exact) (sign.apply rank) := by
  cases sign with
  | negative => exact nearest.neg
  | positive => exact nearest

/--
Parts into which a number has been rounded, as far as its exponent may reach.
-/
structure RoundedParts (exact : ℚ) (parts : UnpackedFloat) : Prop where
  packable : Packable parts
  isNumber : parts ≠ .notANumber
  nearest : Nearest exact (unpackedRank parts)

theorem targetExponent_eq (mantissa : Nat) (exponent : ℤ) :
    Format.binary64.targetExponent
      (Float.Model.totalExponent mantissa exponent) =
      max (mantissa.log2 + exponent - 52) (-1074) := by
  change max (((mantissa.log2 : Nat) : ℤ) + 1 + exponent - 53) (-1074) = _
  omega

theorem shiftToTargetExponent_eq
    {mantissa : Nat}
    {exponent : ℤ}
    (accuracy : Accuracy)
    (count : Nat)
    (isCount : exponent + count = max (mantissa.log2 + exponent - 52) (-1074)) :
    shiftToTargetExponent Format.binary64 mantissa exponent accuracy =
      (ExtendedMantissa.ofMantissaAndAccuracy mantissa accuracy >>> count,
        exponent + count) := by
  have shiftAmount :
      (Format.binary64.targetExponent
        (Float.Model.totalExponent mantissa exponent) -
        exponent).toNat = count := by
    rw [targetExponent_eq]
    omega
  simp only [shiftToTargetExponent, shiftToExponent, shiftAmount]

/-- A mantissa that rounding has made one bit too long is shifted once more. -/
theorem canonical_shiftToTargetExponent
    {mantissa : Nat}
    {exponent : ℤ}
    (fits : mantissa ≤ 2 ^ 53)
    (least : -1074 ≤ exponent)
    (full : 2 ^ 52 ≤ mantissa ∨ exponent = -1074) :
    let shifted :=
      shiftToTargetExponent Format.binary64 mantissa exponent .exact
    Canonical shifted.1.mantissa shifted.2 ∧
      rankOfParts shifted.1.mantissa shifted.2 =
        rankOfParts mantissa exponent := by
  by_cases short : mantissa < 2 ^ 53
  · have canonical : Canonical mantissa exponent := ⟨short, least, full⟩
    have isLog : mantissa.log2 ≤ 52 := by
      by_cases isZero : mantissa = 0
      · simp [isZero]
      · exact Nat.le_of_lt_succ ((Nat.log2_lt isZero).mpr short)
    have fullLog := canonical.log2_eq
    rw [shiftToTargetExponent_eq .exact 0 (by push_cast; omega)]
    simp only [mantissa_shift, mantissa_ofMantissaAndAccuracy, pow_zero,
      Nat.div_one, Nat.cast_zero, add_zero]
    exact ⟨canonical, trivial⟩
  · obtain rfl : mantissa = 2 ^ 53 := by omega
    have isLog : (2 ^ 53).log2 = 53 := Nat.log2_two_pow
    rw [shiftToTargetExponent_eq .exact 1 (by rw [isLog]; push_cast; omega)]
    simp only [mantissa_shift, mantissa_ofMantissaAndAccuracy]
    refine ⟨⟨by decide, by omega, .inl (by decide)⟩, ?_⟩
    simp only [rankOfParts]
    push_cast
    ring

theorem roundToNearestEven_le (mantissa : Nat) (accuracy : Accuracy) :
    mantissa ≤ accuracy.roundToNearestEven mantissa ∧
      accuracy.roundToNearestEven mantissa ≤ mantissa + 1 := by
  cases accuracy with
  | exact =>
      exact ⟨le_rfl, Nat.le_succ mantissa⟩
  | inexact order =>
      cases order <;> simp only [Accuracy.roundToNearestEven] <;> omega

theorem roundedParts_roundWithAccuracy
    {mantissa : Nat}
    {exponent : ℤ}
    {accuracy : Accuracy}
    {number : ℚ}
    (described : Describes mantissa accuracy number)
    (small : exponent ≤ max (mantissa.log2 + exponent - 52) (-1074))
    (sign : Sign) :
    RoundedParts (signed sign (number * 2 ^ exponent))
      (roundWithAccuracy Format.binary64 sign mantissa exponent accuracy) := by
  obtain ⟨count, isCount⟩ := Int.le.dest small
  have shifted := shiftToTargetExponent_eq accuracy count isCount
  set extended := ExtendedMantissa.ofMantissaAndAccuracy mantissa accuracy >>>
    count with isExtended
  have whole : extended.mantissa = mantissa / 2 ^ count := by
    rw [isExtended, mantissa_shift, mantissa_ofMantissaAndAccuracy]
  have described' :
      Describes extended.mantissa extended.accuracy (number / 2 ^ count) :=
    (describes_ofMantissaAndAccuracy described).shift count
  have short : extended.mantissa < 2 ^ 53 := by
    rw [whole, Nat.div_lt_iff_lt_mul (Nat.two_pow_pos _), ← pow_add]
    exact Nat.lt_log2_self.trans_le
      (Nat.pow_le_pow_right (by decide) (by omega))
  have full : 2 ^ 52 ≤ extended.mantissa ∨ exponent + count = -1074 := by
    by_cases isLeast : exponent + count = -1074
    · exact .inr isLeast
    · refine .inl ?_
      have isLog : count + 52 = mantissa.log2 := by omega
      rw [whole, Nat.le_div_iff_mul_le (Nat.two_pow_pos _), ← pow_add,
        Nat.add_comm, isLog]
      exact Nat.log2_self_le (by rintro rfl; simp at isLog)
  have least : -1074 ≤ exponent + count := by omega
  obtain ⟨shift, isShift⟩ :=
    Int.eq_ofNat_of_zero_le (by omega : 0 ≤ exponent + count + 1074)
  have isExponent : exponent + count = (shift : ℤ) - 1074 := by
    omega
  have sameNumber : number / 2 ^ count * 2 ^ ((shift : ℤ) - 1074) =
      number * 2 ^ exponent := by
    rw [← isExponent, zpow_add₀ two_ne_zero, zpow_natCast]
    field_simp
  have nearest :
      Nearest (number / 2 ^ count * 2 ^ ((shift : ℤ) - 1074))
        (shift * 2 ^ 52 + extended.roundedMantissa : Nat) :=
    .of_describes described' short (by omega)
  have range := roundToNearestEven_le extended.mantissa extended.accuracy
  have roundedFits : extended.roundedMantissa ≤ 2 ^ 53 := range.2.trans short
  obtain ⟨canonical, sameRank⟩ :=
    canonical_shiftToTargetExponent roundedFits least
      (full.imp_left fun isFull => isFull.trans range.1)
  have isRank : ((shift * 2 ^ 52 + extended.roundedMantissa : Nat) : ℤ) =
      rankOfParts extended.roundedMantissa (exponent + count) := by
    rw [rankOfParts, isShift]
    push_cast
    rfl
  rw [sameNumber, isRank, ← sameRank] at nearest
  simp only [roundWithAccuracy, shifted]
  split
  case isTrue isZero =>
    have isRankZero := canonical.rankOfParts_eq_zero isZero
    have nearestZero := nearest.signed sign
    rw [isRankZero] at nearestZero
    refine ⟨trivial, UnpackedFloat.noConfusion, ?_⟩
    cases sign <;> exact nearestZero
  case isFalse notZero =>
    exact ⟨canonical, UnpackedFloat.noConfusion, nearest.signed sign⟩

theorem log2_shiftLeft
    {mantissa : Nat}
    (positive : 0 < mantissa)
    (count : Nat) :
    (mantissa <<< count).log2 = mantissa.log2 + count := by
  have shiftedPos : 0 < mantissa <<< count := by
    rw [Nat.shiftLeft_eq]
    positivity
  rw [Nat.log2_eq_iff shiftedPos.ne', Nat.shiftLeft_eq, Nat.pow_add,
    Nat.add_right_comm, Nat.pow_add 2 (mantissa.log2 + 1)]
  exact ⟨Nat.mul_le_mul_right _ (Nat.log2_self_le positive.ne'),
    Nat.mul_lt_mul_of_pos_right Nat.lt_log2_self (Nat.two_pow_pos count)⟩

/-- A lower exponent makes the mantissa longer and keeps the number. -/
theorem shiftLeft_mul_zpow (mantissa count : Nat) (exponent : ℤ) :
    ((mantissa <<< count : Nat) : ℚ) * 2 ^ (exponent - count) =
      mantissa * 2 ^ exponent := by
  rw [Nat.shiftLeft_eq, zpow_sub₀ two_ne_zero, zpow_natCast]
  push_cast
  field_simp

theorem roundedParts_round
    {mantissa : Nat}
    (positive : 0 < mantissa)
    (exponent : ℤ)
    (sign : Sign) :
    RoundedParts (signed sign (mantissa * 2 ^ exponent))
      (UnpackedFloat.round Format.binary64 sign mantissa exponent) := by
  unfold UnpackedFloat.round decreaseExponent
  rw [targetExponent_eq]
  simp only
  set count :=
    (exponent - max (mantissa.log2 + exponent - 52) (-1074)).toNat with isCount
  rw [← shiftLeft_mul_zpow mantissa count exponent]
  refine roundedParts_roundWithAccuracy (describes_exact _) ?_ sign
  rw [log2_shiftLeft positive]
  push_cast
  omega

/-- A whole number of units is rounded with its sign. -/
theorem roundedParts_normalize (mantissa exponent : ℤ) (zeroSign : Sign) :
    RoundedParts (mantissa * 2 ^ exponent)
      (UnpackedFloat.normalize Format.binary64 mantissa exponent zeroSign) := by
  unfold UnpackedFloat.normalize
  rcases lt_trichotomy mantissa 0 with negative | rfl | positive
  · obtain ⟨magnitude, rfl⟩ := Int.exists_eq_neg_ofNat negative.le
    rw [compare_lt_iff_lt.mpr negative]
    have positive : 0 < magnitude := by omega
    have rounded := roundedParts_round positive exponent .negative
    simpa [signed] using rounded
  · rw [compare_eq_iff_eq.mpr rfl, Int.cast_zero, zero_mul]
    have nearest := Nearest.self 0
    rw [rankValue_zero] at nearest
    exact ⟨trivial, nofun, nearest⟩
  · obtain ⟨magnitude, rfl⟩ := Int.eq_ofNat_of_zero_le positive.le
    rw [compare_gt_iff_gt.mpr positive]
    exact_mod_cast roundedParts_round (Int.natCast_pos.mp positive)
      exponent .positive

end Storyboard.Number
