import Mathlib
import Storyboard.Proofs.Number.Gaps

namespace Storyboard.Number

/-!
# Rounded middles

The middle of two doubles is rounded twice, as a sum and as its half.  Half of a
rounded sum is not above the sum itself.  The middle of a double and a larger
whole number is above the double, even if no other double lies between the two:
their sum is then the halfway point of the doubled ends, and it is rounded to
the even one, which is the whole number's.
-/

/-- Every double of at least one can be halved without rounding. -/
theorem exists_rank_half
    {rank : ℤ}
    (large : 1 ≤ rankValue rank) :
    ∃ half : ℤ,
      rankValue half = rankValue rank / 2 := by
  have positive : 0 < rank := by
    rw [← rankValue_strictMono.lt_iff_lt, rankValue_zero]
    linarith
  obtain ⟨pattern, rfl⟩ := Int.eq_ofNat_of_zero_le positive.le
  obtain ⟨shift, mantissa, rfl, fits, full⟩ := exists_parts pattern
  rw [rankValue_of_parts fits.le full] at large ⊢
  cases shift with
  | zero =>
      have short : (mantissa : ℚ) ≤ 2 ^ (53 : ℤ) := by exact_mod_cast fits.le
      have tiny : (mantissa : ℚ) * 2 ^ (((0 : Nat) : ℤ) - 1074) < 1 := by
        calc
          (mantissa : ℚ) * 2 ^ (((0 : Nat) : ℤ) - 1074) ≤
              2 ^ (53 : ℤ) * 2 ^ (((0 : Nat) : ℤ) - 1074) := by
            gcongr
          _ = 2 ^ (-1021 : ℤ) := by
            rw [← zpow_add₀ two_ne_zero, Nat.cast_zero]
            norm_num
          _ < 1 :=
            zpow_lt_one_of_neg₀ (by norm_num) (by norm_num)
      exact absurd large tiny.not_ge
  | succ shift =>
      have isFull : 2 ^ 52 ≤ mantissa := full.resolve_right (by omega)
      refine ⟨(shift * 2 ^ 52 + mantissa : Nat), ?_⟩
      have next :
          ((shift + 1 : Nat) : ℤ) - 1074 = (shift : ℤ) - 1074 + 1 := by
        push_cast
        ring
      rw [rankValue_of_parts fits.le (.inl isFull), next,
        zpow_add_one₀ two_ne_zero, ← mul_assoc,
        mul_div_cancel_right₀ _ two_ne_zero]

/--
Half of what a sum is rounded to is not above the sum.  It could only be if the
sum was rounded to the least positive double, half of which is rounded to zero.
-/
theorem Nearest.half_le
    {sum upper : ℚ}
    {sumRank halfRank : ℤ}
    (sumNearest : Nearest sum sumRank)
    (notNegative : 0 ≤ sum)
    (atMost : upper ≤ rankValue sumRank)
    (halfNearest : Nearest (upper / 2) halfRank) :
    rankValue halfRank ≤ sum := by
  by_contra beyond
  rw [not_le] at beyond
  have positive : 0 < halfRank := by
    rw [← rankValue_strictMono.lt_iff_lt, rankValue_zero]
    exact notNegative.trans_lt beyond
  have notAbove : rankValue sumRank ≤ rankValue halfRank :=
    rankValue_strictMono.monotone (sumNearest.rank_le beyond.le)
  have twoRanks : rankValue (halfRank - 1) + rankValue halfRank ≤ upper := by
    have reached := halfNearest.halfway_le
    rw [halfway, sub_add_cancel] at reached
    linarith
  have isLeast : halfRank = 1 := by
    have noneBefore : halfRank - 1 ≤ 0 := by
      rw [← rankValue_strictMono.le_iff_le, rankValue_zero]
      linarith
    omega
  subst isLeast
  rw [sub_self, rankValue_zero, zero_add] at twoRanks
  have onHalfway : upper / 2 = halfway (1 - 1) := by
    rw [halfway, sub_add_cancel, sub_self, rankValue_zero, zero_add]
    linarith
  exact absurd (halfNearest.even_of_eq (.inl onHalfway)) (by decide)

namespace Rounds

variable
  {exact sum : ℚ}
  {result bound rounded upper half : Float}

/-- Rounding does not leave the doubles up to a size. -/
theorem abs_value_le_rankValue
    (rounds : Rounds exact result)
    {rank : ℤ}
    (notLarge : |rank| ≤ infinityPattern)
    (small : |exact| ≤ rankValue rank) :
    |value result| ≤ rankValue rank := by
  obtain ⟨lower, upper⟩ := abs_le.mp small
  obtain ⟨notBelow, notAbove⟩ := abs_le.mp notLarge
  have fromBelow : rankValue (-rank) ≤ value result :=
    rounds.rankValue_le (by omega) (by rwa [rankValue_neg])
  rw [rankValue_neg] at fromBelow
  exact abs_le.mpr ⟨fromBelow, rounds.le_rankValue notBelow upper⟩

theorem abs_value_le
    (rounds : Rounds exact result)
    (number : bound.isNaN = false)
    (small : |exact| ≤ value bound) :
    |value result| ≤ value bound :=
  rounds.abs_value_le_rankValue (isNaN_eq_false_iff.mp number) small

/-- What is less than halfway beyond a double is not rounded beyond it. -/
theorem le_of_lt_halfway
    (rounds : Rounds exact result)
    (number : bound.isNaN = false)
    (near : exact < halfway (rank bound)) :
    result ≤ bound := by
  obtain ⟨nearest, isNearest, isRank⟩ := rounds.exists_nearest
  have less := halfway_strictMono.lt_iff_lt.mp
    (isNearest.halfway_le.trans_lt near)
  have bounded := abs_le.mp (isNaN_eq_false_iff.mp number)
  refine le_iff.mpr ⟨rounds.isNumber, number, ?_⟩
  rw [isRank, clamp]
  omega

/--
The middle between zero and what a sum is rounded to is not above the sum.
-/
theorem half_le
    (sumRounds : Rounds sum rounded)
    (halfRounds : Rounds (value upper / 2) half)
    (notNegative : 0 ≤ sum)
    (upperNotNegative : 0 ≤ value upper)
    (atMost : value upper ≤ value rounded) :
    value half ≤ sum := by
  obtain ⟨sumRank, sumNearest, isSumRank⟩ := sumRounds.exists_nearest
  obtain ⟨halfRank, halfNearest, isHalfRank⟩ := halfRounds.exists_nearest
  have sumRankNotNegative : 0 ≤ sumRank :=
    sumNearest.le_rank (by rwa [rankValue_zero])
  have halfRankNotNegative : 0 ≤ halfRank :=
    halfNearest.le_rank (by rw [rankValue_zero]; linarith)
  have sumCut : value rounded ≤ rankValue sumRank := by
    rw [value, isSumRank, rankValue_strictMono.le_iff_le, clamp]
    omega
  have halfCut : value half ≤ rankValue halfRank := by
    rw [value, isHalfRank, rankValue_strictMono.le_iff_le, clamp]
    omega
  exact halfCut.trans
    (sumNearest.half_le notNegative (atMost.trans sumCut) halfNearest)

end Rounds

section Middle

variable
  {side : Nat}
  {first last : Float}

theorem finite_of_lt_whole
    (short : side < 2 ^ 32)
    (isWhole : value last = side)
    (notNegative : 0 ≤ first)
    (less : first < last) :
    first.isFinite = true ∧ last.isFinite = true := by
  have sideSmall : (side : ℚ) < 2 ^ 32 := by exact_mod_cast short
  have lastFinite : last.isFinite = true := by
    refine isFinite_of_abs_value_le ?_
    rw [isWhole, abs_of_nonneg (Nat.cast_nonneg side)]
    linarith
  have zeroFinite : (0 : Float).isFinite = true := (value_ofNat (by decide)).2
  exact ⟨isFinite_of_between notNegative (Number.le_of_lt less) zeroFinite
    lastFinite, lastFinite⟩

/--
Twice a double that is less than a whole number is passed by the sum of both.
If that sum is the halfway point, it is rounded to twice the whole number.
-/
theorem two_mul_value_lt_value_add
    (short : side < 2 ^ 32)
    (isWhole : value last = side)
    (notNegative : 0 ≤ first)
    (less : first < last) :
    2 * value first < value (first + last) := by
  have lessValue := value_lt_of_lt less
  have firstNotNegative := value_nonneg notNegative
  have twiceShort : 2 * side < 2 ^ 52 := by omega
  obtain ⟨firstFinite, lastFinite⟩ :=
    finite_of_lt_whole short isWhole notNegative less
  obtain ⟨twiceFirst, isTwiceFirst⟩ := exists_rank_two_mul (rank first)
  change rankValue twiceFirst = 2 * value first at isTwiceFirst
  obtain ⟨isTwiceLast, twiceFinite⟩ :=
    value_ofNat (twiceShort.trans (by decide))
  have twiceEven := even_rank_ofNat twiceShort
  set twiceLast := rank (Float.ofNat (2 * side))
  change rankValue twiceLast = _ at isTwiceLast
  rw [Nat.cast_mul, Nat.cast_ofNat] at isTwiceLast
  have apart : twiceFirst < twiceLast := by
    rw [← rankValue_strictMono.lt_iff_lt]
    linarith
  have twiceBounded : twiceLast < infinityPattern :=
    (abs_lt.mp (isFinite_iff.mp twiceFinite)).2
  have sum := rounds_add firstFinite lastFinite
  rw [isWhole] at sum lessValue
  obtain ⟨nearest, isNearest, isRank⟩ := sum.exists_nearest
  have passes : twiceFirst < nearest := by
    by_contra notPassed
    rw [not_lt] at notPassed
    have fromAbove := isNearest.le_halfway
    have ordered : halfway nearest ≤ halfway twiceFirst :=
      halfway_strictMono.monotone notPassed
    have nextValue : rankValue (twiceFirst + 1) ≤ rankValue twiceLast :=
      rankValue_strictMono.monotone apart
    have isMiddle : halfway twiceFirst ≤ value first + side := by
      unfold halfway
      linarith
    have isNearestRank : nearest = twiceFirst :=
      halfway_strictMono.injective
        (le_antisymm ordered (isMiddle.trans fromAbove))
    subst isNearestRank
    have isNext : nearest + 1 = twiceLast := by
      refine rankValue_strictMono.injective (le_antisymm nextValue ?_)
      unfold halfway at fromAbove
      linarith
    have nearestEven : Even nearest :=
      isNearest.even_of_eq (.inr (le_antisymm fromAbove isMiddle))
    rw [← isNext, Int.even_add_one] at twiceEven
    exact twiceEven nearestEven
  have rankNotNegative : 0 ≤ twiceFirst := by
    rw [← rankValue_strictMono.le_iff_le, rankValue_zero, isTwiceFirst]
    linarith
  rw [← isTwiceFirst, value, rankValue_strictMono.lt_iff_lt, isRank, clamp]
  omega

/-- The middle of a double and a larger whole number lies above the double. -/
theorem lt_middle
    (short : side < 2 ^ 32)
    (isWhole : value last = side)
    (notNegative : 0 ≤ first)
    (less : first < last) :
    first < (first + last) / 2 := by
  have passes := two_mul_value_lt_value_add short isWhole notNegative less
  have lessValue := value_lt_of_lt less
  have firstNotNegative := value_nonneg notNegative
  have sideSmall : (side : ℚ) < 2 ^ 32 := by exact_mod_cast short
  obtain ⟨firstFinite, lastFinite⟩ :=
    finite_of_lt_whole short isWhole notNegative less
  have sum := rounds_add firstFinite lastFinite
  rw [isWhole] at sum lessValue
  have twiceShort : 2 * side < 2 ^ 53 := by omega
  have bounded : |value (first + last)| ≤ value (Float.ofNat (2 * side)) := by
    refine sum.abs_value_le (isNaN_ofNat twiceShort) ?_
    rw [(value_ofNat twiceShort).1, Nat.cast_mul, Nat.cast_ofNat,
      abs_of_nonneg (by linarith)]
    linarith
  rw [(value_ofNat twiceShort).1, Nat.cast_mul, Nat.cast_ofNat] at bounded
  have sumFinite : (first + last).isFinite = true :=
    isFinite_of_abs_value_le (bounded.trans (by linarith))
  have large : 1 ≤ value (first + last) := by
    have atLeastOne : (1 : ℚ) ≤ side := by
      have positive : (0 : ℚ) < side := firstNotNegative.trans_lt lessValue
      exact_mod_cast Nat.succ_le_of_lt (Nat.cast_pos.mp positive)
    have notBelow := value_le_of_le
      (sum.le_of_value_le (isNaN_eq_false_of_isFinite lastFinite)
        (by linarith))
    linarith
  obtain ⟨half, isHalf⟩ := exists_rank_half large
  have rounds := rounds_half sumFinite
  have halfBounded : half ≤ infinityPattern := by
    refine le_trans ?_ (abs_lt.mp (isFinite_iff.mp sumFinite)).2.le
    rw [← rankValue_strictMono.le_iff_le, isHalf]
    change value (first + last) / 2 ≤ value (first + last)
    linarith
  have exact := rounds.rankValue_le halfBounded isHalf.le
  rw [isHalf] at exact
  refine lt_iff_value_lt.mpr
    ⟨isNaN_eq_false_of_isFinite firstFinite, rounds.isNumber, ?_⟩
  change value (first + last) / 2 ≤ _ at exact
  linarith

/--
The middle of two doubles on a side is rounded with two errors, the first one
halved.
-/
theorem middle_sub_le
    {error : ℚ}
    (short : side < 2 ^ 32)
    (bounded : RoundingError (2 * side : Nat) error)
    (notNegative : 0 ≤ first)
    (ordered : first ≤ last)
    (onSide : last ≤ Float.ofNat side) :
    |value ((first + last) / 2) - (value first + value last) / 2| ≤
      3 / 2 * error := by
  have isWord : side < 2 ^ 53 := by omega
  obtain ⟨firstLower, firstUpper, firstFinite⟩ :=
    value_between_natCast isWord notNegative (Number.le_trans ordered onSide)
  obtain ⟨lastLower, lastUpper, lastFinite⟩ :=
    value_between_natCast isWord (Number.le_trans notNegative ordered) onSide
  have sideSmall : (side : ℚ) < 2 ^ 32 := by exact_mod_cast short
  have errorSmall := bounded.mul_le
  have errorPositive := bounded.nonneg
  push_cast at errorSmall
  have sum := rounds_add firstFinite lastFinite
  have sumSize : |value first + value last| ≤ (2 * side : Nat) := by
    push_cast
    rw [abs_of_nonneg (by linarith)]
    linarith
  have sumNear := bounded.abs_sub_le sum sumSize
  have sumSmall := abs_le_of_abs_sub_le sumSize sumNear
  push_cast at sumSmall
  have sumFinite : (first + last).isFinite = true :=
    isFinite_of_abs_value_le (sumSmall.trans (by linarith))
  have halfSize : |value (first + last) / 2| ≤ (2 * side : Nat) := by
    push_cast
    rw [abs_div, abs_two]
    linarith
  have halfNear := bounded.abs_sub_le (rounds_half sumFinite) halfSize
  rw [abs_le] at sumNear halfNear ⊢
  constructor <;> linarith

end Middle

end Storyboard.Number
