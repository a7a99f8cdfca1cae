import Mathlib
import Storyboard.Proofs.Number.Arithmetic
import Storyboard.Proofs.Number.Order

namespace Storyboard.Number

/-!
# The values of doubles

What a double stands for is never changed by arithmetic that need not round.
Bounds on an exact result are bounds on the rounded one if they are doubles
themselves, and whole numbers of up to 53 bits are.
-/

namespace Rounds

variable
  {exact otherExact : ℚ}
  {result other bound : Float}

/-- Arithmetic keeps the order of exact results. -/
theorem mono
    (rounds : Rounds exact result)
    (otherRounds : Rounds otherExact other)
    (ordered : exact ≤ otherExact) :
    result ≤ other := by
  obtain ⟨nearest, isNearest, isRank⟩ := rounds.exists_nearest
  obtain ⟨otherNearest, isOtherNearest, isOtherRank⟩ :=
    otherRounds.exists_nearest
  refine le_iff.mpr ⟨rounds.isNumber, otherRounds.isNumber, ?_⟩
  rw [isRank, isOtherRank]
  exact clamp_mono (isNearest.mono isOtherNearest ordered)

/-- A double is the nearest one to its value. -/
theorem self (number : result.isNaN = false) : Rounds (value result) result :=
  ⟨number, rank result, .self _,
    (clamp_eq_self (isNaN_eq_false_iff.mp number)).symm⟩

theorem le_of_le_value
    (rounds : Rounds exact result)
    (number : bound.isNaN = false)
    (atMost : exact ≤ value bound) :
    result ≤ bound :=
  rounds.mono (self number) atMost

theorem le_of_value_le
    (rounds : Rounds exact result)
    (number : bound.isNaN = false)
    (atLeast : value bound ≤ exact) :
    bound ≤ result :=
  (self number).mono rounds atLeast

/-- A result that is a double is not rounded. -/
theorem value_eq
    (rounds : Rounds (value bound) result)
    (number : bound.isNaN = false) :
    value result = value bound :=
  le_antisymm (le_iff_value_le.mp (rounds.le_of_le_value number le_rfl)).2.2
    (le_iff_value_le.mp (rounds.le_of_value_le number le_rfl)).2.2

/-- A lower bound that has a rank is not passed by rounding. -/
theorem rankValue_le
    (rounds : Rounds exact result)
    {rank : ℤ}
    (finite : rank ≤ infinityPattern)
    (atLeast : rankValue rank ≤ exact) :
    rankValue rank ≤ value result := by
  obtain ⟨nearest, isNearest, isRank⟩ := rounds.exists_nearest
  have notBelow : rank ≤ nearest := isNearest.le_rank atLeast
  rw [value, isRank, rankValue_strictMono.le_iff_le, clamp]
  omega

theorem le_rankValue
    (rounds : Rounds exact result)
    {rank : ℤ}
    (finite : -infinityPattern ≤ rank)
    (atMost : exact ≤ rankValue rank) :
    value result ≤ rankValue rank := by
  obtain ⟨nearest, isNearest, isRank⟩ := rounds.exists_nearest
  have notAbove : nearest ≤ rank := isNearest.rank_le atMost
  rw [value, isRank, rankValue_strictMono.le_iff_le, clamp]
  omega

/--
Below the largest doubles, rounding changes a number by at most half a unit.
-/
theorem abs_sub_le
    (rounds : Rounds exact result)
    {shift : Nat}
    (finite : shift ≤ 2045)
    (inShift : |exact| ≤ 2 ^ 53 * 2 ^ ((shift : ℤ) - 1074)) :
    |value result - exact| ≤ 2 ^ ((shift : ℤ) - 1074) / 2 := by
  obtain ⟨nearest, isNearest, isRank⟩ := rounds.exists_nearest
  have inBounds := inShift
  rw [← rankValue_shiftEnd, abs_le, ← rankValue_neg] at inBounds
  have lower := isNearest.le_rank inBounds.1
  have upper := isNearest.rank_le inBounds.2
  have isSelf : clamp nearest = nearest := by
    refine clamp_eq_self ?_
    rw [abs_le, infinityPattern_eq]
    unfold shiftEnd at lower upper
    omega
  rw [value, isRank, isSelf]
  exact isNearest.abs_sub_le inShift

end Rounds

theorem rankValue_infinityPattern : rankValue infinityPattern = 2 ^ 1024 := by
  have isEnd : infinityPattern = shiftEnd 2045 := rfl
  rw [isEnd, rankValue_shiftEnd, ← zpow_natCast, ← zpow_natCast,
    ← zpow_add₀ two_ne_zero]
  norm_num

/-- A double is finite if it stands for a number below that of infinity. -/
theorem isFinite_iff_abs_value {double : Float} :
    double.isFinite = true ↔ |value double| < rankValue infinityPattern := by
  rw [isFinite_iff, abs_lt, abs_lt, ← rankValue_neg, value,
    rankValue_strictMono.lt_iff_lt, rankValue_strictMono.lt_iff_lt]

/-- Twice a double is one again, unless it is too large. -/
theorem exists_rank_two_mul (rank : ℤ) :
    ∃ twice : ℤ, rankValue twice = 2 * rankValue rank := by
  have natural (pattern : Nat) : ∃ twice : Nat,
      rankValue twice = 2 * rankValue pattern := by
    obtain ⟨shift, mantissa, rfl, fits, full⟩ := exists_parts pattern
    rw [rankValue_of_parts fits.le full]
    by_cases isFull : 2 ^ 52 ≤ mantissa
    · refine ⟨(shift + 1) * 2 ^ 52 + mantissa, ?_⟩
      have next :
          ((shift + 1 : Nat) : ℤ) - 1074 = 1 + ((shift : ℤ) - 1074) := by
        push_cast
        ring
      rw [rankValue_of_parts fits.le (.inl isFull), next, zpow_add₀ two_ne_zero,
        zpow_one]
      ring
    · obtain rfl : shift = 0 := full.resolve_left isFull
      refine ⟨0 * 2 ^ 52 + 2 * mantissa, ?_⟩
      rw [rankValue_of_parts (by omega) (.inr rfl), Nat.cast_mul,
        Nat.cast_ofNat, mul_assoc]
  obtain ⟨pattern, rfl | rfl⟩ := Int.eq_nat_or_neg rank
  · obtain ⟨twice, isTwice⟩ := natural pattern
    exact ⟨twice, isTwice⟩
  · obtain ⟨twice, isTwice⟩ := natural pattern
    exact ⟨-twice, by rw [rankValue_neg, rankValue_neg, isTwice, mul_neg]⟩

/-! Whole numbers of up to 53 bits are doubles. -/

theorem exists_rank_natCast
    {number : Nat}
    (short : number < 2 ^ 53) :
    ∃ rank : ℤ, |rank| < infinityPattern ∧ rankValue rank = number := by
  rcases Nat.eq_zero_or_pos number with rfl | positive
  · refine ⟨0, ?_, by simp⟩
    rw [infinityPattern_eq]
    decide
  · have length : number.log2 < 53 := (Nat.log2_lt positive.ne').mpr short
    obtain ⟨count, isCount⟩ :=
      Nat.exists_eq_add_of_le (Nat.le_of_lt_succ length)
    have canonical : Canonical (number <<< count) (0 - count) := by
      have isLog : (number <<< count).log2 = 52 := by
        rw [log2_shiftLeft positive, isCount]
      have notZero : number <<< count ≠ 0 := by
        rw [Nat.shiftLeft_eq]
        positivity
      obtain ⟨full, fits⟩ := (Nat.log2_eq_iff notZero).mp isLog
      exact ⟨fits, by omega, .inl full⟩
    refine ⟨rankOfParts (number <<< count) (0 - count), ?_, ?_⟩
    · rw [abs_of_nonneg canonical.rankOfParts_nonneg]
      exact canonical.rankOfParts_lt_infinity_iff.mpr (by omega)
    · rw [rankValue_rankOfParts canonical, shiftLeft_mul_zpow, zpow_zero,
        mul_one]

theorem Rounds.value_eq_natCast
    {number : Nat}
    (short : number < 2 ^ 53)
    {result : Float}
    (rounds : Rounds number result) :
    value result = number ∧ result.isFinite = true := by
  obtain ⟨known, bounded, isNumber⟩ := exists_rank_natCast short
  obtain ⟨nearest, isNearest, isRank⟩ := rounds.exists_nearest
  rw [← isNumber] at isNearest
  have isKnown : rank result = known := by
    rw [isRank, isNearest.unique (.self known), clamp_eq_self bounded.le]
  exact ⟨by rw [value, isKnown, isNumber], isFinite_iff.mpr (isKnown ▸ bounded)⟩

theorem rounds_toFloat (number : UInt64) :
    Rounds number.toNat number.toFloat := by
  have rounded := (roundedParts_normalize number.toNat 0 .positive).packed
  rw [zpow_zero, mul_one] at rounded
  exact_mod_cast rounded

/-- A whole number is written as a product with one. -/
theorem ofNat_eq
    {number : Nat}
    (short : number < 2 ^ 53) :
    Float.ofNat number = number.toUInt64.toFloat * (1 : UInt64).toFloat := by
  have fast : number < 2 ^ 53 ∧ 0 ≤ 22 := ⟨short, by decide⟩
  have one : Float.ofBits 0x3FF0000000000000 = (1 : UInt64).toFloat := by
    decide +kernel
  change Float.ofScientific number false 0 = _
  rw [Float.ofScientific, dif_pos fast, if_neg (by decide), ← one]
  rfl

theorem value_ofNat
    {number : Nat}
    (short : number < 2 ^ 53) :
    value (Float.ofNat number) = number ∧
      (Float.ofNat number).isFinite = true := by
  have isWord : number.toUInt64.toNat = number :=
    UInt64.toNat_ofNat_of_lt' (by change number < 2 ^ 64; omega)
  have whole := rounds_toFloat number.toUInt64
  rw [isWord] at whole
  obtain ⟨isNumber, finite⟩ := whole.value_eq_natCast short
  obtain ⟨isOne, oneFinite⟩ := (rounds_toFloat 1).value_eq_natCast (by decide)
  have product := rounds_mul finite oneFinite
  rw [isNumber, isOne, UInt64.toNat_one, Nat.cast_one, mul_one] at product
  rw [ofNat_eq short]
  exact product.value_eq_natCast short

theorem value_zero : value 0 = 0 := by
  have zero := (value_ofNat (by decide : 0 < 2 ^ 53)).1
  exact_mod_cast zero

theorem value_nonneg
    {double : Float}
    (notNegative : 0 ≤ double) : 0 ≤ value double :=
  value_zero ▸ value_le_of_le notNegative

theorem value_pos {double : Float} (positive : 0 < double) : 0 < value double :=
  value_zero ▸ value_lt_of_lt positive

theorem isNaN_ofNat
    {number : Nat}
    (short : number < 2 ^ 53) :
    (Float.ofNat number).isNaN = false :=
  isNaN_eq_false_of_isFinite (value_ofNat short).2

theorem isNaN_zero : (0 : Float).isNaN = false :=
  isNaN_ofNat (by decide)

theorem rounds_half
    {double : Float}
    (finite : double.isFinite = true) :
    Rounds (value double / 2) (double / 2) := by
  obtain ⟨isTwo, twoFinite⟩ :
      value 2 = (2 : Nat) ∧ (2 : Float).isFinite = true :=
    value_ofNat (by decide)
  have half := rounds_div finite twoFinite (by rw [isTwo]; norm_num)
  rwa [isTwo, Nat.cast_ofNat] at half

section Bounded

variable {first last double : Float}

theorem isFinite_of_between
    (lower : first ≤ double)
    (upper : double ≤ last)
    (firstFinite : first.isFinite = true)
    (lastFinite : last.isFinite = true) :
    double.isFinite = true := by
  rw [isFinite_iff_abs_value, abs_lt] at firstFinite lastFinite ⊢
  exact ⟨firstFinite.1.trans_le (value_le_of_le lower),
    (value_le_of_le upper).trans_lt lastFinite.2⟩

theorem value_between_natCast
    {bound : Nat}
    (short : bound < 2 ^ 53)
    (notNegative : 0 ≤ double)
    (atMost : double ≤ Float.ofNat bound) :
    0 ≤ value double ∧ value double ≤ bound ∧ double.isFinite = true := by
  obtain ⟨isBound, boundFinite⟩ := value_ofNat short
  have zeroFinite : (0 : Float).isFinite = true := (value_ofNat (by decide)).2
  exact ⟨value_nonneg notNegative, isBound ▸ value_le_of_le atMost,
    isFinite_of_between notNegative atMost zeroFinite boundFinite⟩

/--
The middle of an interval is computed inside it, if the sum of its ends is not
too large.
-/
theorem middle_between
    (ordered : first ≤ last)
    (firstSmall : |2 * value first| < rankValue infinityPattern)
    (lastSmall : |2 * value last| < rankValue infinityPattern) :
    first ≤ (first + last) / 2 ∧ (first + last) / 2 ≤ last := by
  have values := value_le_of_le ordered
  obtain ⟨twiceFirst, isTwiceFirst⟩ := exists_rank_two_mul (rank first)
  obtain ⟨twiceLast, isTwiceLast⟩ := exists_rank_two_mul (rank last)
  change rankValue twiceFirst = 2 * value first at isTwiceFirst
  change rankValue twiceLast = 2 * value last at isTwiceLast
  rw [abs_lt] at firstSmall lastSmall
  have firstFinite : first.isFinite = true := by
    rw [isFinite_iff_abs_value, abs_lt]
    constructor <;> linarith
  have lastFinite : last.isFinite = true := by
    rw [isFinite_iff_abs_value, abs_lt]
    constructor <;> linarith
  have sum := rounds_add firstFinite lastFinite
  have sumLower : rankValue twiceFirst ≤ value (first + last) := by
    refine sum.rankValue_le ?_ (by linarith)
    rw [← rankValue_strictMono.le_iff_le]
    linarith
  have sumUpper : value (first + last) ≤ rankValue twiceLast := by
    refine sum.le_rankValue ?_ (by linarith)
    rw [← rankValue_strictMono.le_iff_le, rankValue_neg]
    linarith
  have sumFinite : (first + last).isFinite = true := by
    rw [isFinite_iff_abs_value, abs_lt]
    constructor <;> linarith
  have half := rounds_half sumFinite
  exact ⟨half.le_of_value_le (isNaN_left_of_le ordered) (by linarith),
    half.le_of_le_value (isNaN_right_of_le ordered) (by linarith)⟩

end Bounded

/-! The largest doubles, and what is rounded to infinity. -/

/--
The least number that is rounded to infinity, half-way behind the largest
double.
-/
def overflowBound : ℚ :=
  2 ^ 1024 - 2 ^ 970

theorem rankValue_infinityPattern_sub_one :
    rankValue (infinityPattern - 1) = 2 ^ 1024 - 2 ^ 971 := by
  have isLast :
      (infinityPattern : ℤ) - 1 = (2045 * 2 ^ 52 + (2 ^ 53 - 1) : Nat) := by
    rw [infinityPattern_eq]
    rfl
  have power : (2 : ℚ) ^ 1024 = 2 ^ 53 * 2 ^ 971 := by rw [← pow_add]
  have exponent : ((2045 : Nat) : ℤ) - 1074 = (971 : Nat) := by norm_num
  rw [isLast, rankValue_of_parts (by decide) (.inl (by decide)), power,
    exponent, zpow_natCast, Nat.cast_sub (by decide)]
  generalize (2 : ℚ) ^ 971 = unit
  norm_num
  ring

theorem halfway_infinityPattern :
    halfway (infinityPattern - 1) = overflowBound := by
  have unit : (2 : ℚ) ^ 971 = 2 * 2 ^ 970 := pow_succ' 2 970
  have power : (2 : ℚ) ^ 1024 = 2 ^ 54 * 2 ^ 970 := by rw [← pow_add]
  rw [halfway, sub_add_cancel, rankValue_infinityPattern_sub_one,
    rankValue_infinityPattern, overflowBound, unit, power]
  generalize (2 : ℚ) ^ 970 = half
  ring

theorem Nearest.infinity_le_iff
    {exact : ℚ}
    {rank : ℤ}
    (nearest : Nearest exact rank) :
    infinityPattern ≤ rank ↔ overflowBound ≤ exact := by
  rw [← halfway_infinityPattern]
  constructor
  · intro large
    exact (halfway_strictMono.monotone (by omega)).trans nearest.halfway_le
  · intro large
    by_contra small
    have between : halfway rank ≤ halfway (infinityPattern - 1) :=
      halfway_strictMono.monotone (by omega)
    have isLast : rank = infinityPattern - 1 :=
      halfway_strictMono.injective
        (le_antisymm between (large.trans nearest.le_halfway))
    have even :=
      nearest.even_of_eq
        (.inr (le_antisymm nearest.le_halfway (isLast ▸ large)))
    rw [isLast, infinityPattern_eq] at even
    revert even
    decide

/--
A result is finite exactly if the number that it is rounded from is not too
large.
-/
theorem Rounds.isFinite_iff
    {exact : ℚ}
    {result : Float}
    (rounds : Rounds exact result) :
    result.isFinite = true ↔ |exact| < overflowBound := by
  obtain ⟨nearest, isNearest, isRank⟩ := rounds.exists_nearest
  have upper := not_congr isNearest.infinity_le_iff
  have lower := not_congr isNearest.neg.infinity_le_iff
  have positive : (0 : ℤ) < infinityPattern := by
    rw [infinityPattern_eq]
    decide
  rw [not_le, not_le] at upper lower
  rw [neg_lt, neg_lt (b := overflowBound)] at lower
  rw [Number.isFinite_iff, isRank, abs_lt, abs_lt, ← upper, ← lower, clamp]
  omega

theorem abs_value_le_of_isFinite
    {double : Float}
    (finite : double.isFinite = true) :
    |value double| ≤ 2 ^ 1024 - 2 ^ 971 := by
  rw [Number.isFinite_iff, abs_lt] at finite
  rw [← rankValue_infinityPattern_sub_one, abs_le, ← rankValue_neg, value,
    rankValue_strictMono.le_iff_le, rankValue_strictMono.le_iff_le]
  omega

theorem abs_value_lt_overflowBound
    {double : Float}
    (finite : double.isFinite = true) :
    |value double| < overflowBound := by
  have smaller : (2 : ℚ) ^ 970 < 2 ^ 971 :=
    pow_lt_pow_right₀ (by norm_num) (by norm_num)
  exact (abs_value_le_of_isFinite finite).trans_lt (sub_lt_sub_left smaller _)

end Storyboard.Number
