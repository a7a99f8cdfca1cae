import Mathlib
import Storyboard.Proofs.Number.Errors

namespace Storyboard.Number

/-!
# Steps that move a double

A sum is a later double if the step reaches beyond the halfway point to the next
one.  A step that just reaches this point is lost where the double is an even
one.  Doubles further out lie further apart, so a step that moves a double also
moves those between it and zero.
-/

/--
How far the halfway point to the next double is from the double of a rank.
-/
def halfGap (rank : ℤ) : ℚ :=
  halfway rank - rankValue rank

theorem halfGap_eq (rank : ℤ) :
    halfGap rank = (rankValue (rank + 1) - rankValue rank) / 2 := by
  rw [halfGap, halfway]
  ring

/-- Half a unit of the shift that a mantissa stands behind. -/
theorem halfGap_of_parts
    {shift mantissa : Nat}
    (fits : mantissa < 2 ^ 53)
    (full : 2 ^ 52 ≤ mantissa ∨ shift = 0) :
    halfGap (shift * 2 ^ 52 + mantissa : Nat) =
      2 ^ ((shift : ℤ) - 1074) / 2 := by
  have next :
      rankValue (shift * 2 ^ 52 + (mantissa + 1) : Nat) =
        (mantissa + 1 : Nat) * 2 ^ ((shift : ℤ) - 1074) :=
    rankValue_of_parts fits (full.imp_left Nat.le_succ_of_le)
  rw [← Nat.add_assoc, Nat.cast_succ] at next
  rw [halfGap_eq, next, rankValue_of_parts fits.le full]
  push_cast
  ring

theorem halfGap_mono
    {first second : ℤ}
    (notNegative : 0 ≤ first)
    (ordered : first ≤ second) :
    halfGap first ≤ halfGap second := by
  obtain ⟨pattern, rfl⟩ := Int.eq_ofNat_of_zero_le (notNegative.trans ordered)
  obtain ⟨shift, mantissa, rfl, fits, full⟩ := exists_parts pattern
  have inShift : first < shiftEnd shift := by
    unfold shiftEnd
    omega
  have gap :
      rankValue (first + 1) - rankValue first ≤ 2 ^ ((shift : ℤ) - 1074) :=
    rankValue_succ_sub_le (by omega) inShift
  rw [halfGap_of_parts fits full, halfGap_eq]
  linarith

section Steps

variable {first step : Float}

theorem value_of_infinite
    (positive : 0 < step)
    (infinite : step.isFinite = false) :
    value step = rankValue infinityPattern := by
  rw [value, rank_eq_unpackedRank (isNaN_eq_false_of_lt positive),
    unpacked_of_infinite positive infinite]
  rfl

/-- A step beyond the halfway point to the next double moves a double. -/
theorem lt_add_of_halfGap_lt
    (finite : first.isFinite = true)
    (positive : 0 < step)
    (long : halfGap (rank first) < value step) :
    first < first + step := by
  have number := isNaN_eq_false_of_isFinite finite
  have bounded := abs_lt.mp (isFinite_iff.mp finite)
  cases stepFinite : step.isFinite with
  | false =>
      have isLargest := rank_add_of_infinite finite positive stepFinite
      refine lt_iff.mpr ⟨number, ?_, isLargest ▸ bounded.2⟩
      rw [isNaN_eq_false_iff, isLargest, Nat.abs_cast]
  | true =>
      have sum := rounds_add finite stepFinite
      obtain ⟨nearest, isNearest, isRank⟩ := sum.exists_nearest
      refine lt_iff.mpr ⟨number, sum.isNumber, ?_⟩
      have beyond : halfway (rank first) < halfway nearest := by
        have atMost := isNearest.le_halfway
        unfold halfGap at long
        unfold value at long atMost
        linarith
      have later := halfway_strictMono.lt_iff_lt.mp beyond
      rw [isRank, clamp]
      omega

/--
A step that moves an even double reaches beyond the halfway point to the next
one, which itself is rounded back to the even one.
-/
theorem halfGap_lt_of_lt_add
    (finite : first.isFinite = true)
    (even : Even (rank first))
    (positive : 0 < step)
    (moves : first < first + step) :
    halfGap (rank first) < value step := by
  have bounded := abs_lt.mp (isFinite_iff.mp finite)
  cases stepFinite : step.isFinite with
  | false =>
      have nextSmall :=
        rankValue_strictMono.monotone (Int.add_one_le_of_lt bounded.2)
      have notLeast := rankValue_strictMono bounded.1
      rw [rankValue_neg] at notLeast
      rw [value_of_infinite positive stepFinite, halfGap_eq]
      linarith
  | true =>
      obtain ⟨nearest, isNearest, isRank⟩ :=
        (rounds_add finite stepFinite).exists_nearest
      have later : rank first < nearest := by
        have ranks := (lt_iff.mp moves).2.2
        rw [isRank, clamp] at ranks
        omega
      have atLeast := isNearest.halfway_le
      have reaches : halfway (rank first) ≤ halfway (nearest - 1) :=
        halfway_strictMono.monotone (by omega)
      by_contra short
      have sum : value first + value step ≤ halfway (rank first) := by
        unfold halfGap at short
        unfold value at short ⊢
        linarith
      have isNext : rank first = nearest - 1 :=
        halfway_strictMono.injective (le_antisymm reaches (atLeast.trans sum))
      have nextEven :=
        isNearest.even_of_eq (.inl (le_antisymm (isNext ▸ sum) atLeast))
      rw [isNext, Int.even_sub_one] at even
      exact even nextEven

end Steps

/-- Whole numbers of up to 52 bits leave the last bit of their mantissa free. -/
theorem even_rank_ofNat
    {number : Nat}
    (short : number < 2 ^ 52) :
    Even (rank (Float.ofNat number)) := by
  obtain ⟨isNumber, -⟩ := value_ofNat (short.trans (by decide))
  have notNegative : 0 ≤ rank (Float.ofNat number) := by
    rw [← rankValue_strictMono.le_iff_le, rankValue_zero]
    exact isNumber.ge.trans' (Nat.cast_nonneg number)
  obtain ⟨pattern, isPattern⟩ := Int.eq_ofNat_of_zero_le notNegative
  obtain ⟨shift, mantissa, rfl, fits, full⟩ := exists_parts pattern
  rw [value, isPattern, rankValue_of_parts fits.le full] at isNumber
  have fraction : shift < 1074 := by
    by_contra whole
    have unit : (1 : ℚ) ≤ 2 ^ ((shift : ℤ) - 1074) :=
      one_le_zpow₀ (by norm_num) (by omega)
    have long : (2 ^ 52 : ℚ) ≤ mantissa := by
      exact_mod_cast full.resolve_right (by omega)
    have large : (2 ^ 52 : ℚ) ≤ number := by
      rw [← isNumber]
      exact long.trans (le_mul_of_one_le_right (Nat.cast_nonneg mantissa) unit)
    exact short.not_ge (by exact_mod_cast large)
  have isMantissa : mantissa = number * 2 ^ (1074 - shift) := by
    have exponent : (shift : ℤ) - 1074 = -((1074 - shift : Nat) : ℤ) := by omega
    rw [exponent, zpow_neg, zpow_natCast,
      mul_inv_eq_iff_eq_mul₀ (by positivity)] at isNumber
    exact_mod_cast isNumber
  have powerEven {exponent : Nat} (some : exponent ≠ 0) : Even (2 ^ exponent) :=
    Nat.even_pow.mpr ⟨even_two, some⟩
  rw [isPattern, Int.even_coe_nat, Nat.even_add, isMantissa]
  exact iff_of_true ((powerEven (by decide)).mul_left shift)
    ((powerEven (by omega)).mul_left number)

theorem halfGap_rank_ofNat_two_pow
    {exponent : Nat}
    (isRank : rank (Float.ofNat (2 ^ exponent)) =
      ((1022 + exponent) * 2 ^ 52 + 2 ^ 52 : Nat)) :
    halfGap (rank (Float.ofNat (2 ^ exponent))) =
      2 ^ ((exponent : ℤ) - 53) := by
  have unit :
      ((1022 + exponent : Nat) : ℤ) - 1074 = (exponent : ℤ) - 53 + 1 := by
    push_cast
    ring
  rw [isRank, halfGap_of_parts (by decide) (.inl le_rfl), unit,
    zpow_add_one₀ two_ne_zero, mul_div_cancel_right₀ _ two_ne_zero]

end Storyboard.Number
