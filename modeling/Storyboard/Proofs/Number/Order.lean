import Storyboard.Number.Bounds
import Storyboard.Proofs.Number.Packing

namespace Storyboard.Number

/-!
# The order of doubles

Doubles are compared by their ranks, unless one of them is not a number.
-/

open Float.Model (Format UnpackedFloat)
open Float.Model.UnpackedFloat

/-- Parts are compared by their exponents first and then by their mantissas. -/
theorem Canonical.compare_eq
    {mantissa other : Nat}
    {exponent otherExponent : ℤ}
    (first : Canonical mantissa exponent)
    (second : Canonical other otherExponent) :
    (compare exponent otherExponent).then (compare mantissa other) =
      compare (rankOfParts mantissa exponent)
        (rankOfParts other otherExponent) := by
  have firstShort := first.lt
  have secondShort := second.lt
  have firstFull := first.full
  have secondFull := second.full
  have firstLeast := first.least_le
  have secondLeast := second.least_le
  unfold rankOfParts
  rcases lt_trichotomy exponent otherExponent with less | rfl | greater
  · rw [compare_lt_iff_lt.mpr less, eq_comm]
    exact compare_lt_iff_lt.mpr (by omega)
  · rw [compare_eq_iff_eq.mpr rfl, Ordering.then]
    rcases lt_trichotomy mantissa other with less | rfl | greater
    · rw [compare_lt_iff_lt.mpr less, eq_comm]
      exact compare_lt_iff_lt.mpr (by omega)
    · rw [compare_eq_iff_eq.mpr rfl, compare_eq_iff_eq.mpr rfl]
    · rw [compare_gt_iff_gt.mpr greater, eq_comm]
      exact compare_gt_iff_gt.mpr (by omega)
  · rw [compare_gt_iff_gt.mpr greater, eq_comm]
    exact compare_gt_iff_gt.mpr (by omega)

theorem swap_compare (first second : ℤ) :
    (compare first second).swap = compare (-first) (-second) := by
  rcases lt_trichotomy first second with less | rfl | greater
  · rw [compare_lt_iff_lt.mpr less, eq_comm]
    exact compare_gt_iff_gt.mpr (neg_lt_neg less)
  · rw [compare_eq_iff_eq.mpr rfl, compare_eq_iff_eq.mpr rfl]
    rfl
  · rw [compare_gt_iff_gt.mpr greater, eq_comm]
    exact compare_lt_iff_lt.mpr (neg_lt_neg greater)

theorem some_lt_eq {first second : ℤ} (less : first < second) :
    some Ordering.lt = some (compare first second) := by
  rw [compare_lt_iff_lt.mpr less]

theorem some_gt_eq {first second : ℤ} (greater : second < first) :
    some Ordering.gt = some (compare first second) := by
  rw [compare_gt_iff_gt.mpr greater]

theorem some_eq_eq {first second : ℤ} (same : first = second) :
    some Ordering.eq = some (compare first second) := by
  rw [compare_eq_iff_eq.mpr same]

/-- Numbers are compared by their ranks. -/
theorem compare_unpacked
    {first second : Float}
    (firstNumber : first.isNaN = false)
    (secondNumber : second.isNaN = false) :
    (unpacked first).compare (unpacked second) =
      some (compare (rank first) (rank second)) := by
  have someLarge : (0 : ℤ) < infinityPattern := by
    rw [infinityPattern_eq]
    decide
  rw [rank_eq_unpackedRank firstNumber, rank_eq_unpackedRank secondNumber]
  cases isFirst : unpacked first with
  | notANumber =>
      rw [isNaN_iff.mpr isFirst] at firstNumber
      cases firstNumber
  | infinity sign =>
      cases isSecond : unpacked second with
      | notANumber =>
          rw [isNaN_iff.mpr isSecond] at secondNumber
          cases secondNumber
      | infinity otherSign =>
          cases sign <;> cases otherSign <;>
            simp only [unpackedRank, Sign.apply]
          · exact some_eq_eq rfl
          · exact some_lt_eq (by omega)
          · exact some_gt_eq (by omega)
          · exact some_eq_eq rfl
      | zero otherSign =>
          cases sign <;> simp only [unpackedRank, Sign.apply]
          · exact some_lt_eq (by omega)
          · exact some_gt_eq (by omega)
      | finite otherSign mantissa exponent positive =>
          have between := unpackedRank_finite_between isSecond
          cases sign <;> cases otherSign <;>
            simp only [unpackedRank, Sign.apply]
          · exact some_lt_eq (by omega)
          · exact some_lt_eq (by omega)
          · exact some_gt_eq (by omega)
          · exact some_gt_eq (by omega)
  | zero sign =>
      cases isSecond : unpacked second with
      | notANumber =>
          rw [isNaN_iff.mpr isSecond] at secondNumber
          cases secondNumber
      | infinity otherSign =>
          cases otherSign <;> simp only [unpackedRank, Sign.apply]
          · exact some_gt_eq (by omega)
          · exact some_lt_eq (by omega)
      | zero otherSign =>
          exact some_eq_eq rfl
      | finite otherSign mantissa exponent positive =>
          have between := unpackedRank_finite_between isSecond
          cases otherSign <;> simp only [unpackedRank, Sign.apply]
          · exact some_gt_eq (by omega)
          · exact some_lt_eq (by omega)
  | finite sign mantissa exponent positive =>
      have between := unpackedRank_finite_between isFirst
      cases isSecond : unpacked second with
      | notANumber =>
          rw [isNaN_iff.mpr isSecond] at secondNumber
          cases secondNumber
      | infinity otherSign =>
          cases sign <;> cases otherSign <;>
            simp only [unpackedRank, Sign.apply]
          · exact some_gt_eq (by omega)
          · exact some_lt_eq (by omega)
          · exact some_gt_eq (by omega)
          · exact some_lt_eq (by omega)
      | zero otherSign =>
          cases sign <;> simp only [unpackedRank, Sign.apply]
          · exact some_lt_eq (by omega)
          · exact some_gt_eq (by omega)
      | finite otherSign other otherExponent otherPositive =>
          have otherBetween := unpackedRank_finite_between isSecond
          have lexicographic :=
            (canonical_of_unpacked_eq isFirst).1.compare_eq
              (canonical_of_unpacked_eq isSecond).1
          cases sign <;> cases otherSign <;>
            simp only [unpackedRank, Sign.apply]
          · rw [← swap_compare, ← lexicographic]
            rfl
          · exact some_lt_eq (by omega)
          · exact some_gt_eq (by omega)
          · exact congrArg some lexicographic

theorem lt_iff_compare {first second : Float} :
    first < second ↔ (unpacked first).compare (unpacked second) = some .lt :=
  decide_eq_true_iff.trans beq_iff_eq

theorem le_iff_compare {first second : Float} :
    first ≤ second ↔ ((unpacked first).compare (unpacked second)).any
      (·.isLE) = true :=
  decide_eq_true_iff

/-- What is not a number is not compared. -/
theorem compare_unpacked_of_isNaN
    {first second : Float}
    (someNaN : ¬(first.isNaN = false ∧ second.isNaN = false)) :
    (unpacked first).compare (unpacked second) = none := by
  rw [not_and_or, Bool.not_eq_false, Bool.not_eq_false, isNaN_iff, isNaN_iff]
    at someNaN
  rcases someNaN with firstNaN | secondNaN
  · rw [firstNaN]
    rfl
  · rw [secondNaN]
    cases unpacked first with
    | infinity sign => cases sign <;> rfl
    | finite sign => cases sign <;> rfl
    | _ => rfl

theorem lt_iff {first second : Float} :
    first < second ↔
      first.isNaN = false ∧ second.isNaN = false ∧
        rank first < rank second := by
  rw [lt_iff_compare, ← and_assoc]
  by_cases numbers : first.isNaN = false ∧ second.isNaN = false
  · rw [compare_unpacked numbers.1 numbers.2, Option.some.injEq,
      compare_lt_iff_lt]
    exact (and_iff_right numbers).symm
  · rw [compare_unpacked_of_isNaN numbers]
    exact iff_of_false nofun fun ordered => numbers ordered.1

theorem le_iff {first second : Float} :
    first ≤ second ↔
      first.isNaN = false ∧ second.isNaN = false ∧
        rank first ≤ rank second := by
  rw [le_iff_compare, ← and_assoc]
  by_cases numbers : first.isNaN = false ∧ second.isNaN = false
  · rw [compare_unpacked numbers.1 numbers.2, Option.any_some,
      Ordering.isLE_iff_ne_gt]
    exact compare_le_iff_le.trans (and_iff_right numbers).symm
  · rw [compare_unpacked_of_isNaN numbers]
    exact iff_of_false nofun fun ordered => numbers ordered.1

theorem lt_iff_value_lt {first second : Float} :
    first < second ↔
      first.isNaN = false ∧ second.isNaN = false ∧
        value first < value second := by
  rw [lt_iff, value, value, rankValue_strictMono.lt_iff_lt]

theorem le_iff_value_le {first second : Float} :
    first ≤ second ↔
      first.isNaN = false ∧ second.isNaN = false ∧
        value first ≤ value second := by
  rw [le_iff, value, value, rankValue_strictMono.le_iff_le]

section

variable {first second third : Float}

theorem value_lt_of_lt (less : first < second) : value first < value second :=
  (lt_iff_value_lt.mp less).2.2

theorem value_le_of_le (ordered : first ≤ second) :
    value first ≤ value second :=
  (le_iff_value_le.mp ordered).2.2

theorem isNaN_left_of_le (ordered : first ≤ second) : first.isNaN = false :=
  (le_iff.mp ordered).1

theorem isNaN_right_of_le (ordered : first ≤ second) : second.isNaN = false :=
  (le_iff.mp ordered).2.1

/-- What is larger than some double is a number. -/
theorem isNaN_eq_false_of_lt (less : first < second) : second.isNaN = false :=
  (lt_iff.mp less).2.1

protected theorem le_refl (number : first.isNaN = false) : first ≤ first :=
  le_iff.mpr ⟨number, number, le_rfl⟩

protected theorem le_of_lt (less : first < second) : first ≤ second :=
  have ⟨firstNumber, secondNumber, ranks⟩ := lt_iff.mp less
  le_iff.mpr ⟨firstNumber, secondNumber, ranks.le⟩

protected theorem le_trans (lower : first ≤ second) (upper : second ≤ third) :
    first ≤ third :=
  have ⟨firstNumber, _, lowerRanks⟩ := le_iff.mp lower
  have ⟨_, thirdNumber, upperRanks⟩ := le_iff.mp upper
  le_iff.mpr ⟨firstNumber, thirdNumber, lowerRanks.trans upperRanks⟩

protected theorem lt_trans (lower : first < second) (upper : second < third) :
    first < third :=
  have ⟨firstNumber, _, lowerRanks⟩ := lt_iff.mp lower
  have ⟨_, thirdNumber, upperRanks⟩ := lt_iff.mp upper
  lt_iff.mpr ⟨firstNumber, thirdNumber, lowerRanks.trans upperRanks⟩

protected theorem lt_irrefl (double : Float) : ¬double < double :=
  fun less => (lt_iff.mp less).2.2.false

protected theorem not_lt
    (firstNumber : first.isNaN = false)
    (secondNumber : second.isNaN = false) :
    ¬first < second ↔ second ≤ first := by
  rw [lt_iff, le_iff]
  simp only [firstNumber, secondNumber, true_and, not_lt]

protected theorem not_le
    (firstNumber : first.isNaN = false)
    (secondNumber : second.isNaN = false) :
    ¬first ≤ second ↔ second < first := by
  rw [lt_iff, le_iff]
  simp only [firstNumber, secondNumber, true_and, not_le]

/-! The larger and the smaller of two numbers. -/

theorem larger_of_isNaN (firstNaN : first.isNaN = true) :
    larger first second = second :=
  if_pos firstNaN

theorem smaller_of_isNaN (firstNaN : first.isNaN = true) :
    smaller first second = second :=
  if_pos firstNaN

theorem isNaN_larger (secondNumber : second.isNaN = false) :
    (larger first second).isNaN = false := by
  unfold larger
  split_ifs with firstNaN less
  · exact secondNumber
  · exact secondNumber
  · exact Bool.eq_false_iff.mpr firstNaN

theorem isNaN_smaller (secondNumber : second.isNaN = false) :
    (smaller first second).isNaN = false := by
  unfold smaller
  split_ifs with firstNaN less
  · exact secondNumber
  · exact secondNumber
  · exact Bool.eq_false_iff.mpr firstNaN

theorem value_larger
    (firstNumber : first.isNaN = false)
    (secondNumber : second.isNaN = false) :
    value (larger first second) = max (value first) (value second) := by
  rw [larger,
    if_neg (by simp only [firstNumber, Bool.false_eq_true, not_false_iff])]
  split_ifs with less
  · exact (max_eq_right (value_lt_of_lt less).le).symm
  · exact (max_eq_left
      (value_le_of_le ((Number.not_lt firstNumber secondNumber).mp less))).symm

theorem value_smaller
    (firstNumber : first.isNaN = false)
    (secondNumber : second.isNaN = false) :
    value (smaller first second) = min (value first) (value second) := by
  rw [smaller,
    if_neg (by simp only [firstNumber, Bool.false_eq_true, not_false_iff])]
  split_ifs with less
  · exact (min_eq_right (value_lt_of_lt less).le).symm
  · exact (min_eq_left
      (value_le_of_le ((Number.not_lt secondNumber firstNumber).mp less))).symm

theorem le_larger (secondNumber : second.isNaN = false) :
    second ≤ larger first second := by
  cases firstNaN : first.isNaN with
  | true =>
      rw [larger_of_isNaN firstNaN]
      exact Number.le_refl secondNumber
  | false =>
      refine le_iff_value_le.mpr ⟨secondNumber, isNaN_larger secondNumber, ?_⟩
      rw [value_larger firstNaN secondNumber]
      exact le_max_right _ _

theorem le_larger_left
    (firstNumber : first.isNaN = false)
    (secondNumber : second.isNaN = false) :
    first ≤ larger first second := by
  refine le_iff_value_le.mpr ⟨firstNumber, isNaN_larger secondNumber, ?_⟩
  rw [value_larger firstNumber secondNumber]
  exact le_max_left _ _

theorem smaller_le_left
    (firstNumber : first.isNaN = false)
    (secondNumber : second.isNaN = false) :
    smaller first second ≤ first := by
  refine le_iff_value_le.mpr ⟨isNaN_smaller secondNumber, firstNumber, ?_⟩
  rw [value_smaller firstNumber secondNumber]
  exact min_le_left _ _

theorem larger_le (firstBelow : first ≤ third) (secondBelow : second ≤ third) :
    larger first second ≤ third := by
  unfold larger
  split_ifs
  · exact secondBelow
  · exact secondBelow
  · exact firstBelow

theorem le_smaller (belowFirst : third ≤ first) (belowSecond : third ≤ second) :
    third ≤ smaller first second := by
  unfold smaller
  split_ifs
  · exact belowSecond
  · exact belowSecond
  · exact belowFirst

theorem smaller_le (secondNumber : second.isNaN = false) :
    smaller first second ≤ second := by
  cases firstNaN : first.isNaN with
  | true =>
      rw [smaller_of_isNaN firstNaN]
      exact Number.le_refl secondNumber
  | false =>
      refine le_iff_value_le.mpr ⟨isNaN_smaller secondNumber, secondNumber, ?_⟩
      rw [value_smaller firstNaN secondNumber]
      exact min_le_right _ _

end

end Storyboard.Number
