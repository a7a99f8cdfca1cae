import Mathlib
import Storyboard.Proofs.Number.Values

namespace Storyboard.Number

open Float.Model (UnpackedFloat)

/-!
# Errors of rounding

Results up to a size are rounded with an error of at most a `2 ^ 53`-th of that
size.  Where one operand is infinite nothing is rounded: the result is infinite
or zero.
-/

/-- A bound on what rounding changes in results up to a size. -/
structure RoundingError (size error : ℚ) : Prop where
  nonneg : 0 ≤ error
  mul_le : 2 ^ 53 * error ≤ size
  abs_sub_le :
    ∀ {exact : ℚ} {result : Float},
      Rounds exact result → |exact| ≤ size → |value result - exact| ≤ error

theorem exists_roundingError
    {size : Nat}
    (short : size < 2 ^ 53) :
    ∃ error, RoundingError size error := by
  rcases Nat.eq_zero_or_pos size with rfl | positive
  · refine ⟨0, le_rfl, by simp, fun {exact result} rounds inSize => ?_⟩
    rw [Nat.cast_zero, abs_nonpos_iff] at inSize
    rw [inSize, ← value_zero] at rounds
    rw [rounds.value_eq isNaN_zero, value_zero, inSize, sub_zero, abs_zero]
  · have length : size.log2 < 53 := (Nat.log2_lt positive.ne').mpr short
    have lower : (2 : ℚ) ^ size.log2 ≤ size := by
      exact_mod_cast Nat.log2_self_le positive.ne'
    have upper : (size : ℚ) < 2 ^ (size.log2 + 1) := by
      exact_mod_cast Nat.lt_log2_self
    have exponent :
        ((size.log2 + 1022 : Nat) : ℤ) - 1074 =
          (size.log2 + 1 : Nat) - (53 : Nat) := by
      push_cast
      ring
    have unit : (2 : ℚ) ^ (((size.log2 + 1022 : Nat) : ℤ) - 1074) =
        2 ^ (size.log2 + 1) / 2 ^ 53 := by
      rw [exponent, zpow_sub₀ two_ne_zero, zpow_natCast, zpow_natCast]
    refine ⟨2 ^ (size.log2 + 1) / 2 ^ 53 / 2, by positivity, ?_, ?_⟩
    · rw [mul_div_assoc', mul_div_cancel₀ _ (by positivity), pow_succ,
        mul_div_cancel_right₀ _ two_ne_zero]
      exact lower
    · intro exact result rounds inSize
      rw [← unit]
      refine rounds.abs_sub_le (by omega) ?_
      rw [unit, mul_div_cancel₀ _ (by positivity)]
      exact inSize.trans upper.le

/-- A bound on an exact result and its error bound the rounded one. -/
theorem abs_le_of_abs_sub_le
    {exact rounded bound error : ℚ}
    (small : |exact| ≤ bound)
    (near : |rounded - exact| ≤ error) :
    |rounded| ≤ bound + error := by
  have triangle := abs_sub_abs_le_abs_sub rounded exact
  linarith

theorem isFinite_of_abs_value_le
    {double : Float}
    (small : |value double| ≤ 2 ^ 53) :
    double.isFinite = true := by
  have large : (2 : ℚ) ^ 53 < 2 ^ 1024 :=
    pow_lt_pow_right₀ (by norm_num) (by norm_num)
  rw [isFinite_iff_abs_value, rankValue_infinityPattern]
  exact small.trans_lt large

/-! One infinite operand. -/

section Infinite

variable {first second : Float}

theorem unpacked_of_infinite
    (positive : 0 < second)
    (infinite : second.isFinite = false) :
    unpacked second = .infinity .positive := by
  have number := isNaN_eq_false_of_lt positive
  have someRank := value_pos positive
  rw [value, rank_eq_unpackedRank number] at someRank
  change (unpacked second).isFinite = false at infinite
  cases isParts : unpacked second with
  | infinity sign =>
      cases sign with
      | positive => rfl
      | negative =>
          have notPositive : unpackedRank (.infinity .negative) ≤ 0 :=
            Int.neg_nonpos_of_nonneg (Int.natCast_nonneg _)
          rw [isParts] at someRank
          have ordered := rankValue_strictMono.monotone notPositive
          rw [rankValue_zero] at ordered
          exact absurd someRank ordered.not_gt
  | notANumber =>
      rw [isNaN_iff.mpr isParts] at number
      cases number
  | _ =>
      rw [isParts] at infinite
      cases infinite

namespace FiniteParts

variable {parts : UnpackedFloat}

theorem sub_infinity (finite : FiniteParts parts) :
    UnpackedFloat.sub .binary64 parts (.infinity .positive) =
      .infinity .negative := by
  cases parts with
  | finite | zero => rfl
  | _ => exact finite.elim

theorem add_infinity (finite : FiniteParts parts) :
    UnpackedFloat.add .binary64 parts (.infinity .positive) =
      .infinity .positive := by
  cases parts with
  | finite | zero => rfl
  | _ => exact finite.elim

theorem div_infinity (finite : FiniteParts parts) :
    ∃ sign, UnpackedFloat.div .binary64 parts (.infinity .positive) =
      .zero sign := by
  cases parts with
  | finite | zero => exact ⟨_, rfl⟩
  | _ => exact finite.elim

end FiniteParts

/--
Taking away what is positive does not make a number larger, even if it is
rounded.
-/
theorem sub_le
    (firstFinite : first.isFinite = true)
    (positive : 0 < second) :
    first - second ≤ first := by
  have number := isNaN_eq_false_of_isFinite firstFinite
  have someValue := value_pos positive
  cases secondFinite : second.isFinite with
  | true =>
      exact (rounds_sub firstFinite secondFinite).le_of_le_value number
        (by linarith)
  | false =>
      have difference : first - second = packed (.infinity .negative) := by
        refine congrArg packed ?_
        change UnpackedFloat.sub .binary64 (unpacked first)
          (unpacked second) = _
        rw [unpacked_of_infinite positive secondFinite,
          (finiteParts_of_isFinite firstFinite).sub_infinity]
      have isLeast : rank (first - second) = -infinityPattern := by
        rw [difference, rank_packed_infinity]
        rfl
      have bounded := abs_le.mp (isFinite_iff.mp firstFinite).le
      refine le_iff.mpr ⟨?_, number, isLeast ▸ bounded.1⟩
      rw [isNaN_eq_false_iff, isLeast, abs_neg, Nat.abs_cast]

/-- A sum with an infinite step is infinite. -/
theorem rank_add_of_infinite
    (firstFinite : first.isFinite = true)
    (positive : 0 < second)
    (infinite : second.isFinite = false) :
    rank (first + second) = infinityPattern := by
  have sum : first + second = packed (.infinity .positive) := by
    refine congrArg packed ?_
    change UnpackedFloat.add .binary64 (unpacked first) (unpacked second) = _
    rw [unpacked_of_infinite positive infinite,
      (finiteParts_of_isFinite firstFinite).add_infinity]
  rw [sum, rank_packed_infinity]
  rfl

theorem le_add
    (firstFinite : first.isFinite = true)
    (positive : 0 < second) :
    first ≤ first + second := by
  have number := isNaN_eq_false_of_isFinite firstFinite
  have someValue := value_pos positive
  cases secondFinite : second.isFinite with
  | true =>
      exact (rounds_add firstFinite secondFinite).le_of_value_le number
        (by linarith)
  | false =>
      have isLargest := rank_add_of_infinite firstFinite positive secondFinite
      have bounded := abs_le.mp (isFinite_iff.mp firstFinite).le
      refine le_iff.mpr ⟨number, ?_, isLargest ▸ bounded.2⟩
      rw [isNaN_eq_false_iff, isLargest, Nat.abs_cast]

/--
A quotient that is at most one is rounded with the error of results up to one.
-/
theorem RoundingError.abs_value_div_le
    {error ratio : ℚ}
    (bounded : RoundingError 1 error)
    (firstFinite : first.isFinite = true)
    (positive : 0 < second)
    (small : |value first| ≤ ratio * value second)
    (notNegative : 0 ≤ ratio)
    (atMostOne : ratio ≤ 1) :
    |value (first / second)| ≤ ratio + error := by
  have someValue := value_pos positive
  cases secondFinite : second.isFinite with
  | true =>
      have quotient := rounds_div firstFinite secondFinite someValue.ne'
      have exact : |value first / value second| ≤ ratio := by
        rw [abs_div, abs_of_pos someValue]
        exact (div_le_iff₀ someValue).mpr small
      have rounded := bounded.abs_sub_le quotient (exact.trans atMostOne)
      exact (abs_le_of_abs_sub_le exact rounded)
  | false =>
      obtain ⟨sign, isZero⟩ :=
        (finiteParts_of_isFinite firstFinite).div_infinity
      rw [← unpacked_of_infinite positive secondFinite] at isZero
      have quotient : first / second = packed (.zero sign) :=
        congrArg packed isZero
      rw [quotient, value, rank_packed_zero, rankValue_zero, abs_zero]
      exact add_nonneg notNegative bounded.nonneg

end Infinite

end Storyboard.Number
