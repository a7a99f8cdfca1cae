import Mathlib
import Storyboard.Proofs.Number.Rounding

namespace Storyboard.Number

/-!
# Arithmetic rounds the exact result

The sum, the difference, the product and the quotient of two finite doubles are
the doubles nearest to the exact results.  Where there is none because the
result is too large, it is infinite; it is never anything else than a number.
-/

open Float.Model (Format UnpackedFloat)
open Float.Model.UnpackedFloat

/-- The number that the parts of a finite double stand for. -/
def partsValue : UnpackedFloat → ℚ
  | .finite sign mantissa exponent _ => signed sign (mantissa * 2 ^ exponent)
  | _ => 0

/-- Whether parts are those of a finite double. -/
def FiniteParts : UnpackedFloat → Prop
  | .finite _ mantissa exponent _ => Canonical mantissa exponent
  | .zero _ => True
  | _ => False

theorem rankValue_rankOfParts
    {mantissa : Nat}
    {exponent : ℤ}
    (canonical : Canonical mantissa exponent) :
    rankValue (rankOfParts mantissa exponent) = mantissa * 2 ^ exponent := by
  obtain ⟨shift, isShift⟩ := Int.eq_ofNat_of_zero_le
    (by have := canonical.least_le; omega : 0 ≤ exponent + 1074)
  have isExponent : exponent = (shift : ℤ) - 1074 := by omega
  have parts :
      rankValue (shift * 2 ^ 52 + mantissa : Nat) =
        mantissa * 2 ^ ((shift : ℤ) - 1074) :=
    rankValue_of_parts canonical.lt.le (canonical.full.imp_right (by omega))
  rw [isExponent, ← parts, rankOfParts, sub_add_cancel]
  push_cast
  rfl

theorem rankValue_apply (sign : Sign) (rank : ℤ) :
    rankValue (sign.apply rank) = signed sign (rankValue rank) := by
  cases sign with
  | negative => exact rankValue_neg rank
  | positive => rfl

theorem cast_apply (sign : Sign) (number : Nat) :
    (sign.apply number : ℚ) = signed sign number := by
  cases sign <;> simp [Sign.apply, signed]

theorem signed_mul (sign : Sign) (first second : ℚ) :
    signed sign first * second = signed sign (first * second) := by
  cases sign <;> simp [signed]

theorem decreaseExponent_mul
    (mantissa : Nat)
    {exponent target : ℤ}
    (lower : target ≤ exponent) :
    ((decreaseExponent mantissa exponent target).1 : ℚ) * 2 ^ target =
      mantissa * 2 ^ exponent := by
  obtain ⟨count, isCount⟩ := Int.le.dest lower
  have shiftAmount : (exponent - target).toNat = count := by omega
  have isTarget : target = exponent - count := by omega
  rw [decreaseExponent, shiftAmount, isTarget]
  exact shiftLeft_mul_zpow mantissa count exponent

theorem signed_mul_signed (sign otherSign : Sign) (first second : ℚ) :
    signed sign first * signed otherSign second =
      signed (sign * otherSign) (first * second) := by
  cases sign <;> cases otherSign
  · exact neg_mul_neg first second
  · exact neg_mul first second
  · exact mul_neg first second
  · rfl

theorem signed_div_signed (sign otherSign : Sign) (first second : ℚ) :
    signed sign first / signed otherSign second =
      signed (sign / otherSign) (first / second) := by
  cases sign <;> cases otherSign
  · exact neg_div_neg_eq first second
  · exact neg_div second first
  · exact div_neg first
  · rfl

namespace FiniteParts

variable {first second : UnpackedFloat}

theorem rankValue_unpackedRank (finite : FiniteParts first) :
    rankValue (unpackedRank first) = partsValue first := by
  cases first with
  | finite sign mantissa exponent positive =>
      rw [unpackedRank, rankValue_apply, rankValue_rankOfParts finite,
        partsValue]
  | zero sign => exact rankValue_zero
  | _ => exact finite.elim

/-- Parts stand for a number to which it need not be rounded. -/
theorem rounded (finite : FiniteParts first) :
    RoundedParts (partsValue first) first := by
  have nearest := Nearest.self (unpackedRank first)
  rw [finite.rankValue_unpackedRank] at nearest
  cases first with
  | finite => exact ⟨finite, nofun, nearest⟩
  | zero => exact ⟨trivial, nofun, nearest⟩
  | _ => exact finite.elim

theorem roundedParts_zero (sign : Sign) : RoundedParts 0 (.zero sign) :=
  have isFinite : FiniteParts (.zero sign) := trivial
  isFinite.rounded

theorem neg (finite : FiniteParts first) : FiniteParts first.neg := by
  cases first with
  | finite | zero => exact finite
  | _ => exact finite.elim

theorem add
    (firstFinite : FiniteParts first)
    (secondFinite : FiniteParts second) :
    RoundedParts (partsValue first + partsValue second)
      (UnpackedFloat.add Format.binary64 first second) := by
  cases first with
  | zero sign =>
      cases second with
      | zero otherSign =>
          simp only [partsValue, add_zero, UnpackedFloat.add]
          split <;> exact roundedParts_zero _
      | finite =>
          rw [partsValue.eq_def (.zero sign), zero_add]
          exact secondFinite.rounded
      | _ => exact secondFinite.elim
  | finite sign mantissa exponent positive =>
      cases second with
      | zero otherSign =>
          rw [partsValue.eq_def (.zero otherSign), add_zero]
          exact firstFinite.rounded
      | finite otherSign other otherExponent otherPositive =>
          set least := min exponent otherExponent with isLeast
          let units : ℤ :=
            sign.apply (decreaseExponent mantissa exponent least).1 +
              otherSign.apply (decreaseExponent other otherExponent least).1
          have sum := roundedParts_normalize units least .positive
          have exact :
              (units : ℚ) * 2 ^ least =
                signed sign (mantissa * 2 ^ exponent) +
                  signed otherSign (other * 2 ^ otherExponent) := by
            rw [Int.cast_add, cast_apply, cast_apply, add_mul, signed_mul,
              signed_mul, decreaseExponent_mul _ (min_le_left _ _),
              decreaseExponent_mul _ (min_le_right _ _)]
          rw [exact] at sum
          exact sum
      | _ => exact secondFinite.elim
  | _ => exact firstFinite.elim

end FiniteParts

theorem partsValue_neg (parts : UnpackedFloat) :
    partsValue parts.neg = -partsValue parts := by
  cases parts with
  | finite sign =>
      cases sign with
      | negative => exact (neg_neg _).symm
      | positive => rfl
  | _ => exact neg_zero.symm

theorem parts_sub_eq_add_neg (first second : UnpackedFloat) :
    UnpackedFloat.sub Format.binary64 first second =
      UnpackedFloat.add Format.binary64 first second.neg := by
  cases first with
  | finite sign mantissa exponent positive =>
      cases second with
      | finite otherSign other otherExponent otherPositive =>
          have applied (number : Nat) :
              (-otherSign).apply number = -otherSign.apply number := by
            cases otherSign
            · exact (neg_neg _).symm
            · rfl
          simp only [UnpackedFloat.sub, UnpackedFloat.add, UnpackedFloat.neg,
            applied, Int.sub_eq_add_neg]
      | _ => rfl
  | _ => cases second <;> rfl

theorem log2_add_log2_le
    {first second : Nat}
    (firstPos : 0 < first)
    (secondPos : 0 < second) :
    first.log2 + second.log2 ≤ (first * second).log2 := by
  rw [Nat.le_log2 (Nat.mul_pos firstPos secondPos).ne', pow_add]
  exact Nat.mul_le_mul (Nat.log2_self_le firstPos.ne')
    (Nat.log2_self_le secondPos.ne')

/-- A whole quotient and its remainder tell where the quotient lies. -/
theorem describes_div
    (numerator : Nat)
    {denominator : Nat}
    (positive : 0 < denominator) :
    Describes (numerator / denominator)
      (accuracyOfFraction (numerator % denominator) denominator)
      ((numerator : ℚ) / denominator) := by
  have denominatorPos : (0 : ℚ) < denominator := by exact_mod_cast positive
  have whole : (denominator : ℚ) * (numerator / denominator : Nat) +
      (numerator % denominator : Nat) = numerator := by
    exact_mod_cast Nat.div_add_mod numerator denominator
  have remainder := Nat.mod_lt numerator positive
  set quotient := numerator / denominator
  set rest := numerator % denominator
  have number :
      (numerator : ℚ) / denominator = quotient + rest / denominator := by
    rw [← whole]
    field_simp
  have restLess : (rest : ℚ) / denominator < 1 := by
    rw [div_lt_one denominatorPos]
    exact_mod_cast remainder
  rw [number, accuracyOfFraction]
  split
  case isTrue isZero =>
    simp [Describes, isZero]
  case isFalse notZero =>
    have restPos : (0 : ℚ) < rest / denominator :=
      div_pos (by exact_mod_cast Nat.pos_of_ne_zero notZero) denominatorPos
    have twice :
        (rest : ℚ) / denominator = (2 * rest : Nat) / denominator / 2 := by
      push_cast
      ring
    rcases lt_trichotomy (2 * rest) denominator with less | same | greater
    · have ratio : ((2 * rest : Nat) : ℚ) / denominator < 1 := by
        rw [div_lt_one denominatorPos]
        exact_mod_cast less
      rw [compare_lt_iff_lt.mpr less]
      exact ⟨by linarith, by linarith⟩
    · have ratio : ((2 * rest : Nat) : ℚ) / denominator = 1 := by
        rw [same, div_self denominatorPos.ne']
      rw [compare_eq_iff_eq.mpr same]
      change (quotient : ℚ) + rest / denominator = quotient + 1 / 2
      linarith
    · have ratio : 1 < ((2 * rest : Nat) : ℚ) / denominator := by
        rw [one_lt_div denominatorPos]
        exact_mod_cast greater
      rw [compare_gt_iff_gt.mpr greater]
      exact ⟨by linarith, by linarith⟩

/-- A quotient is at most one bit shorter than the lengths of its parts tell. -/
theorem log2_le_log2_div
    {numerator denominator : Nat}
    (someQuotient : 0 < numerator / denominator) :
    numerator.log2 ≤ (numerator / denominator).log2 + denominator.log2 + 1 := by
  have denominatorPos : 0 < denominator := by
    by_contra isZero
    simp [Nat.eq_zero_of_not_pos isZero] at someQuotient
  have numeratorPos : 0 < numerator := by
    by_contra isZero
    simp [Nat.eq_zero_of_not_pos isZero] at someQuotient
  rw [← Nat.lt_succ_iff, Nat.log2_lt numeratorPos.ne']
  calc
    numerator < (numerator / denominator + 1) * denominator := by
      rw [Nat.add_mul, Nat.one_mul]
      exact Nat.lt_div_mul_add denominatorPos
    _ ≤ 2 ^ ((numerator / denominator).log2 + 1) * 2 ^ (denominator.log2 + 1) :=
      Nat.mul_le_mul Nat.lt_log2_self Nat.lt_log2_self.le
    _ = 2 ^ ((numerator / denominator).log2 + denominator.log2 + 1 + 1) := by
      rw [← pow_add]
      congr 1
      omega

namespace FiniteParts

variable {first second : UnpackedFloat}

theorem mul
    (firstFinite : FiniteParts first)
    (secondFinite : FiniteParts second) :
    RoundedParts (partsValue first * partsValue second)
      (UnpackedFloat.mul Format.binary64 first second) := by
  cases first with
  | zero sign =>
      rw [partsValue.eq_def (.zero sign), zero_mul]
      cases second with
      | zero | finite => exact roundedParts_zero _
      | _ => exact secondFinite.elim
  | finite sign mantissa exponent positive =>
      cases second with
      | zero otherSign =>
          rw [partsValue.eq_def (.zero otherSign), mul_zero]
          exact roundedParts_zero _
      | finite otherSign other otherExponent otherPositive =>
          have firstCanonical : Canonical mantissa exponent := firstFinite
          have secondCanonical : Canonical other otherExponent := secondFinite
          have small : exponent + otherExponent ≤
              max ((mantissa * other).log2 + (exponent + otherExponent) - 52)
                (-1074) := by
            have logs := log2_add_log2_le positive otherPositive
            have firstLog := firstCanonical.log2_eq
            have secondLog := secondCanonical.log2_eq
            omega
          have product :=
            roundedParts_roundWithAccuracy (describes_exact _) small
            (sign * otherSign)
          have exact :
              signed sign (mantissa * 2 ^ exponent) *
                  signed otherSign (other * 2 ^ otherExponent) =
                signed (sign * otherSign)
                  ((mantissa * other : Nat) *
                    2 ^ (exponent + otherExponent)) := by
            rw [signed_mul_signed, zpow_add₀ two_ne_zero]
            push_cast
            congr 1
            ring
          rw [← exact] at product
          exact product
      | _ => exact secondFinite.elim
  | _ => exact firstFinite.elim

theorem div
    (firstFinite : FiniteParts first)
    (secondFinite : FiniteParts second)
    (notZero : partsValue second ≠ 0) :
    RoundedParts (partsValue first / partsValue second)
      (UnpackedFloat.div Format.binary64 first second) := by
  cases second with
  | finite otherSign other otherExponent otherPositive =>
      cases first with
      | zero sign =>
          rw [partsValue.eq_def (.zero sign), zero_div]
          exact roundedParts_zero _
      | finite sign mantissa exponent positive =>
          have targetExponent :
              Format.binary64.targetExponent
                  (Float.Model.totalExponent mantissa exponent -
                    Float.Model.totalExponent other otherExponent) =
                max
                  (mantissa.log2 + exponent - (other.log2 + otherExponent) - 53)
                  (-1074) := by
            change max (((mantissa.log2 : Nat) : ℤ) + 1 + exponent -
              (other.log2 + 1 + otherExponent) - 53) (-1074) = _
            omega
          simp only [UnpackedFloat.div, divCore, targetExponent]
          set least := min (exponent - otherExponent)
            (max (mantissa.log2 + exponent - (other.log2 + otherExponent) - 53)
              (-1074))
            with isLeast
          obtain ⟨count, isCount⟩ :=
            Int.le.dest (min_le_left _ _ : least ≤ exponent - otherExponent)
          have shiftAmount :
              (exponent - otherExponent - least).toNat = count := by omega
          rw [shiftAmount]
          have logs := log2_shiftLeft positive count
          have small : least ≤
              max ((mantissa <<< count / other).log2 + least - 52) (-1074) := by
            by_cases someQuotient : 0 < mantissa <<< count / other
            · have longer := log2_le_log2_div someQuotient
              omega
            · have less : mantissa <<< count < other := by
                rwa [Nat.div_pos_iff, not_and, not_le,
                  imp_iff_right otherPositive] at someQuotient
              have notZero : mantissa <<< count ≠ 0 := by
                rw [Nat.shiftLeft_eq]
                positivity
              have shorter :=
                (Nat.log2_lt notZero).mpr (less.trans Nat.lt_log2_self)
              omega
          have quotient := roundedParts_roundWithAccuracy
            (describes_div (mantissa <<< count) otherPositive) small
              (sign / otherSign)
          have exact :
              signed sign (mantissa * 2 ^ exponent) /
                  signed otherSign (other * 2 ^ otherExponent) =
                signed (sign / otherSign)
                  (((mantissa <<< count : Nat) : ℚ) / other * 2 ^ least) := by
            have isExponent :
                exponent = otherExponent + (least + count) := by omega
            have otherPos : (0 : ℚ) < other := by exact_mod_cast otherPositive
            rw [signed_div_signed, ← shiftLeft_mul_zpow mantissa count,
              isExponent, ← add_assoc, add_sub_cancel_right,
              zpow_add₀ two_ne_zero]
            congr 1
            field_simp
          rw [← exact] at quotient
          exact quotient
      | _ => exact firstFinite.elim
  | _ => exact absurd rfl notZero

end FiniteParts

theorem finiteParts_of_isFinite
    {double : Float}
    (finite : double.isFinite = true) :
    FiniteParts (unpacked double) := by
  change (unpacked double).isFinite = true at finite
  cases isParts : unpacked double with
  | finite => exact (canonical_of_unpacked_eq isParts).1
  | zero => trivial
  | _ => rw [isParts] at finite; cases finite

theorem isNaN_eq_false_of_isFinite
    {double : Float}
    (finite : double.isFinite = true) :
    double.isNaN = false :=
  isNaN_eq_false_iff.mpr (isFinite_iff.mp finite).le

theorem value_eq_partsValue
    {double : Float}
    (finite : double.isFinite = true) :
    value double = partsValue (unpacked double) := by
  rw [value, rank_eq_unpackedRank (isNaN_eq_false_of_isFinite finite),
    (finiteParts_of_isFinite finite).rankValue_unpackedRank]

/-- A double is the nearest one to a number, or infinite if there is none. -/
structure Rounds (exact : ℚ) (result : Float) : Prop where
  isNumber : result.isNaN = false
  exists_nearest :
    ∃ nearest, Nearest exact nearest ∧ rank result = clamp nearest

theorem RoundedParts.packed
    {exact : ℚ}
    {result : UnpackedFloat}
    (rounded : RoundedParts exact result) :
    Rounds exact (packed result) := by
  have isRank := rank_packed rounded.packable rounded.isNumber
  refine ⟨isNaN_eq_false_iff.mpr ?_, _, rounded.nearest, isRank⟩
  rw [isRank]
  exact abs_clamp_le _

section Operations

variable {first second : Float}

theorem rounds_add
    (firstFinite : first.isFinite = true)
    (secondFinite : second.isFinite = true) :
    Rounds (value first + value second) (first + second) := by
  rw [value_eq_partsValue firstFinite, value_eq_partsValue secondFinite]
  exact ((finiteParts_of_isFinite firstFinite).add
    (finiteParts_of_isFinite secondFinite)).packed

theorem rounds_sub
    (firstFinite : first.isFinite = true)
    (secondFinite : second.isFinite = true) :
    Rounds (value first - value second) (first - second) := by
  have negated := (finiteParts_of_isFinite secondFinite).neg
  have sum := ((finiteParts_of_isFinite firstFinite).add negated).packed
  rw [partsValue_neg, ← sub_eq_add_neg, ← parts_sub_eq_add_neg,
    ← value_eq_partsValue firstFinite, ← value_eq_partsValue secondFinite]
    at sum
  exact sum

theorem rounds_mul
    (firstFinite : first.isFinite = true)
    (secondFinite : second.isFinite = true) :
    Rounds (value first * value second) (first * second) := by
  rw [value_eq_partsValue firstFinite, value_eq_partsValue secondFinite]
  exact ((finiteParts_of_isFinite firstFinite).mul
    (finiteParts_of_isFinite secondFinite)).packed

theorem rounds_div
    (firstFinite : first.isFinite = true)
    (secondFinite : second.isFinite = true)
    (notZero : value second ≠ 0) :
    Rounds (value first / value second) (first / second) := by
  rw [value_eq_partsValue secondFinite] at notZero
  rw [value_eq_partsValue firstFinite, value_eq_partsValue secondFinite]
  exact ((finiteParts_of_isFinite firstFinite).div
    (finiteParts_of_isFinite secondFinite)
    notZero).packed

end Operations

end Storyboard.Number
