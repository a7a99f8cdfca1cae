import Mathlib
import Storyboard.Proofs.Number.Bits
import Storyboard.Proofs.Number.Ranks

namespace Storyboard.Number

/-!
# The ranks of packed doubles

Arithmetic works on doubles that are taken apart into a sign, a mantissa and an
exponent.  Packing puts them together again, and what is too large becomes
infinite: the rank of the packed double is that of the parts, held between the
two infinities.
-/

open Float.Model (Format UnpackedFloat)
open Float.Model.UnpackedFloat

/-- The rank of a double: its magnitude pattern, negative with the sign bit. -/
def rank (double : Float) : ℤ :=
  if signBit double then -magnitudePattern double else magnitudePattern double

/--
The number that a double stands for; infinity stands for the double after the
largest.
-/
def value (double : Float) : ℚ :=
  rankValue (rank double)

theorem infinityPattern_eq : (infinityPattern : ℤ) = 2047 * 2 ^ 52 := by
  rw [infinityPattern, twoTo, Nat.pow_eq]
  push_cast

/-- The nearest rank between the two infinities. -/
def clamp (rank : ℤ) : ℤ :=
  max (-infinityPattern) (min infinityPattern rank)

theorem clamp_mono : Monotone clamp :=
  fun _ _ ordered => max_le_max_left _ (min_le_min_left _ ordered)

theorem clamp_neg (rank : ℤ) : clamp (-rank) = -clamp rank := by
  unfold clamp
  omega

theorem clamp_eq_self
    {rank : ℤ}
    (bounded : |rank| ≤ infinityPattern) :
    clamp rank = rank := by
  obtain ⟨lower, upper⟩ := abs_le.mp bounded
  rw [clamp, min_eq_right upper, max_eq_right lower]

theorem clamp_eq_infinity
    {rank : ℤ}
    (tooLarge : infinityPattern ≤ rank) :
    clamp rank = infinityPattern := by
  unfold clamp
  omega

theorem abs_clamp_le (rank : ℤ) : |clamp rank| ≤ infinityPattern := by
  rw [abs_le, clamp]
  omega

/-- A mantissa fills its bits unless its exponent is the least one. -/
structure Canonical (mantissa : Nat) (exponent : ℤ) : Prop where
  lt : mantissa < 2 ^ 53
  least_le : -1074 ≤ exponent
  full : 2 ^ 52 ≤ mantissa ∨ exponent = -1074

/-- The rank of a positive double with a mantissa and an exponent. -/
def rankOfParts (mantissa : Nat) (exponent : ℤ) : ℤ :=
  (exponent + 1074) * 2 ^ 52 + mantissa

/--
The rank of a double that is taken apart; what is not a number has that of zero.
-/
def unpackedRank : UnpackedFloat → ℤ
  | .finite sign mantissa exponent _ =>
      sign.apply (rankOfParts mantissa exponent)
  | .infinity sign => sign.apply infinityPattern
  | .zero _ | .notANumber => 0

/-- Whether the parts of a double are as packing expects them. -/
def Packable : UnpackedFloat → Prop
  | .finite _ mantissa exponent _ => Canonical mantissa exponent
  | _ => True

/-- The double that is put together from its parts. -/
def packed (parts : UnpackedFloat) : Float :=
  .ofModel (.pack parts)

/-- The parts of a double. -/
def unpacked (double : Float) : UnpackedFloat :=
  double.toModel.unpack

theorem toNat_append {v w : Nat} (first : BitVec v) (second : BitVec w) :
    (first ++ second).toNat = 2 ^ w * first.toNat + second.toNat := by
  rw [BitVec.toNat_append, Nat.shiftLeft_eq, Nat.mul_comm,
    Nat.two_pow_add_eq_or_of_lt second.isLt]

theorem toNat_packComponents
    (sign : Sign)
    (exponent : BitVec 11)
    (mantissa : BitVec 52) :
    (packComponents Format.binary64 sign exponent mantissa).toNat =
      sign.toBitVec.toNat * 2 ^ 63 +
      (exponent.toNat * 2 ^ 52 + mantissa.toNat) := by
  rw [packComponents, toNat_append, toNat_append]
  ring

/-- The rank of a double that is packed from three fields. -/
theorem rank_packed_of_fields
    {parts : UnpackedFloat}
    {sign : Sign}
    {exponent : BitVec 11}
    {mantissa : BitVec 52}
    (fields : pack Format.binary64 parts =
      packComponents Format.binary64 sign exponent mantissa) :
    rank (packed parts) =
      sign.apply (exponent.toNat * 2 ^ 52 + mantissa.toNat) := by
  have bits : (packed parts).toBits.toNat =
      sign.toBitVec.toNat * 2 ^ 63 +
        (exponent.toNat * 2 ^ 52 + mantissa.toNat) := by
    rw [← toNat_packComponents, ← fields]
    rfl
  have exponentBounded := exponent.isLt
  have mantissaBounded := mantissa.isLt
  have magnitude : magnitudePattern (packed parts) =
      exponent.toNat * 2 ^ 52 + mantissa.toNat := by
    rw [magnitudePattern, bits, twoTo, Nat.pow_eq, Nat.mul_add_mod_self_right]
    exact Nat.mod_eq_of_lt (by omega)
  cases sign with
  | negative =>
      have signed : signBit (packed parts) = true := by
        simp only [signBit, bits, twoTo, Nat.pow_eq, decide_eq_true_eq]
        exact Nat.le_add_right_of_le (by decide)
      rw [rank, if_pos signed, magnitude]
      push_cast
      rfl
  | positive =>
      have unsigned : signBit (packed parts) = false := by
        simp only [signBit, bits, twoTo, Nat.pow_eq, decide_eq_false_iff_not]
        change ¬2 ^ 63 ≤ 0 * 2 ^ 63 + _
        omega
      rw [rank, if_neg (by simp [unsigned]), magnitude]
      push_cast
      rfl

theorem rank_packed_infinity (sign : Sign) :
    rank (packed (.infinity sign)) = sign.apply infinityPattern := by
  have fields : pack Format.binary64 (.infinity sign) =
      packComponents Format.binary64 sign (-1#11) 0#52 := rfl
  have allOnes : (-1#11).toNat = 2047 := rfl
  rw [rank_packed_of_fields fields, infinityPattern_eq, allOnes,
    BitVec.toNat_ofNat]
  norm_num

theorem rank_packed_zero (sign : Sign) : rank (packed (.zero sign)) = 0 := by
  have fields : pack Format.binary64 (.zero sign) =
      packComponents Format.binary64 sign 0#11 0#52 := rfl
  rw [rank_packed_of_fields fields, BitVec.toNat_ofNat, BitVec.toNat_ofNat]
  cases sign <;> rfl

namespace Canonical

variable
  {mantissa : Nat}
  {exponent : ℤ}

/--
How many bits a canonical mantissa has, unless its exponent is the least one.
-/
theorem log2_eq (canonical : Canonical mantissa exponent) :
    mantissa.log2 = 52 ∨ exponent = -1074 :=
  canonical.full.imp_left fun isFull =>
    (Nat.log2_eq_iff (Nat.ne_of_gt ((Nat.two_pow_pos 52).trans_le isFull))).mpr
      ⟨isFull, canonical.lt⟩

theorem rankOfParts_nonneg (canonical : Canonical mantissa exponent) :
    0 ≤ rankOfParts mantissa exponent := by
  have least := canonical.least_le
  unfold rankOfParts
  omega

theorem rankOfParts_eq_zero
    (canonical : Canonical mantissa exponent)
    (isZero : mantissa = 0) :
    rankOfParts mantissa exponent = 0 := by
  have full := canonical.full
  unfold rankOfParts
  omega

theorem rankOfParts_pos
    (canonical : Canonical mantissa exponent)
    (positive : 0 < mantissa) :
    0 < rankOfParts mantissa exponent := by
  have least := canonical.least_le
  unfold rankOfParts
  omega

/-- Parts are too large exactly if their exponent is. -/
theorem rankOfParts_lt_infinity_iff (canonical : Canonical mantissa exponent) :
    rankOfParts mantissa exponent < infinityPattern ↔ exponent ≤ 971 := by
  have bounded := canonical.lt
  have full := canonical.full
  rw [rankOfParts, infinityPattern_eq]
  omega

end Canonical

/-- What is too large is packed as infinity. -/
theorem pack_of_too_large
    {sign : Sign}
    {mantissa : Nat}
    {exponent : ℤ}
    (positive : 0 < mantissa)
    (tooLarge : 971 < exponent) :
    pack Format.binary64 (.finite sign mantissa exponent positive) =
      pack Format.binary64 (.infinity sign) := by
  have biased :
      2 ^ Format.binary64.exponentBits ≤
        (exponent + Format.binary64.exponentBias +
          Format.binary64.mantissaBitsWithoutImplicit).toNat + 1 := by
    change 2 ^ 11 ≤ (exponent + 1023 + 52).toNat + 1
    omega
  simp only [pack, if_pos biased]

theorem rank_packed_finite
    {sign : Sign}
    {mantissa : Nat}
    {exponent : ℤ}
    (positive : 0 < mantissa)
    (canonical : Canonical mantissa exponent)
    (fits : exponent ≤ 971) :
    rank (packed (.finite sign mantissa exponent positive)) =
      sign.apply (rankOfParts mantissa exponent) := by
  have least := canonical.least_le
  have bounded := canonical.lt
  have inRange : ¬2 ^ Format.binary64.exponentBits ≤
      (exponent + Format.binary64.exponentBias +
        Format.binary64.mantissaBitsWithoutImplicit).toNat + 1 := by
    change ¬2 ^ 11 ≤ (exponent + 1023 + 52).toNat + 1
    omega
  by_cases full : 2 ^ 52 ≤ mantissa
  · have isFull : mantissa.log2 + 1 = Format.binary64.mantissaBits := by
      change mantissa.log2 + 1 = 53
      rw [(Nat.log2_eq_iff positive.ne').mpr ⟨full, bounded⟩]
    rw [rank_packed_of_fields (by
      simp only [pack, if_neg inRange, if_pos isFull]
      rfl)]
    congr 1
    have biased : (exponent + 1023 + 52).toNat % 2 ^ 11 =
        (exponent + 1075).toNat := by omega
    change (((exponent + 1023 + 52).toNat % 2 ^ 11 : Nat) : ℤ) * 2 ^ 52 +
      ((mantissa % 2 ^ 52 : Nat) : ℤ) = _
    rw [biased, rankOfParts]
    omega
  · have isShort : mantissa.log2 + 1 ≠ Format.binary64.mantissaBits := by
      change mantissa.log2 + 1 ≠ 53
      have := (Nat.log2_lt positive.ne').mpr (not_le.mp full)
      omega
    rw [rank_packed_of_fields (by
      simp only [pack, if_neg inRange, if_neg isShort]
      rfl)]
    congr 1
    have isLeast : exponent = -1074 := by
      have := canonical.full
      omega
    change ((0 : Nat) : ℤ) * 2 ^ 52 + ((mantissa % 2 ^ 52 : Nat) : ℤ) = _
    rw [isLeast, rankOfParts]
    omega

theorem clamp_apply (sign : Sign) (rank : ℤ) :
    clamp (sign.apply rank) = sign.apply (clamp rank) := by
  cases sign with
  | negative => exact clamp_neg rank
  | positive => rfl

/-- Packing holds the rank of the parts between the infinities. -/
theorem rank_packed
    {parts : UnpackedFloat}
    (packable : Packable parts)
    (number : parts ≠ .notANumber) :
    rank (packed parts) = clamp (unpackedRank parts) := by
  have notNegative : (0 : ℤ) ≤ infinityPattern := Int.natCast_nonneg _
  cases parts with
  | notANumber =>
      exact absurd rfl number
  | infinity sign =>
      rw [rank_packed_infinity, unpackedRank, clamp_apply,
        clamp_eq_self (abs_of_nonneg notNegative).le]
  | zero sign =>
      rw [rank_packed_zero, unpackedRank, clamp_eq_self (by simp)]
  | finite sign mantissa exponent positive =>
      have canonical : Canonical mantissa exponent := packable
      rw [unpackedRank, clamp_apply]
      by_cases fits : exponent ≤ 971
      · have below := canonical.rankOfParts_lt_infinity_iff.mpr fits
        rw [rank_packed_finite positive canonical fits, clamp_eq_self]
        rw [abs_of_nonneg canonical.rankOfParts_nonneg]
        exact below.le
      · have above :=
          not_lt.mp (mt canonical.rankOfParts_lt_infinity_iff.mp fits)
        have sameBits :
            packed (.finite sign mantissa exponent positive) =
              packed (.infinity sign) := by
          simp only [packed, Float.Model.pack,
            pack_of_too_large positive (not_le.mp fits)]
        rw [sameBits, rank_packed_infinity, clamp_eq_infinity above]

/-! A double taken apart and put together is the same double. -/

theorem packed_unpacked (double : Float) :
    packed (unpacked double) = double := by
  obtain ⟨⟨bits, valid⟩⟩ := double
  have same := pack_unpack valid
  simp only [packed, unpacked, Float.Model.pack, Float.Model.unpack]
  congr 2
  exact congrArg UInt64.ofBitVec same

/-- The parts of a finite double are canonical. -/
theorem canonical_of_unpacked_eq
    {double : Float}
    {sign : Sign}
    {mantissa : Nat}
    {exponent : ℤ}
    {positive : 0 < mantissa}
    (isFinite : unpacked double = .finite sign mantissa exponent positive) :
    Canonical mantissa exponent ∧ exponent ≤ 971 := by
  let bits := double.toBits.toBitVec
  have mantissaBounded :
      (@unpackMantissa Format.binary64 bits).toNat < 2 ^ 52 := BitVec.isLt _
  have exponentBounded :
      (@unpackExponent Format.binary64 bits).toNat < 2 ^ 11 := BitVec.isLt _
  change unpack Format.binary64 bits = _ at isFinite
  simp only [unpack] at isFinite
  split at isFinite
  case isTrue special =>
    split at isFinite <;> cases isFinite
  case isFalse notSpecial =>
    have notFull : (@unpackExponent Format.binary64 bits).toNat ≠ 2047 :=
      fun full => notSpecial (BitVec.eq_of_toNat_eq full)
    split at isFinite
    case isTrue noExponent =>
      split at isFinite
      case isTrue => cases isFinite
      case isFalse =>
        simp only [UnpackedFloat.finite.injEq] at isFinite
        obtain ⟨-, rfl, rfl, -⟩ := isFinite
        have isLeast : ((0 : Nat) : ℤ) - (1023 + 52) + 1 = -1074 := by omega
        refine ⟨⟨by omega, ?_, .inr ?_⟩, ?_⟩ <;> rw [noExponent]
        · exact isLeast.ge
        · exact isLeast
        · exact isLeast.le.trans (by decide)
    case isFalse someExponent =>
      have notZero : (@unpackExponent Format.binary64 bits).toNat ≠ 0 :=
        fun isZero => someExponent (BitVec.eq_of_toNat_eq isZero)
      simp only [UnpackedFloat.finite.injEq] at isFinite
      obtain ⟨-, rfl, rfl⟩ := isFinite
      rw [toNat_leading_append]
      have biased :
          (Format.binary64.exponentBias : ℤ) + ((52 : Nat) : ℤ) = 1075 := rfl
      rw [biased]
      refine ⟨⟨by omega, by omega, .inl (by omega)⟩, by omega⟩

theorem isNaN_iff {double : Float} :
    double.isNaN = true ↔ unpacked double = .notANumber := by
  change (unpacked double).isNaN = true ↔ _
  cases unpacked double <;> simp [Float.Model.UnpackedFloat.isNaN]

/-- The rank of a number is that of its parts. -/
theorem rank_eq_unpackedRank
    {double : Float}
    (number : double.isNaN = false) :
    rank double = unpackedRank (unpacked double) := by
  have notNaN : unpacked double ≠ .notANumber :=
    fun isNaN => Bool.false_ne_true (number.symm.trans (isNaN_iff.mpr isNaN))
  cases isParts : unpacked double with
  | notANumber =>
      exact absurd isParts notNaN
  | infinity sign =>
      rw [← packed_unpacked double, isParts, rank_packed_infinity]
      rfl
  | zero sign =>
      rw [← packed_unpacked double, isParts, rank_packed_zero]
      rfl
  | finite sign mantissa exponent positive =>
      obtain ⟨canonical, fits⟩ := canonical_of_unpacked_eq isParts
      rw [← packed_unpacked double, isParts,
        rank_packed_finite positive canonical fits]
      rfl

/-- The rank of the parts of a number that is neither zero nor infinite. -/
theorem unpackedRank_finite_between
    {double : Float}
    {sign : Sign}
    {mantissa : Nat}
    {exponent : ℤ}
    {positive : 0 < mantissa}
    (isFinite : unpacked double = .finite sign mantissa exponent positive) :
    0 < rankOfParts mantissa exponent ∧
      rankOfParts mantissa exponent < infinityPattern := by
  obtain ⟨canonical, fits⟩ := canonical_of_unpacked_eq isFinite
  exact ⟨canonical.rankOfParts_pos positive,
    canonical.rankOfParts_lt_infinity_iff.mpr fits⟩

theorem natAbs_rank (double : Float) :
    (rank double).natAbs = magnitudePattern double := by
  unfold rank
  split
  · rw [Int.natAbs_neg, Int.natAbs_natCast]
  · rw [Int.natAbs_natCast]

/-- What is not a number has a rank beyond infinity. -/
theorem infinityPattern_lt_rank_of_isNaN
    {double : Float}
    (isNaN : double.isNaN = true) :
    infinityPattern < rank double := by
  have fields : pack Format.binary64 .notANumber =
      packComponents Format.binary64 .positive (-1#11) (1#52 <<< 51) := rfl
  have allOnes : (-1#11).toNat = 2047 := rfl
  have oneSet : (1#52 <<< 51).toNat = 2 ^ 51 := rfl
  rw [← packed_unpacked double, isNaN_iff.mp isNaN,
    rank_packed_of_fields fields, infinityPattern_eq, allOnes, oneSet,
    Sign.apply]
  norm_num

theorem packable_unpacked (double : Float) : Packable (unpacked double) := by
  cases isParts : unpacked double with
  | finite => exact (canonical_of_unpacked_eq isParts).1
  | _ => trivial

theorem isNaN_eq_false_iff {double : Float} :
    double.isNaN = false ↔ |rank double| ≤ infinityPattern := by
  cases isNaN : double.isNaN with
  | true =>
      have beyond :=
        (infinityPattern_lt_rank_of_isNaN isNaN).trans_le (le_abs_self _)
      exact iff_of_false nofun beyond.not_ge
  | false =>
      have isNumber : unpacked double ≠ .notANumber := fun isParts =>
        Bool.false_ne_true (isNaN.symm.trans (isNaN_iff.mpr isParts))
      have isRank := rank_packed (packable_unpacked double) isNumber
      rw [packed_unpacked] at isRank
      exact iff_of_true rfl (isRank ▸ abs_clamp_le _)

theorem isFinite_iff {double : Float} :
    double.isFinite = true ↔ |rank double| < infinityPattern := by
  have someLarge : (0 : ℤ) < infinityPattern := by
    rw [infinityPattern_eq]
    decide
  change (unpacked double).isFinite = true ↔ _
  by_cases isNaN : double.isNaN = true
  · have beyond := infinityPattern_lt_rank_of_isNaN isNaN
    rw [isNaN_iff.mp isNaN]
    exact iff_of_false nofun (not_lt.mpr (beyond.le.trans (le_abs_self _)))
  · rw [rank_eq_unpackedRank (Bool.eq_false_iff.mpr isNaN)]
    cases isParts : unpacked double with
    | notANumber =>
        exact absurd (isNaN_iff.mpr isParts) isNaN
    | infinity sign =>
        refine iff_of_false nofun ?_
        cases sign <;> simp [unpackedRank, Sign.apply]
    | zero sign =>
        exact iff_of_true rfl someLarge
    | finite sign mantissa exponent positive =>
        have between := unpackedRank_finite_between isParts
        refine iff_of_true rfl (abs_lt.mpr ?_)
        cases sign <;> simp only [unpackedRank, Sign.apply] <;> omega

end Storyboard.Number
