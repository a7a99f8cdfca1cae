import Mathlib
import Storyboard.Number.Binary64

namespace Storyboard.Number

/-!
# Doubles and their bit patterns

A double is its sign bit and its magnitude pattern.  This holds of every double,
because packing what has been unpacked gives the same bits again, as long as
what is not a number has the one pattern chosen for it.
-/

open Float.Model (Format UnpackedFloat)
open Float.Model.UnpackedFloat

theorem toBitVec_ofBitVec (sign : BitVec 1) :
    (Sign.ofBitVec sign).toBitVec = sign := by
  revert sign
  decide

/-- The three fields of a bit pattern are all that there is in it. -/
theorem packComponents_unpack (format : Format) (bits : BitVec format.numBits) :
    packComponents format (Sign.ofBitVec (unpackSign bits))
      (unpackExponent bits)
      (unpackMantissa bits) = bits := by
  have someMantissa := format.hm
  have someExponent := format.he
  rw [packComponents, toBitVec_ofBitVec]
  ext i inBounds
  simp only [unpackSign, unpackExponent, unpackMantissa,
    ← BitVec.getLsbD_eq_getElem, BitVec.getLsbD_append, BitVec.getLsbD_cast,
    BitVec.getLsbD_extractLsb]
  grind

/-- A mantissa without its leading bit has fewer bits than a full one. -/
theorem log2_add_one_ne_mantissaBits (mantissa : BitVec 52) :
    mantissa.toNat.log2 + 1 ≠ Format.binary64.mantissaBits := by
  have bounded : mantissa.toNat < 2 ^ 52 := mantissa.isLt
  by_cases isZero : mantissa.toNat = 0
  · rw [isZero]
    decide
  · have short := (Nat.log2_lt isZero).mpr bounded
    change mantissa.toNat.log2 + 1 ≠ 53
    omega

/-- The mantissa of a normal number is its field with one more bit in front. -/
theorem toNat_leading_append (mantissa : BitVec 52) :
    (1#1 ++ mantissa).toNat = 2 ^ 52 + mantissa.toNat := by
  have leading : (1#1).toNat = 1 := rfl
  have disjoint : 2 ^ 52 * 1 + mantissa.toNat = 2 ^ 52 * 1 ||| mantissa.toNat :=
    Nat.two_pow_add_eq_or_of_lt mantissa.isLt 1
  rw [Nat.mul_one] at disjoint
  rw [BitVec.toNat_append, leading, Nat.shiftLeft_eq, Nat.one_mul, disjoint]

theorem log2_leading_append (mantissa : BitVec 52) :
    (1#1 ++ mantissa).toNat.log2 + 1 = Format.binary64.mantissaBits := by
  have bounded : mantissa.toNat < 2 ^ 52 := mantissa.isLt
  have full : (2 ^ 52 + mantissa.toNat).log2 = 52 := by
    rw [Nat.log2_eq_iff (by omega)]
    omega
  rw [toNat_leading_append, full]
  rfl

theorem ofNat_leading_append (mantissa : BitVec 52) :
    BitVec.ofNat 52 (1#1 ++ mantissa).toNat = mantissa := by
  rw [toNat_leading_append]
  apply BitVec.eq_of_toNat_eq
  rw [BitVec.toNat_ofNat, Nat.add_mod_left, Nat.mod_eq_of_lt mantissa.isLt]

/-- Packing what was unpacked from a valid pattern gives the pattern back. -/
theorem pack_unpack {bits : BitVec 64} (valid : Format.binary64.Valid bits) :
    pack Format.binary64 (unpack Format.binary64 bits) = bits := by
  have whole := packComponents_unpack Format.binary64 bits
  simp only [unpack]
  split
  case isTrue special =>
    split
    case isTrue noMantissa =>
      rw [special, noMantissa] at whole
      exact whole
    case isFalse someMantissa =>
      exact (valid.eq_packedNaN special someMantissa).symm
  case isFalse notSpecial =>
    split
    case isTrue noExponent =>
      split
      case isTrue noMantissa =>
        rw [noExponent, noMantissa] at whole
        exact whole
      case isFalse someMantissa =>
        rw [noExponent] at whole ⊢
        simp only [pack]
        rw [if_neg (log2_add_one_ne_mantissaBits _), if_neg (by decide),
          BitVec.ofNat_toNat, BitVec.setWidth_eq]
        exact whole
    case isFalse someExponent =>
      have biased (exponent : Nat) :
          ((exponent : Int) -
              (Format.binary64.exponentBias +
                Format.binary64.mantissaBitsWithoutImplicit) +
            Format.binary64.exponentBias +
              Format.binary64.mantissaBitsWithoutImplicit).toNat =
            exponent := by
        omega
      have inRange :
          ¬2 ^ 11 ≤ (@unpackExponent Format.binary64 bits).toNat + 1 := by
        intro tooLarge
        apply notSpecial
        apply BitVec.eq_of_toNat_eq
        have bounded : (@unpackExponent Format.binary64 bits).toNat < 2 ^ 11 :=
          (@unpackExponent Format.binary64 bits).isLt
        change _ = 2 ^ 11 - 1
        omega
      simp only [pack, biased]
      rw [if_neg inRange, if_pos (log2_leading_append _), ofNat_leading_append,
        BitVec.ofNat_toNat, BitVec.setWidth_eq]
      exact whole

/-- A double is made again from its bits. -/
theorem ofBits_toBits (value : Float) : Float.ofBits value.toBits = value := by
  obtain ⟨⟨bits, valid⟩⟩ := value
  have same := pack_unpack valid
  simp only [Float.ofBits, Float.toBits, Float.Model.ofBits, Float.Model.pack]
  congr 2
  exact congrArg UInt64.ofBitVec same

/-- A double is made again from its sign bit and its magnitude pattern. -/
theorem ofPattern_signBit_magnitudePattern (value : Float) :
    ofPattern (signBit value) (magnitudePattern value) = value := by
  have bounded := value.toBits.toNat_lt
  have whole :
      (if signBit value then twoTo 63 + magnitudePattern value
        else magnitudePattern value) =
        value.toBits.toNat := by
    simp only [signBit, magnitudePattern, twoTo, Nat.pow_eq, decide_eq_true_eq]
    split <;> omega
  rw [ofPattern, whole, UInt64.ofNat_toNat, ofBits_toBits]

/-- The magnitude pattern of a finite double lies below that of infinity. -/
theorem magnitudePattern_lt_of_isFinite
    {value : Float}
    (finite : value.isFinite = true) :
    magnitudePattern value < infinityPattern := by
  let bits := value.toBits.toBitVec
  have notSpecial : @unpackExponent Format.binary64 bits ≠ -1#11 := by
    intro special
    have isFinite : (unpack Format.binary64 bits).isFinite = true := finite
    simp only [unpack, special, if_true] at isFinite
    by_cases noMantissa : @unpackMantissa Format.binary64 bits = 0#52
    · rw [if_pos noMantissa] at isFinite
      cases isFinite
    · rw [if_neg noMantissa] at isFinite
      cases isFinite
  have exponent :
      (@unpackExponent Format.binary64 bits).toNat =
        value.toBits.toNat / 2 ^ 52 % 2 ^ 11 := by
    change (value.toBits.toNat >>> 52) % 2 ^ 11 = _
    rw [Nat.shiftRight_eq_div_pow]
  have notFull : value.toBits.toNat / 2 ^ 52 % 2 ^ 11 ≠ 2047 := by
    intro full
    exact notSpecial (BitVec.eq_of_toNat_eq (exponent.trans full))
  simp only [magnitudePattern, infinityPattern, twoTo, Nat.pow_eq]
  omega

end Storyboard.Number
