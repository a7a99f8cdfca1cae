import Mathlib
import Storyboard.Proofs.Number.Nearest

namespace Storyboard.Number

/-!
# Doubles in a row

The rank of a double is its magnitude pattern, negative below zero.  Ranks count
the doubles outwards from zero, and their values grow with them; infinity has
the rank and the value that the double after the largest one would have.

A number is rounded to the rank between whose two halfway points it lies, and on
such a point to the even one.  So rounding keeps the order of numbers, whatever
their signs are and however far apart the doubles lie.
-/

/--
A mantissa of at most 53 bits behind a shift is that many shifted units.  If it
is full, it carries into the shift, which doubles the unit and halves the
mantissa.
-/
theorem unitsOfPattern_of_parts
    {shift mantissa : Nat}
    (fits : mantissa ≤ 2 ^ 53)
    (full : 2 ^ 52 ≤ mantissa ∨ shift = 0) :
    unitsOfPattern (shift * 2 ^ 52 + mantissa) = mantissa * 2 ^ shift := by
  rw [unitsOfPattern_eq]
  simp only [shiftOfPattern, twoTo, Nat.pow_eq]
  by_cases short : mantissa < 2 ^ 53
  · have isShift : (shift * 2 ^ 52 + mantissa) / 2 ^ 52 - 1 = shift := by omega
    rw [isShift, Nat.add_sub_cancel_left]
  · obtain rfl : mantissa = 2 ^ 53 := by omega
    have isShift :
        (shift * 2 ^ 52 + 2 ^ 53) / 2 ^ 52 - 1 = shift + 1 := by omega
    have isMantissa :
        shift * 2 ^ 52 + 2 ^ 53 - (shift + 1) * 2 ^ 52 = 2 ^ 52 := by omega
    rw [isShift, isMantissa]
    ring

/-- Every pattern is a mantissa behind a shift. -/
theorem exists_parts (pattern : Nat) :
    ∃ shift mantissa,
      pattern = shift * 2 ^ 52 + mantissa ∧
        mantissa < 2 ^ 53 ∧ (2 ^ 52 ≤ mantissa ∨ shift = 0) := by
  refine ⟨pattern / 2 ^ 52 - 1, pattern - (pattern / 2 ^ 52 - 1) * 2 ^ 52,
    ?_, ?_, ?_⟩ <;> omega

/-- The next pattern is one more unit of the shift. -/
theorem unitsOfPattern_succ
    {shift mantissa : Nat}
    (fits : mantissa < 2 ^ 53)
    (full : 2 ^ 52 ≤ mantissa ∨ shift = 0) :
    unitsOfPattern (shift * 2 ^ 52 + mantissa + 1) =
      (mantissa + 1) * 2 ^ shift := by
  rw [Nat.add_assoc]
  exact unitsOfPattern_of_parts (by omega) (by omega)

theorem unitsOfPattern_strictMono : StrictMono unitsOfPattern := by
  refine strictMono_nat_of_lt_succ fun pattern => ?_
  obtain ⟨shift, mantissa, rfl, fits, full⟩ := exists_parts pattern
  rw [unitsOfPattern_of_parts fits.le full, unitsOfPattern_succ fits full]
  exact Nat.mul_lt_mul_of_pos_right (Nat.lt_succ_self mantissa)
    (Nat.two_pow_pos shift)

theorem unitsOfPattern_zero : unitsOfPattern 0 = 0 := by
  have noUnits : unitsOfPattern (0 * 2 ^ 52 + 0) = 0 * 2 ^ 0 :=
    unitsOfPattern_of_parts (by omega) (by omega)
  simpa using noUnits

/-- The least positive double. -/
def leastDouble : ℚ :=
  2 ^ (-1074 : ℤ)

theorem leastDouble_pos : 0 < leastDouble :=
  zpow_pos (by decide) _

/-- The value of the double of a rank. -/
def rankValue (rank : ℤ) : ℚ :=
  rank.sign * unitsOfPattern rank.natAbs * leastDouble

theorem rankValue_natCast (pattern : Nat) :
    rankValue pattern = unitsOfPattern pattern * leastDouble := by
  cases pattern with
  | zero =>
      simp [rankValue, unitsOfPattern_zero]
  | succ pattern =>
      rw [rankValue, Int.sign_natCast_of_ne_zero (Nat.succ_ne_zero pattern),
        Int.natAbs_natCast, Int.cast_one, one_mul]

@[simp] theorem rankValue_zero : rankValue 0 = 0 := by
  simp [rankValue]

@[simp] theorem rankValue_neg (rank : ℤ) :
    rankValue (-rank) = -rankValue rank := by
  simp [rankValue]

theorem rankValue_strictMono : StrictMono rankValue := by
  have natural (pattern : Nat) :
      rankValue pattern < rankValue (pattern + 1 : Nat) := by
    have units := unitsOfPattern_strictMono (Nat.lt_succ_self pattern)
    rw [rankValue_natCast, rankValue_natCast]
    exact mul_lt_mul_of_pos_right (by exact_mod_cast units) leastDouble_pos
  refine strictMono_int_of_lt_succ fun rank => ?_
  cases rank with
  | ofNat pattern =>
      exact natural pattern
  | negSucc pattern =>
      have below : Int.negSucc pattern = -((pattern + 1 : Nat) : ℤ) := rfl
      have above : Int.negSucc pattern + 1 = -(pattern : ℤ) := by omega
      rw [above, below, rankValue_neg, rankValue_neg]
      exact neg_lt_neg (natural pattern)

/-- The value of a mantissa in the unit that its exponent tells. -/
theorem rankValue_of_parts
    {shift mantissa : Nat}
    (fits : mantissa ≤ 2 ^ 53)
    (full : 2 ^ 52 ≤ mantissa ∨ shift = 0) :
    rankValue (shift * 2 ^ 52 + mantissa : Nat) =
      mantissa * 2 ^ ((shift : ℤ) - 1074) := by
  rw [rankValue_natCast, unitsOfPattern_of_parts fits full, leastDouble,
    sub_eq_add_neg, zpow_add₀ two_ne_zero, zpow_natCast, Nat.cast_mul,
    Nat.cast_pow, Nat.cast_ofNat, mul_assoc]

/-- The number half-way between a rank and the next one. -/
def halfway (rank : ℤ) : ℚ :=
  (rankValue rank + rankValue (rank + 1)) / 2

theorem halfway_strictMono : StrictMono halfway := by
  intro first second less
  have lower := rankValue_strictMono less
  have upper := rankValue_strictMono (add_lt_add_left less 1)
  unfold halfway
  linarith

theorem rankValue_lt_halfway (rank : ℤ) : rankValue rank < halfway rank := by
  have next := rankValue_strictMono (lt_add_one rank)
  unfold halfway
  linarith

theorem halfway_pred_lt_rankValue (rank : ℤ) :
    halfway (rank - 1) < rankValue rank := by
  have next := rankValue_strictMono (sub_one_lt rank)
  unfold halfway
  rw [sub_add_cancel]
  linarith

theorem halfway_neg (rank : ℤ) : halfway (-rank) = -halfway (rank - 1) := by
  have next : -rank + 1 = -(rank - 1) := by omega
  rw [halfway, halfway, sub_add_cancel, next, rankValue_neg, rankValue_neg]
  ring

/--
A rank is the nearest to a number, and the even one of two that are equally
near.
-/
structure Nearest (exact : ℚ) (rank : ℤ) : Prop where
  halfway_le :
    halfway (rank - 1) ≤ exact
  le_halfway :
    exact ≤ halfway rank
  even_of_eq :
    exact = halfway (rank - 1) ∨ exact = halfway rank → Even rank

namespace Nearest

variable
  {exact first second : ℚ}
  {rank firstRank secondRank : ℤ}

/-- A number is rounded to its own rank if it has one. -/
theorem self (rank : ℤ) : Nearest (rankValue rank) rank where
  halfway_le := (halfway_pred_lt_rankValue rank).le
  le_halfway := (rankValue_lt_halfway rank).le
  even_of_eq := by
    rintro (same | same)
    · exact absurd same (halfway_pred_lt_rankValue rank).ne'
    · exact absurd same (rankValue_lt_halfway rank).ne

/--
Rounding keeps the order of numbers: if it crossed them, both would be the
halfway point between their ranks, of which only one is even.
-/
theorem mono
    (firstNearest : Nearest first firstRank)
    (secondNearest : Nearest second secondRank)
    (ordered : first ≤ second) :
    firstRank ≤ secondRank := by
  by_contra crossed
  have apart : secondRank ≤ firstRank - 1 := by omega
  have between : halfway secondRank ≤ halfway (firstRank - 1) :=
    halfway_strictMono.monotone apart
  have lower := firstNearest.halfway_le
  have upper := secondNearest.le_halfway
  have adjacent : secondRank = firstRank - 1 :=
    halfway_strictMono.injective (le_antisymm between (by linarith))
  have firstEven : Even firstRank :=
    firstNearest.even_of_eq (.inl (by linarith))
  have secondEven : Even secondRank :=
    secondNearest.even_of_eq (.inr (by linarith))
  rw [adjacent, Int.even_sub_one, Int.not_even_iff_odd] at secondEven
  exact Int.not_even_iff_odd.mpr secondEven firstEven

/-- A number has no two nearest ranks. -/
theorem unique
    (nearest : Nearest exact firstRank)
    (alsoNearest : Nearest exact secondRank) :
    firstRank = secondRank :=
  le_antisymm (nearest.mono alsoNearest le_rfl)
    (alsoNearest.mono nearest le_rfl)

/-- A number of at least the value of a rank is not rounded to one below. -/
theorem le_rank
    (nearest : Nearest exact rank)
    {bound : ℤ}
    (atLeast : rankValue bound ≤ exact) :
    bound ≤ rank :=
  (self bound).mono nearest atLeast

theorem rank_le
    (nearest : Nearest exact rank)
    {bound : ℤ}
    (atMost : exact ≤ rankValue bound) :
    rank ≤ bound :=
  nearest.mono (self bound) atMost

/-- Rounding treats both signs alike. -/
theorem neg (nearest : Nearest exact rank) : Nearest (-exact) (-rank) where
  halfway_le := by
    rw [← neg_add', halfway_neg, add_sub_cancel_right]
    exact neg_le_neg nearest.le_halfway
  le_halfway := by
    rw [halfway_neg]
    exact neg_le_neg nearest.halfway_le
  even_of_eq := by
    rw [← neg_add', halfway_neg, halfway_neg, add_sub_cancel_right, neg_inj,
      neg_inj, even_neg]
    exact fun onHalfway => nearest.even_of_eq onHalfway.symm

end Nearest

/-! The further from zero, the wider apart are the doubles. -/

/--
The rank at the end of a shift, that of the longest mantissa and one more unit.
-/
def shiftEnd (shift : Nat) : Nat :=
  shift * 2 ^ 52 + 2 ^ 53

theorem rankValue_shiftEnd (shift : Nat) :
    rankValue (shiftEnd shift) = 2 ^ 53 * 2 ^ ((shift : ℤ) - 1074) := by
  rw [shiftEnd, rankValue_of_parts le_rfl (.inl (by decide))]
  norm_num

/-- Up to the end of a shift two doubles are not further apart than its unit. -/
theorem rankValue_succ_sub_le
    {shift : Nat}
    {rank : ℤ}
    (lower : -(shiftEnd shift : ℤ) ≤ rank)
    (upper : rank < shiftEnd shift) :
    rankValue (rank + 1) - rankValue rank ≤ 2 ^ ((shift : ℤ) - 1074) := by
  have natural {pattern : Nat} (inShift : pattern < shiftEnd shift) :
      rankValue (pattern + 1 : Nat) - rankValue pattern ≤
        2 ^ ((shift : ℤ) - 1074) := by
    obtain ⟨ownShift, mantissa, rfl, fits, full⟩ := exists_parts pattern
    have notBeyond : ownShift ≤ shift := by
      unfold shiftEnd at inShift
      omega
    rw [Nat.add_assoc, rankValue_of_parts fits.le full,
      rankValue_of_parts (Nat.succ_le_of_lt fits)
        (full.imp_left (Nat.le_succ_of_le))]
    calc
      ((mantissa + 1 : Nat) : ℚ) * 2 ^ ((ownShift : ℤ) - 1074) -
          mantissa * 2 ^ ((ownShift : ℤ) - 1074) =
            2 ^ ((ownShift : ℤ) - 1074) := by
        push_cast
        ring
      _ ≤ 2 ^ ((shift : ℤ) - 1074) :=
        zpow_le_zpow_right₀ (by norm_num) (by omega)
  cases rank with
  | ofNat pattern =>
      exact natural (by simpa using upper)
  | negSucc pattern =>
      have below : Int.negSucc pattern = -((pattern + 1 : Nat) : ℤ) := rfl
      have above : Int.negSucc pattern + 1 = -(pattern : ℤ) := by omega
      have inShift : pattern < shiftEnd shift := by omega
      rw [above, below, rankValue_neg, rankValue_neg]
      linarith [natural inShift]

/--
Rounding changes a number by at most half a unit of the shift that it lies in.
-/
theorem Nearest.abs_sub_le
    {shift : Nat}
    {exact : ℚ}
    {rank : ℤ}
    (nearest : Nearest exact rank)
    (inShift : |exact| ≤ 2 ^ 53 * 2 ^ ((shift : ℤ) - 1074)) :
    |rankValue rank - exact| ≤ 2 ^ ((shift : ℤ) - 1074) / 2 := by
  rw [← rankValue_shiftEnd] at inShift
  obtain ⟨lower, upper⟩ := abs_le.mp inShift
  have rankUpper : rank ≤ shiftEnd shift := nearest.rank_le upper
  have rankLower : -(shiftEnd shift : ℤ) ≤ rank :=
    nearest.le_rank (by rwa [rankValue_neg])
  have unitPos : (0 : ℚ) < 2 ^ ((shift : ℤ) - 1074) := zpow_pos (by norm_num) _
  have fromAbove := nearest.le_halfway
  have fromBelow := nearest.halfway_le
  unfold halfway at fromAbove fromBelow
  rw [sub_add_cancel] at fromBelow
  rw [abs_le]
  constructor
  · rcases rankUpper.lt_or_eq with inside | atEnd
    · linarith [rankValue_succ_sub_le rankLower inside]
    · rw [atEnd]
      linarith
  · rcases rankLower.lt_or_eq with inside | atEnd
    · have gap : rankValue (rank - 1 + 1) - rankValue (rank - 1) ≤
          2 ^ ((shift : ℤ) - 1074) :=
        rankValue_succ_sub_le (by omega) (by omega)
      rw [sub_add_cancel] at gap
      linarith
    · rw [← atEnd, rankValue_neg]
      linarith

end Storyboard.Number
