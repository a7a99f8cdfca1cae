import Mathlib.Data.List.TakeWhile
import Storyboard.Number.Numeral
import Storyboard.Number.Printed
import Storyboard.Proofs.Number.Bits
import Storyboard.Proofs.Number.Digits
import Storyboard.Proofs.Number.Nearest

namespace Storyboard.Number

/-!
# Printed numbers read back

The shortest text of a finite double is a numeral of that double.  The decimal
behind it is rounded to the pattern that it was made for: this is how it was
chosen, and the exact decimal, which serves when no short one is found, has the
value of the pattern itself.  The digits of a decimal read back as the decimal.
-/

namespace Decimal

/-- The magnitude pattern of the double nearest to a decimal. -/
def pattern (decimal : Decimal) : Nat :=
  nearestPattern decimal.units (tenTo decimal.places)

/-- Zeros at the end do not change what a decimal is rounded to. -/
theorem pattern_trimmed (units places : Nat) :
    (trimmed units places).pattern = (⟨units, places⟩ : Decimal).pattern := by
  induction places generalizing units with
  | zero =>
      rfl
  | succ places inductionHypothesis =>
      unfold trimmed
      split
      case isTrue endsInZero =>
        have tenTimes : 10 * (units / 10) = units := by omega
        calc
          (trimmed (units / 10) places).pattern =
              nearestPattern (units / 10) (tenTo places) :=
                inductionHypothesis _
          _ = nearestPattern (10 * (units / 10)) (10 * tenTo places) :=
              (nearestPattern_mul_mul_left (by decide) _ _).symm
          _ = nearestPattern units (tenTo (places + 1)) := by
              rw [tenTimes, tenTo, tenTo, Nat.pow_eq, Nat.pow_eq, Nat.pow_succ']
      case isFalse =>
        rfl

end Decimal

theorem pattern_ofScientific_of_readsBack
    {pattern coefficient : Nat}
    {exponent : Int}
    (back : readsBack pattern coefficient exponent = true) :
    (Decimal.ofScientific coefficient exponent).pattern = pattern := by
  rw [readsBack, beq_iff_eq] at back
  rw [Decimal.pattern, Decimal.ofScientific]
  exact back

/--
A decimal found on a grid is one that reads back.  The search is unfolded as a
function and its numbers are made variables, so that nothing evaluates it.
-/
theorem readsBack_of_nearestOnGrid?
    {pattern : Nat}
    {exponent : Int}
    {decimal : Decimal}
    (found : nearestOnGrid? pattern exponent = some decimal) :
    ∃ coefficient,
      readsBack pattern coefficient exponent = true ∧
        decimal = .ofScientific coefficient exponent := by
  generalize definition : @nearestOnGrid? = search at found
  delta nearestOnGrid? at definition
  subst definition
  simp only at found
  generalize unitsOfPattern pattern * tenTo (-exponent).toNat =
    numerator at found
  generalize unitsPerOne * tenTo exponent.toNat = denominator at found
  split at found
  case h_1 backBelow backAbove =>
    split at found
    case isTrue =>
      exact ⟨_, backBelow, (Option.some.inj found).symm⟩
    case isFalse =>
      exact ⟨_, backAbove, (Option.some.inj found).symm⟩
  case h_2 backBelow _ =>
    exact ⟨_, backBelow, (Option.some.inj found).symm⟩
  case h_3 _ backAbove =>
    exact ⟨_, backAbove, (Option.some.inj found).symm⟩
  case h_4 =>
    cases found

/-- All digits of a finite pattern are rounded to the pattern. -/
theorem pattern_exactDecimal
    {pattern : Nat}
    (finite : pattern < infinityPattern) :
    (exactDecimal pattern).pattern = pattern := by
  have divides : tenTo 1074 / unitsPerOne * unitsPerOne = tenTo 1074 := by
    decide +kernel
  have positive : 0 < tenTo 1074 / unitsPerOne := by
    decide +kernel
  calc
    (exactDecimal pattern).pattern =
        nearestPattern (unitsOfPattern pattern * (tenTo 1074 / unitsPerOne))
          (tenTo 1074) := by
      rw [Decimal.pattern, exactDecimal]
    _ = nearestPattern ((tenTo 1074 / unitsPerOne) * unitsOfPattern pattern)
          ((tenTo 1074 / unitsPerOne) * unitsPerOne) := by
        rw [divides, Nat.mul_comm]
    _ = nearestPattern (unitsOfPattern pattern) unitsPerOne :=
        nearestPattern_mul_mul_left positive _ _
    _ = pattern := nearestPattern_unitsOfPattern finite

/-- The shortest decimal of a finite pattern is rounded to the pattern. -/
theorem pattern_shortestDecimal
    {pattern : Nat}
    (finite : pattern < infinityPattern) :
    (shortestDecimal pattern).pattern = pattern := by
  have trimmedBack {decimal : Decimal} (back : decimal.pattern = pattern) :
      (Decimal.trimmed decimal.units decimal.places).pattern = pattern :=
    (Decimal.pattern_trimmed _ _).trans back
  simp only [shortestDecimal]
  apply trimmedBack
  cases found :
      (List.range 17).findSome? fun (digits : Nat) =>
        nearestOnGrid? pattern
          (leadingExponent (unitsOfPattern pattern) - digits) with
  | none =>
      exact pattern_exactDecimal finite
  | some decimal =>
      obtain ⟨digits, -, onGrid⟩ := List.exists_of_findSome?_eq_some found
      obtain ⟨coefficient, back, isDecimal⟩ :=
        readsBack_of_nearestOnGrid? onGrid
      rw [Option.getD_some, isDecimal]
      exact pattern_ofScientific_of_readsBack back

theorem scientific?_of_isDigit
    {whole : List Char}
    (notEmpty : whole ≠ [])
    (digits : ∀ c ∈ whole, c.isDigit = true) :
    scientific? whole = some ⟨ofDigits whole, 0⟩ := by
  have taken : whole.takeWhile Char.isDigit = whole :=
    List.takeWhile_eq_self_iff.mpr digits
  have dropped : whole.dropWhile Char.isDigit = [] :=
    List.dropWhile_eq_nil_iff.mpr digits
  simp [scientific?, taken, dropped, notEmpty, exponent?]

theorem scientific?_append_point
    {whole fraction : List Char}
    (notEmpty : whole ≠ [])
    (wholeDigits : ∀ c ∈ whole, c.isDigit = true)
    (fractionDigits : ∀ c ∈ fraction, c.isDigit = true) :
    scientific? (whole ++ '.' :: fraction) =
      some ⟨ofDigits (whole ++ fraction), -fraction.length⟩ := by
  have takenWhole :
      (whole ++ '.' :: fraction).takeWhile Char.isDigit = whole := by
    rw [List.takeWhile_append_of_pos wholeDigits]
    simp
  have droppedWhole :
      (whole ++ '.' :: fraction).dropWhile Char.isDigit = '.' :: fraction := by
    rw [List.dropWhile_append_of_pos wholeDigits]
    simp
  have taken : fraction.takeWhile Char.isDigit = fraction :=
    List.takeWhile_eq_self_iff.mpr fractionDigits
  have dropped : fraction.dropWhile Char.isDigit = [] :=
    List.dropWhile_eq_nil_iff.mpr fractionDigits
  simp [scientific?, takenWhole, droppedWhole, taken, dropped, notEmpty,
    exponent?]

/-- The digits of a decimal read as the decimal. -/
theorem scientific?_toChars (decimal : Decimal) :
    scientific? decimal.toChars = some ⟨decimal.units, -decimal.places⟩ := by
  have wholeDigits :
      ∀ c ∈ Nat.toDigits 10 (decimal.units / tenTo decimal.places),
        c.isDigit = true :=
    fun _ member => isDigit_of_mem_toDigits member
  simp only [Decimal.toChars]
  split
  case isTrue noPlaces =>
    rw [scientific?_of_isDigit Nat.toDigits_ne_nil wholeDigits,
      ofDigits_eq_ofDigitChars, Nat.ofDigitChars_ten_toDigits, noPlaces]
    simp [tenTo]
  case isFalse somePlaces =>
    have fits : decimal.units % tenTo decimal.places < 10 ^ decimal.places :=
      Nat.mod_lt _ (Nat.pow_pos (by decide))
    have length := length_paddedDigits (Nat.pos_of_ne_zero somePlaces) fits
    have parts :
        10 ^ decimal.places * (decimal.units / tenTo decimal.places) +
          decimal.units % tenTo decimal.places = decimal.units :=
      Nat.div_add_mod decimal.units (tenTo decimal.places)
    rw [scientific?_append_point Nat.toDigits_ne_nil wholeDigits
        fun _ member => isDigit_of_mem_paddedDigits member,
      ofDigits_append, ofDigits_paddedDigits, length, ofDigits_eq_ofDigitChars,
      Nat.ofDigitChars_ten_toDigits, parts]

theorem tenTo_add (first second : Nat) :
    tenTo (first + second) = tenTo first * tenTo second :=
  Nat.pow_add 10 first second

/--
A decimal whose first digit stands far enough behind the point is less than half
a unit.
-/
theorem twice_units_lt
    {units places : Nat}
    (far : digitCount units + 331 ≤ places) :
    2 * (units * unitsPerOne) < tenTo places := by
  have unitsBound : units < 10 ^ digitCount units :=
    (Nat.length_toDigits_le_iff (by decide) Nat.length_toDigits_pos).mp
      (Nat.le_refl _)
  have oneBound : 2 * unitsPerOne ≤ tenTo 331 := by
    decide +kernel
  have tenPositive : 0 < tenTo 331 := by
    decide +kernel
  calc
    2 * (units * unitsPerOne) = units * (2 * unitsPerOne) :=
      Nat.mul_left_comm 2 units unitsPerOne
    _ ≤ units * tenTo 331 := Nat.mul_le_mul_left units oneBound
    _ < tenTo (digitCount units) * tenTo 331 :=
      Nat.mul_lt_mul_of_pos_right unitsBound tenPositive
    _ = tenTo (digitCount units + 331) := (tenTo_add _ _).symm
    _ ≤ tenTo places := Nat.pow_le_pow_right (by decide) far

/--
The digits of a decimal read as the double that the decimal is rounded to.
-/
theorem pattern_scientific (decimal : Decimal) :
    Scientific.pattern ⟨decimal.units, -decimal.places⟩ = decimal.pattern := by
  simp only [Scientific.pattern, Decimal.pattern]
  split
  case isTrue noUnits =>
    rw [noUnits, nearestPattern_eq_zero]
    rw [Nat.zero_mul, Nat.mul_zero]
    exact Nat.pow_pos (by decide)
  case isFalse =>
    rw [if_neg (by omega)]
    split
    case isTrue tiny =>
      rw [nearestPattern_eq_zero]
      exact twice_units_lt (by omega)
    case isFalse =>
      simp only [Int.neg_neg, Int.toNat_natCast, Int.toNat_neg_natCast, tenTo,
        Nat.pow_eq, Nat.pow_zero, Nat.mul_one]

theorem exists_toChars_eq_cons (decimal : Decimal) :
    ∃ first rest, decimal.toChars = first :: rest ∧ first.isDigit = true := by
  obtain ⟨first, rest, whole⟩ :=
    List.exists_cons_of_ne_nil
      (Nat.toDigits_ne_nil (b := 10)
        (n := decimal.units / tenTo decimal.places))
  have isDigit : first.isDigit = true := by
    apply isDigit_of_mem_toDigits
    rw [whole]
    exact List.mem_cons_self
  simp only [Decimal.toChars, whole]
  split
  · exact ⟨first, rest, rfl, isDigit⟩
  · exact ⟨first, _, rfl, isDigit⟩

theorem toLower_of_isDigit
    {c : Char}
    (isDigit : c.isDigit = true) :
    c.toLower = c := by
  simp only [Char.isDigit, Bool.and_eq_true, decide_eq_true_eq] at isDigit
  have below : ¬('A'.val ≤ c.val ∧ c.val ≤ 'Z'.val) := by
    rintro ⟨aboveA, -⟩
    have contradiction := UInt32.le_trans aboveA isDigit.2
    revert contradiction
    decide
  rw [Char.toLower, dif_neg below]

/-- The digits of a decimal denote the double that the decimal is rounded to. -/
theorem unsigned?_toChars (negative : Bool) (decimal : Decimal) :
    unsigned? negative decimal.toChars =
      some (ofPattern negative decimal.pattern) := by
  obtain ⟨first, rest, chars, isDigit⟩ := exists_toChars_eq_cons decimal
  have noWord
      {word : List Char}
      (letter : word.head?.all (·.isDigit) = false) :
      decimal.toChars.map Char.toLower ≠ word := by
    rintro rfl
    rw [chars, List.map_cons, toLower_of_isDigit isDigit] at letter
    simp [isDigit] at letter
  simp only [unsigned?]
  rw [if_neg (by exact not_or.mpr ⟨noWord (by decide), noWord (by decide)⟩),
    if_neg (noWord (by decide)), scientific?_toChars, Option.map_some,
    pattern_scientific]

theorem splitSign_of_isDigit
    {first : Char}
    (rest : List Char)
    (isDigit : first.isDigit = true) :
    splitSign (first :: rest) = (false, first :: rest) := by
  unfold splitSign
  split
  case h_1 isSign =>
    cases isSign
    cases isDigit
  case h_2 isSign =>
    cases isSign
    cases isDigit
  case h_3 =>
    rfl

/-- The digits of a decimal behind a sign denote the double of that sign. -/
theorem ofNumeral?_signed (negative : Bool) (decimal : Decimal) :
    ofNumeral?
      (.ofList (if negative then '-' :: decimal.toChars else decimal.toChars)) =
      some (ofPattern negative decimal.pattern) := by
  rw [ofNumeral?, String.toList_ofList]
  cases negative with
  | true =>
      exact unsigned?_toChars true decimal
  | false =>
      obtain ⟨first, rest, chars, isDigit⟩ := exists_toChars_eq_cons decimal
      have noSign := splitSign_of_isDigit rest isDigit
      rw [← chars] at noSign
      simp only [Bool.false_eq_true, if_false, noSign]
      exact unsigned?_toChars false decimal

/-- A finite double is printed as its decimal behind its sign. -/
theorem shortest_eq_signed
    {value : Float}
    (finite : value.isFinite = true) :
    shortest value =
      .ofList (if signBit value
        then '-' :: (shortestDecimal (magnitudePattern value)).toChars
        else (shortestDecimal (magnitudePattern value)).toChars) := by
  have bounded := magnitudePattern_lt_of_isFinite finite
  rw [shortest, printWith]
  simp only [if_neg (Nat.not_lt.mpr (Nat.le_of_lt bounded)),
    if_neg (Nat.ne_of_lt bounded)]

/-- The shortest text of a finite double is a numeral of it. -/
theorem ofNumeral?_shortest
    {value : Float}
    (finite : value.isFinite = true) :
    ofNumeral? (shortest value) = some value := by
  rw [shortest_eq_signed finite, ofNumeral?_signed,
    pattern_shortestDecimal (magnitudePattern_lt_of_isFinite finite),
    ofPattern_signBit_magnitudePattern]

end Storyboard.Number
