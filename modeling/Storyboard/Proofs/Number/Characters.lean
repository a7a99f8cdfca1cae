import Storyboard.Number.Printed
import Storyboard.Proofs.Number.Digits

namespace Storyboard.Number

/-!
# The characters of printed numbers

A printed number has nothing in it but digits, a sign, a point and the letters
of the names for what is not finite.  It can therefore stand wherever those
characters have no other meaning.
-/

/-- What a printed number can have beside digits. -/
def signs : List Char :=
  "-.NaNinf".toList

/-- The positional form of a decimal has only digits and a point. -/
theorem isDigit_or_eq_of_mem_toChars
    {decimal : Decimal}
    {c : Char}
    (member : c ∈ decimal.toChars) :
    c.isDigit = true ∨ c = '.' := by
  simp only [Decimal.toChars] at member
  split at member
  case isTrue =>
    exact .inl (isDigit_of_mem_toDigits member)
  case isFalse =>
    rw [List.mem_append, List.mem_cons] at member
    obtain inWhole | isPoint | inFraction := member
    · exact .inl (isDigit_of_mem_toDigits inWhole)
    · exact .inr isPoint
    · exact .inl (isDigit_of_mem_paddedDigits inFraction)

/--
A printed number has only digits and signs, however its digits are chosen.
-/
theorem isDigit_or_mem_signs_of_mem_printWith
    {finite : Nat → Decimal}
    {value : Float}
    {c : Char}
    (member : c ∈ printWith finite value) :
    c.isDigit = true ∨ c ∈ signs := by
  have inMagnitude
      (inChars :
        c ∈ if magnitudePattern value = infinityPattern then "inf".toList
          else (finite (magnitudePattern value)).toChars) :
      c.isDigit = true ∨ c ∈ signs := by
    split at inChars
    case isTrue =>
      have inName : "inf".toList ⊆ signs := by decide
      exact .inr (inName inChars)
    case isFalse =>
      refine (isDigit_or_eq_of_mem_toChars inChars).imp_right ?_
      rintro rfl
      decide
  simp only [printWith] at member
  split at member
  case isTrue =>
    have inName : "NaN".toList ⊆ signs := by decide
    exact .inr (inName member)
  case isFalse =>
    split at member
    case isTrue =>
      obtain isSign | inChars := List.mem_cons.mp member
      · subst isSign
        exact .inr (by decide)
      · exact inMagnitude inChars
    case isFalse =>
      exact inMagnitude member

/--
A character that is neither a digit nor a sign is in no number that is printed
to tenths.
-/
theorem notMem_tenths
    {c : Char}
    (noDigit : c.isDigit = false)
    (noSign : c ∉ signs)
    (value : Float) :
    c ∉ (tenths value).toList := by
  rw [tenths, String.toList_ofList]
  intro member
  rcases isDigit_or_mem_signs_of_mem_printWith member with isDigit | isSign
  · rw [noDigit] at isDigit
    cases isDigit
  · exact noSign isSign

end Storyboard.Number
