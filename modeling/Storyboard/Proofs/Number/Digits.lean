import Mathlib.Algebra.Group.Nat.Defs
import Mathlib.Data.List.Basic
import Storyboard.Number.Decimal

namespace Storyboard.Number

/-!
# Padded decimal numerals

A padded numeral consists of digits only and reads back as the number that was
written, whatever the width.  Hence no two numbers share a padded numeral, even
where the number has outgrown the width.
-/

/-- Reading digits is the positional value in base ten. -/
theorem ofDigits_eq_ofDigitChars (digits : List Char) :
    ofDigits digits = Nat.ofDigitChars 10 digits 0 :=
  Nat.ofDigitChars_eq_foldl.symm

/-- A padded numeral reads back as the number that it was written for. -/
theorem ofDigits_paddedDigits (width number : Nat) :
    ofDigits (paddedDigits width number) = number := by
  rw [ofDigits_eq_ofDigitChars, paddedDigits, Nat.ofDigitChars_append,
    Nat.ofDigitChars_replicate_zero, Nat.mul_zero,
    Nat.ofDigitChars_ten_toDigits]

/-- Digits followed by further ones are shifted by as many places. -/
theorem ofDigits_append (first second : List Char) :
    ofDigits (first ++ second) =
      10 ^ second.length * ofDigits first + ofDigits second := by
  simp only [ofDigits_eq_ofDigitChars, Nat.ofDigitChars_append]
  exact Nat.ofDigitChars_eq_ofDigitChars_zero

/-- A number that fits into a width is padded to exactly that width. -/
theorem length_paddedDigits
    {width number : Nat}
    (positive : 0 < width)
    (fits : number < 10 ^ width) :
    (paddedDigits width number).length = width := by
  have short : (Nat.toDigits 10 number).length ≤ width :=
    (Nat.length_toDigits_le_iff (by decide) positive).mpr fits
  simp only [paddedDigits, List.length_append, List.length_replicate]
  omega

theorem paddedDigits_ne_nil (width number : Nat) :
    paddedDigits width number ≠ [] := by
  simp [paddedDigits, Nat.toDigits_ne_nil]

/-- Two numbers that are written alike at one width are equal. -/
theorem paddedDigits_injective (width : Nat) :
    Function.Injective (paddedDigits width) := by
  intro first second sameDigits
  have sameValue := congrArg ofDigits sameDigits
  rwa [ofDigits_paddedDigits, ofDigits_paddedDigits] at sameValue

theorem isDigit_of_mem_toDigits
    {number : Nat}
    {c : Char}
    (member : c ∈ Nat.toDigits 10 number) :
    c.isDigit = true :=
  Nat.isDigit_of_mem_toDigits (by decide) (by decide) member

/-- Padding adds nothing but zeros, so a padded numeral has only digits. -/
theorem isDigit_of_mem_paddedDigits
    {width number : Nat}
    {c : Char}
    (member : c ∈ paddedDigits width number) :
    c.isDigit = true := by
  rcases List.mem_append.mp member with inPadding | inDigits
  · rw [List.eq_of_mem_replicate inPadding]
    rfl
  · exact isDigit_of_mem_toDigits inDigits

theorem notMem_paddedDigits
    {c : Char}
    (noDigit : c.isDigit = false)
    (width number : Nat) :
    c ∉ paddedDigits width number := by
  intro member
  rw [isDigit_of_mem_paddedDigits member] at noDigit
  cases noDigit

end Storyboard.Number
