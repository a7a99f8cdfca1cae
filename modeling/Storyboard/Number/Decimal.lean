import Storyboard.Number.Power

namespace Storyboard.Number

/-!
# Decimal numerals

A decimal is a whole number of units of a decimal place.  It is written
positionally, with exactly as many digits after the point as it has places and
without a point when it has none.
-/

/-- The decimal digits of a number, zeros put in front up to a least width. -/
def paddedDigits (width number : Nat) : List Char :=
  let digits := Nat.toDigits 10 number
  List.replicate (width - digits.length) '0' ++ digits

/-- How many decimal digits a number is written with. -/
def digitCount (number : Nat) : Nat :=
  (Nat.toDigits 10 number).length

/-- The number that a list of decimal digits denotes. -/
def ofDigits (digits : List Char) : Nat :=
  digits.foldl (fun value digit => 10 * value + (digit.toNat - '0'.toNat)) 0

/-- A non-negative decimal: `units / 10 ^ places`. -/
structure Decimal where
  units : Nat
  places : Nat
deriving Repr, DecidableEq

namespace Decimal

/-- The decimal `coefficient * 10 ^ exponent`. -/
def ofScientific (coefficient : Nat) (exponent : Int) : Decimal :=
  ⟨coefficient * tenTo exponent.toNat, (-exponent).toNat⟩

/-- Drop the zeros that end the digits after the point. -/
def trimmed (units : Nat) : Nat → Decimal
  | 0 => ⟨units, 0⟩
  | places + 1 =>
      if units % 10 = 0 then
        trimmed (units / 10) places
      else
        ⟨units, places + 1⟩

/-- The positional form of a decimal. -/
def toChars (decimal : Decimal) : List Char :=
  let whole := Nat.toDigits 10 (decimal.units / tenTo decimal.places)
  if decimal.places = 0 then
    whole
  else
    whole ++ '.' ::
      paddedDigits decimal.places (decimal.units % tenTo decimal.places)

end Decimal

end Storyboard.Number
