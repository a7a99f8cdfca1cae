import Storyboard.Number.Binary64
import Storyboard.Number.Decimal

namespace Storyboard.Number

/-!
# Printed forms of a double

`shortest` writes the fewest significant digits that read back as the same
double and, of those, the digits nearest to its value; an exact tie goes away
from zero.  `tenths` writes the exact value rounded to one decimal place, a half
going to the even digit.  Both are positional whatever the size of the number,
keep the sign of negative zero and share the names of what is not finite.
-/

/-- The exponent of the leading decimal digit of a positive number of units. -/
def leadingExponent (units : Nat) : Int :=
  if unitsPerOne ≤ units then
    digitCount (units / unitsPerOne) - 1
  else
    -digitCount ((unitsPerOne - 1) / units)

/--
Whether `coefficient * 10 ^ exponent` reads back as the double of a pattern.
-/
def readsBack (pattern coefficient : Nat) (exponent : Int) : Bool :=
  nearestPattern (coefficient * tenTo exponent.toNat)
    (tenTo (-exponent).toNat) == pattern

/--
The multiple of `10 ^ exponent` that reads back as a double and is nearest to
it.

Only the two neighbours of the value need a test: the numbers that read back
form an interval around it.
-/
def nearestOnGrid? (pattern : Nat) (exponent : Int) : Option Decimal :=
  let numerator := unitsOfPattern pattern * tenTo (-exponent).toNat
  let denominator := unitsPerOne * tenTo exponent.toNat
  let below := numerator / denominator
  let above := below + 1
  match readsBack pattern below exponent, readsBack pattern above exponent with
  | true, true =>
      if 2 * (numerator % denominator) < denominator then
        some (.ofScientific below exponent)
      else
        some (.ofScientific above exponent)
  | true, false => some (.ofScientific below exponent)
  | false, true => some (.ofScientific above exponent)
  | false, false => none

/-- Every digit of a finite double, none of them rounded. -/
def exactDecimal (pattern : Nat) : Decimal :=
  ⟨unitsOfPattern pattern * (tenTo 1074 / unitsPerOne), 1074⟩

/-- The shortest decimal that reads back as the double of a finite pattern. -/
def shortestDecimal (pattern : Nat) : Decimal :=
  let leading := leadingExponent (unitsOfPattern pattern)
  let found := (List.range 17).findSome? fun (digits : Nat) =>
    nearestOnGrid? pattern (leading - digits)
  let decimal := found.getD (exactDecimal pattern)
  Decimal.trimmed decimal.units decimal.places

/--
The value of a finite pattern rounded to tenths, a half to the even digit.
-/
def tenthsDecimal (pattern : Nat) : Decimal :=
  ⟨roundQuotient (10 * unitsOfPattern pattern) unitsPerOne, 1⟩

/--
Put a sign before the printed magnitude and name the numbers that are not
finite.
-/
def printWith (finite : Nat → Decimal) (value : Float) : List Char :=
  let pattern := magnitudePattern value
  if infinityPattern < pattern then
    "NaN".toList
  else
    let magnitude :=
      if pattern = infinityPattern then
        "inf".toList
      else
        (finite pattern).toChars
    if signBit value then '-' :: magnitude else magnitude

/-- The shortest text that reads back as a double. -/
def shortest (value : Float) : String :=
  .ofList (printWith shortestDecimal value)

/-- The text of a double with one digit after the point. -/
def tenths (value : Float) : String :=
  .ofList (printWith tenthsDecimal value)

end Storyboard.Number
