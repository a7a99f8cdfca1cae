import Storyboard.Number.Power

namespace Storyboard.Number

/-!
# Doubles as whole numbers

Every finite double is a whole number of least positive doubles, `2 ^ -1074`.
Counting in that unit turns the value of a bit pattern, and the rounding of a
fraction to the nearest double, into arithmetic of natural numbers.

The pattern of a positive double is `shift * 2 ^ 52 + mantissa`, where the
value is `mantissa * 2 ^ shift` units and `shift` is zero unless the mantissa
fills its 53 bits.  A mantissa that rounds up to `2 ^ 53` carries into the next
shift by itself, so one formula serves subnormal, normal and carried results.
-/

/-- How many least positive doubles make one. -/
def unitsPerOne : Nat := twoTo 1074

/--
The pattern of positive infinity; a larger one, without its sign, is not a
number.
-/
def infinityPattern : Nat := 2047 * twoTo 52

/-- The bit pattern of a double without its sign bit. -/
def magnitudePattern (value : Float) : Nat :=
  value.toBits.toNat % twoTo 63

/-- Whether the sign bit is set, which also holds of negative zero. -/
def signBit (value : Float) : Bool :=
  twoTo 63 ≤ value.toBits.toNat

/-- The double with a given sign bit and magnitude pattern. -/
def ofPattern (negative : Bool) (pattern : Nat) : Float :=
  Float.ofBits (UInt64.ofNat (if negative then twoTo 63 + pattern else pattern))

/--
The value of a finite magnitude pattern, counted in least positive doubles.
-/
def unitsOfPattern (pattern : Nat) : Nat :=
  let shift := pattern / twoTo 52 - 1
  (pattern - shift * twoTo 52) * twoTo shift

/--
The whole number nearest to a quotient; a half goes to the even neighbour.
-/
def roundQuotient (numerator denominator : Nat) : Nat :=
  let quotient := numerator / denominator
  let twice := 2 * (numerator % denominator)
  if twice < denominator then
    quotient
  else if denominator < twice then
    quotient + 1
  else
    quotient + quotient % 2

/--
The magnitude pattern of the double nearest to a fraction.

A half goes to the even mantissa, and what lies beyond the largest finite
double by half a unit of its last place or more becomes infinite.
-/
def nearestPattern (numerator denominator : Nat) : Nat :=
  let units := numerator * unitsPerOne
  let shift := (units / denominator).log2 - 52
  min infinityPattern
    (shift * twoTo 52 + roundQuotient units (denominator * twoTo shift))

/-- A quotient without remainder is not changed by rounding. -/
theorem roundQuotient_mul
    (quotient : Nat)
    {denominator : Nat}
    (positive : 0 < denominator) :
    roundQuotient (quotient * denominator) denominator = quotient := by
  simp [roundQuotient, Nat.mul_div_cancel _ positive, positive]

end Storyboard.Number
