import Storyboard.Number.Binary64
import Storyboard.Number.Decimal

namespace Storyboard.Number

/-!
# Reading numerals

A numeral is an optional sign before either a word for infinity or for what is
not a number, in any letter case, or decimal digits with at most one point
among, before or after them and an optional decimal exponent.  Its value is the
nearest double.
-/

/-- What a numeral says before it is rounded: `coefficient * 10 ^ exponent`. -/
structure Scientific where
  coefficient : Nat
  exponent : Int
deriving Repr, DecidableEq

/-- Split a sign off the front of a text; no sign means plus. -/
def splitSign : List Char → Bool × List Char
  | '-' :: rest => (true, rest)
  | '+' :: rest => (false, rest)
  | text => (false, text)

/-- A signed run of digits that ends the text. -/
def wholeExponent? (text : List Char) : Option Int :=
  let (negative, digits) := splitSign text
  if digits ≠ [] ∧ digits.all Char.isDigit then
    some (if negative then -(ofDigits digits : Int) else ofDigits digits)
  else
    none

/-- The exponent after the digits, which is zero when the text ends there. -/
def exponent? : List Char → Option Int
  | [] => some 0
  | letter :: rest => if letter.toLower = 'e' then wholeExponent? rest else none

/-- Digits with at most one point and an optional exponent, without a sign. -/
def scientific? (text : List Char) : Option Scientific := do
  let whole := text.takeWhile Char.isDigit
  let afterWhole := text.dropWhile Char.isDigit
  let (fraction, rest) :=
    match afterWhole with
    | '.' :: tail => (tail.takeWhile Char.isDigit, tail.dropWhile Char.isDigit)
    | tail => ([], tail)
  if whole = [] ∧ fraction = [] then
    none
  else
    let exponent ← exponent? rest
    some ⟨ofDigits (whole ++ fraction), exponent - fraction.length⟩

/--
The magnitude pattern of the double nearest to a scientific number.

From `10 ^ 310` on every number is infinite and below `10 ^ -330` every one is
zero, so no larger power of ten is ever computed.
-/
def Scientific.pattern (number : Scientific) : Nat :=
  if number.coefficient = 0 then
    0
  else if 310 ≤ number.exponent then
    infinityPattern
  else if number.exponent + digitCount number.coefficient < -330 then
    0
  else
    nearestPattern
      (number.coefficient * tenTo number.exponent.toNat)
      (tenTo (-number.exponent).toNat)

/--
The double that a numeral without a sign denotes, given the sign before it.
-/
def unsigned? (negative : Bool) (text : List Char) : Option Float :=
  let lowered := text.map Char.toLower
  if lowered = "inf".toList ∨ lowered = "infinity".toList then
    some (ofPattern negative infinityPattern)
  else if lowered = "nan".toList then
    some (ofPattern false (infinityPattern + twoTo 51))
  else
    (scientific? text).map fun number => ofPattern negative number.pattern

/-- The double that a numeral denotes. -/
def ofNumeral? (text : String) : Option Float :=
  let (negative, magnitude) := splitSign text.toList
  unsigned? negative magnitude

end Storyboard.Number
