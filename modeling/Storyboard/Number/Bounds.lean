namespace Storyboard.Number

/-!
# The larger and the smaller of two doubles

An operand that is not a number is ignored, so the result is a number unless
neither operand is one.
-/

/-- The larger of two doubles, ignoring what is not a number. -/
def larger (first second : Float) : Float :=
  if first.isNaN then
    second
  else if first < second then
    second
  else
    first

/-- The smaller of two doubles, ignoring what is not a number. -/
def smaller (first second : Float) : Float :=
  if first.isNaN then
    second
  else if second < first then
    second
  else
    first

end Storyboard.Number
