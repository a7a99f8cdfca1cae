namespace Storyboard.Text

/-!
# Classes of characters

A class of characters is a table of ranges of code points in ascending order.
Whether a character belongs to it is found by halving.
-/

/-- Ranges of code points in ascending order, each with both of its ends. -/
abbrev Ranges := Array (Nat × Nat)

namespace Ranges

/--
Whether a code point lies in one of the ranges from one place up to before
another.
-/
def containsWithin (ranges : Ranges) (code start stop : Nat) : Bool :=
  if start < stop then
    let middle := (start + stop) / 2
    match ranges[middle]? with
    | none => false
    | some (first, last) =>
        if code < first then
          ranges.containsWithin code start middle
        else if last < code then
          ranges.containsWithin code (middle + 1) stop
        else
          true
  else
    false
termination_by stop - start

/-- Whether a character belongs to a class. -/
def contains (ranges : Ranges) (c : Char) : Bool :=
  ranges.containsWithin c.toNat 0 ranges.size

end Ranges

end Storyboard.Text
