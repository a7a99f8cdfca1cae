import Storyboard.Text.Blank

namespace Storyboard

/-!
# Kinds of shapes

A shape is a rectangle or an oval.  Scripts write the kind as a word in any
letter case; reports write the same word in small letters.
-/

/-- What a shape is, apart from where it lies and how large it is. -/
inductive Kind where
  | rectangle
  | oval
deriving Repr, DecidableEq

namespace Kind

/-- The word for a kind. -/
def word : Kind → String
  | rectangle => "rectangle"
  | oval => "oval"

/-- The kind that a word names, whatever the case of its ASCII letters. -/
def ofWord? (text : String) : Option Kind :=
  let letters := Text.lowered text.toList
  if letters = rectangle.word.toList then
    some rectangle
  else if letters = oval.word.toList then
    some oval
  else
    none

/-- The words for the two size parameters of a kind, first and second. -/
def sizeNames : Kind → String × String
  | rectangle => ("Width", "Height")
  | oval => ("X radius", "Y radius")

/-- The word for a kind names that kind. -/
theorem ofWord?_word (kind : Kind) : ofWord? kind.word = some kind := by
  cases kind <;> decide +kernel

end Kind

end Storyboard
