import Storyboard.Pattern.Matcher

namespace Storyboard.Pattern

/-!
# The size of matchers

A matcher is laid out in memory as states with arrows between them before it is
used, and one that would grow too large is refused.  A counted repetition
repeats the states of its part.
-/

/-- The bytes that a state takes. -/
def stateSize : Nat :=
  32

/-- The bytes that an arrow for a range of bytes takes. -/
def arrowSize : Nat :=
  8

/-- The bytes that an arrow between alternatives takes. -/
def choiceSize : Nat :=
  4

/-- The most bytes that a matcher may take. -/
def maxSize : Nat :=
  10485760

namespace CharSet

/-- How many sequences of byte ranges a range of characters needs at most. -/
def sequences (first last : Nat) : Nat :=
  if last < 0x80 then 1
  else if last < 0x800 then 2
  else if last < 0x10000 then if first < 0x80 then 6 else 4
  else if first < 0x80 then 9 else 5

/-- The bytes that a set of characters takes. -/
def size (set : CharSet) : Nat :=
  match set.ranges with
  | [] => stateSize
  | [(first, last)] =>
      if first = last then
        stateSize * (Char.ofNat first).utf8Size
      else if last < 0x80 then
        2 * stateSize + arrowSize
      else
        (sequences first last + 4) * (stateSize + arrowSize)
  | ranges =>
      if ranges.all fun (_, last) => last < 0x80 then
        2 * stateSize + arrowSize * ranges.length
      else
        let sequenceCount :=
          ranges.foldr (fun (first, last) sum => sequences first last + sum) 0
        (sequenceCount + 4) * (stateSize + arrowSize)

end CharSet

/-- The bytes that the states of a matcher take. -/
def Matcher.size : Matcher → Nat
  | nothing | look _ => stateSize
  | chars set => set.size
  | both first second => first.size + second.size
  | either first second =>
      2 * stateSize + 2 * choiceSize + first.size + second.size
  | repeated least most part =>
      let choice := stateSize + 2 * choiceSize + part.size
      match most with
      | none => (least - 1) * part.size + choice
      | some most => least * part.size + stateSize + (most - least) * choice
  | captured part => 2 * stateSize + part.size

/-- Whether a matcher is refused for its size. -/
def Matcher.isTooLarge (matcher : Matcher) : Bool :=
  maxSize < matcher.size

end Storyboard.Pattern
