import Storyboard.Pattern.Node

namespace Storyboard.Pattern

/-!
# Sets of characters

A set of characters is a list of ranges of code points in ascending order with
gaps between them.  All sets are made from ranges by union and complement.
-/

/-- Ranges of code points in ascending order, none touching the next one. -/
structure CharSet where
  ranges : List (Nat × Nat)
deriving Repr, DecidableEq

namespace CharSet

/-- The set with no character in it. -/
def empty : CharSet :=
  ⟨[]⟩

/-- Whether a set has no character in it. -/
def isEmpty (set : CharSet) : Bool :=
  set.ranges.isEmpty

/-- Whether a character is in a set. -/
def contains (set : CharSet) (c : Char) : Bool :=
  set.ranges.any fun (first, last) => first ≤ c.toNat && c.toNat ≤ last

/--
A range and later ones in ascending order of their beginnings, those that touch
made one.
-/
def joinedFrom (first last : Nat) : List (Nat × Nat) → List (Nat × Nat)
  | [] => [(first, last)]
  | (second, stop) :: rest =>
      if second ≤ last + 1 then
        joinedFrom first (max last stop) rest
      else
        (first, last) :: joinedFrom second stop rest

/-- Ranges in ascending order of their beginnings, those that touch made one. -/
def joined : List (Nat × Nat) → List (Nat × Nat)
  | [] => []
  | (first, last) :: rest => joinedFrom first last rest

/-- The set of the characters in some ranges. -/
def ofRanges (ranges : List (Nat × Nat)) : CharSet :=
  ⟨joined (ranges.mergeSort fun a b => a.1 ≤ b.1)⟩

/-- The set of the characters from one up to another. -/
def range (first last : Char) : CharSet :=
  ⟨[(first.toNat, last.toNat)]⟩

/-- The set of one character. -/
def single (c : Char) : CharSet :=
  range c c

/-- The characters of one set or another one. -/
def union (a b : CharSet) : CharSet :=
  ofRanges (a.ranges ++ b.ranges)

/-- What lies between ranges, from a code point up to a last one. -/
def gaps (start last : Nat) : List (Nat × Nat) → List (Nat × Nat)
  | [] => if start ≤ last then [(start, last)] else []
  | (first, stop) :: rest =>
      if start < first then
        (start, first - 1) :: gaps (stop + 1) last rest
      else
        gaps (stop + 1) last rest

/-- The code points that are no characters. -/
def noChars : List (Nat × Nat) :=
  [(0xD800, 0xDFFF)]

/-- The last code point. -/
def lastCode : Nat :=
  0x10FFFF

/-- The characters that are not in a set. -/
def complement (set : CharSet) : CharSet :=
  ⟨gaps 0 lastCode (ofRanges (set.ranges ++ noChars)).ranges⟩

/-- The characters of both of two sets. -/
def intersection (a b : CharSet) : CharSet :=
  (a.complement.union b.complement).complement

/-- The characters of one set that are not in another one. -/
def difference (a b : CharSet) : CharSet :=
  a.intersection b.complement

/-- The characters of exactly one of two sets. -/
def symmetricDifference (a b : CharSet) : CharSet :=
  (a.difference b).union (b.difference a)

/-- The characters that a combination of two sets has. -/
def combine : Combination → CharSet → CharSet → CharSet
  | .intersection => intersection
  | .difference => difference
  | .symmetricDifference => symmetricDifference

/-- A set with the other case of its ASCII letters. -/
def withBothCases (set : CharSet) : CharSet :=
  let shift (low high : Char) (turned : Nat → Nat) : List (Nat × Nat) :=
    set.ranges.filterMap fun (first, last) =>
      let first := max first low.toNat
      let last := min last high.toNat
      if first ≤ last then some (turned first, turned last) else none
  ofRanges (set.ranges ++ shift 'a' 'z' (· - 32) ++ shift 'A' 'Z' (· + 32))

/-- The characters of a class that has a name. -/
def ofName : NamedClass → CharSet
  | .alnum => ofRanges [(0x30, 0x39), (0x41, 0x5A), (0x61, 0x7A)]
  | .alpha => ofRanges [(0x41, 0x5A), (0x61, 0x7A)]
  | .ascii => ofRanges [(0x00, 0x7F)]
  | .blank => ofRanges [(0x09, 0x09), (0x20, 0x20)]
  | .cntrl => ofRanges [(0x00, 0x1F), (0x7F, 0x7F)]
  | .digit => ofRanges [(0x30, 0x39)]
  | .graph => ofRanges [(0x21, 0x7E)]
  | .lower => ofRanges [(0x61, 0x7A)]
  | .print => ofRanges [(0x20, 0x7E)]
  | .punct => ofRanges [(0x21, 0x2F), (0x3A, 0x40), (0x5B, 0x60), (0x7B, 0x7E)]
  | .space => ofRanges [(0x09, 0x0D), (0x20, 0x20)]
  | .upper => ofRanges [(0x41, 0x5A)]
  | .word => ofRanges [(0x30, 0x39), (0x41, 0x5A), (0x5F, 0x5F), (0x61, 0x7A)]
  | .xdigit => ofRanges [(0x30, 0x39), (0x41, 0x46), (0x61, 0x66)]

/-- The ASCII characters of a class that has a letter. -/
def ofLetter : LetterClass → CharSet
  | .digit => ofName .digit
  | .space => ofName .space
  | .word => ofName .word

end CharSet

end Storyboard.Pattern
