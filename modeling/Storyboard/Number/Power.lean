namespace Storyboard.Number

/-!
# Powers of two and ten

The powers of the two bases in which numbers are counted here: two for the
patterns of doubles, ten for their written form.
-/

/-- A power of two. -/
abbrev twoTo (exponent : Nat) : Nat :=
  Nat.pow 2 exponent

/-- A power of ten. -/
abbrev tenTo (exponent : Nat) : Nat :=
  Nat.pow 10 exponent

end Storyboard.Number
