import Mathlib
import Storyboard.Proofs.Number.Values
import Storyboard.Sheet

namespace Storyboard

/-!
# Sheets with sides in words

The sides of a sheet are words of 32 bits, so its edges are doubles without
rounding.
-/

open Number

/-- Whether the sides of a sheet are words of 32 bits. -/
structure Sheet.InWords (sheet : Sheet) : Prop where
  width_lt : sheet.width < 2 ^ 32
  height_lt : sheet.height < 2 ^ 32

namespace Sheet

/-- An edge at a distance from the origin that is a word of 32 bits. -/
theorem value_edge
    {side : Nat}
    (inWords : side < 2 ^ 32) :
    value (Float.ofNat side) = side ∧ (Float.ofNat side).isFinite = true :=
  value_ofNat (inWords.trans (by decide))

theorem isNaN_edge
    {side : Nat}
    (inWords : side < 2 ^ 32) :
    (Float.ofNat side).isNaN = false :=
  isNaN_eq_false_of_isFinite (value_edge inWords).2

end Sheet

end Storyboard
