namespace Storyboard

/-!
# The sheet

Shapes are drawn on a sheet whose lower left corner is the origin.  What lies
beyond its edges is not visible.
-/

/-- The size of the drawing area in scene units. -/
structure Sheet where
  width : Nat := 1000
  height : Nat := 1000
deriving Repr, DecidableEq

namespace Sheet

/-- The right edge of a sheet. -/
def right (sheet : Sheet) : Float :=
  Float.ofNat sheet.width

/-- The upper edge of a sheet. -/
def top (sheet : Sheet) : Float :=
  Float.ofNat sheet.height

end Sheet

end Storyboard
