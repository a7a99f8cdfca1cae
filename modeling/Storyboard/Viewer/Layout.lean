import Storyboard.Display.Basic

namespace Storyboard.Viewer

open Display

/-!
# The layout

The status bar is the bottom row.  Above it the drawing takes about two thirds
of the columns; the list has two fifths of the rows beside it, the details the
rest.  Parts of a column or row are rounded, a half upwards.
-/

/-- The places of all panes. -/
structure Layout where
  drawing : Area
  list : Area
  details : Area
  status : Area
deriving Repr, DecidableEq

/-- The layout of a screen. -/
def Layout.ofSize (width height : Nat) : Layout :=
  let above := height - 1
  let drawingWidth := (13 * width + 10) / 20
  let listHeight := (4 * above + 5) / 10
  let sideWidth := width - drawingWidth
  { drawing := ⟨0, 0, drawingWidth, above⟩
    list := ⟨drawingWidth, 0, sideWidth, listHeight⟩
    details := ⟨drawingWidth, listHeight, sideWidth, above - listHeight⟩
    status := ⟨0, above, width, height - above⟩ }

end Storyboard.Viewer
