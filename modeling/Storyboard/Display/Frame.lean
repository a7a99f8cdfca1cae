import Storyboard.Display.Text

namespace Storyboard.Display

/-!
# Frames

A frame is a border of one cell around a pane with a title in its upper edge.
The sides are drawn before the corners and each part over the earlier ones,
which shows where a pane has a single row or column.  The title takes the style
of the border under it.
-/

/--
A border with a title, and the free columns to the left of what it encloses.
-/
structure Frame where
  title : String
  style : Style
  padding : Nat := 0
deriving Repr, DecidableEq

namespace Frame

/-- The area that a frame encloses. -/
def inner (frame : Frame) (area : Area) : Area where
  x := min (area.x + 1) area.right + frame.padding
  y := min (area.y + 1) area.bottom
  width := area.width - 2 - frame.padding
  height := area.height - 2

/-- The title's part of the upper edge. -/
def titleArea (frame : Frame) (area : Area) : Area :=
  let title : Span := { text := frame.title }
  ⟨area.x + 1, area.y, min title.width (area.width - 2), 1⟩

/-- The sides and corners of a border in the order in which they are drawn. -/
def parts (area : Area) : List (Area × String) :=
  let right := area.right - 1
  let bottom := area.bottom - 1
  [(⟨area.x, area.y, 1, area.height⟩, "│"),
    (⟨area.x, area.y, area.width, 1⟩, "─"),
    (⟨right, area.y, 1, area.height⟩, "│"),
    (⟨area.x, bottom, area.width, 1⟩, "─"),
    (⟨right, bottom, 1, 1⟩, "┘"),
    (⟨right, area.y, 1, 1⟩, "┐"),
    (⟨area.x, bottom, 1, 1⟩, "└"),
    (⟨area.x, area.y, 1, 1⟩, "┌")]

/-- Draw a frame along the edges of an area. -/
def draw (frame : Frame) (screen : Screen) (area : Area) : Screen :=
  if area.isEmpty then
    screen
  else
    let bordered := (parts area).foldl
      (fun screen (part, symbol) =>
        screen.modifyArea part fun cell => cell.drawn symbol frame.style)
      screen
    let title : Span := { text := frame.title }
    drawSpan bordered (frame.titleArea area) title

end Frame

end Storyboard.Display
