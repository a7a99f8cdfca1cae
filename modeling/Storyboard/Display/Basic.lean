import Storyboard.Display.Cell
import Storyboard.Text.Width

namespace Storyboard.Display

/-!
# Screens

A screen is a rectangle of cells, kept row by row.  Drawing changes one cell at
a time; outside of the screen it changes nothing.  A screen has no more cells
than sixteen bits can count: a larger one shrinks and keeps its proportions.
-/

/-- A rectangle of places. -/
structure Area where
  x : Nat
  y : Nat
  width : Nat
  height : Nat
deriving Repr, DecidableEq

namespace Area

/-- Whether an area has no place in it. -/
def isEmpty (area : Area) : Bool :=
  area.width == 0 || area.height == 0

/-- The column after the last one. -/
def right (area : Area) : Nat :=
  area.x + area.width

/-- The row after the last one. -/
def bottom (area : Area) : Nat :=
  area.y + area.height

/--
The part of an area that is left when some columns are taken from its left side.
-/
def indent (area : Area) (columns : Nat) : Area :=
  { area with x := area.x + columns, width := area.width - columns }

end Area

/-- A rectangle of cells. -/
structure Screen where
  width : Nat
  height : Nat
  cells : Array Cell
deriving Repr, DecidableEq

namespace Screen

/-- A screen on which nothing has been drawn. -/
def blank (width height : Nat) : Screen :=
  ⟨width, height, Array.replicate (width * height) .blank⟩

/-- The most cells that a screen has. -/
def maxCells : Nat :=
  65535

/--
The width and height that are left of a screen that was to have too many cells.
-/
def shrunk (width height : Nat) : Nat × Nat :=
  if width * height ≤ maxCells then
    (width, height)
  else
    let proportion := Float.ofNat width / Float.ofNat height
    let rows := (Float.ofNat maxCells / proportion).sqrt
    ((rows * proportion).toUInt16.toNat, rows.toUInt16.toNat)

/-- A screen of a size on which nothing has been drawn. -/
def ofSize (width height : Nat) : Screen :=
  let (width, height) := shrunk width height
  blank width height

/-- All places of a screen. -/
def area (screen : Screen) : Area :=
  ⟨0, 0, screen.width, screen.height⟩

/-- The cell at a place. -/
def get (screen : Screen) (x y : Nat) : Cell :=
  if x < screen.width then
    screen.cells[y * screen.width + x]?.getD .blank
  else
    .blank

/-- Change the cell at a place. -/
def modify (screen : Screen) (x y : Nat) (change : Cell → Cell) : Screen :=
  if x < screen.width then
    { screen with cells := screen.cells.modify (y * screen.width + x) change }
  else
    screen

/-- Change the cells of a row from one column on. -/
def modifyRow
    (screen : Screen)
    (x y columns : Nat)
    (change : Cell → Cell) : Screen :=
  (List.range columns).foldl
    (fun screen i => screen.modify (x + i) y change) screen

/-- Change all cells of an area. -/
def modifyArea
    (screen : Screen)
    (area : Area)
    (change : Cell → Cell) : Screen :=
  (List.range area.height).foldl
    (fun screen i => screen.modifyRow area.x (area.y + i) area.width change)
      screen

/-- Apply a style to all cells of an area. -/
def style (screen : Screen) (area : Area) (style : Style) : Screen :=
  screen.modifyArea area fun cell => cell.styled style

/-- Whether the symbol of a cell reaches into the next one. -/
def isWideCell (cell : Cell) : Bool :=
  2 ≤ Text.width cell.symbol.toList

/--
The cell that is seen in a place of the row by row order: none behind a wide
symbol.
-/
def seen (screen : Screen) (index : Nat) : Cell :=
  let covered := 0 < index ∧ (screen.cells[index - 1]?).any isWideCell
  if covered then .blank else screen.cells[index]?.getD .blank

/-- The rows of a screen as they are seen. -/
def rows (screen : Screen) : List (List Cell) :=
  (List.range screen.height).map fun y =>
    (List.range screen.width).map fun x => screen.seen (y * screen.width + x)

/-- The symbols of a row. -/
def rowText (row : List Cell) : String :=
  String.join (row.map Cell.symbol)

end Screen

end Storyboard.Display
