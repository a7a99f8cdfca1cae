import Storyboard.Canvas.Sampling
import Storyboard.Display.Palette
import Storyboard.Display.Basic

namespace Storyboard.Canvas

/-!
# Dots

A cell of a screen holds two by four dots.  The sheet is stretched over all dots
of a pane, and every sample of a shape sets the dot on which it falls.  Shapes
are drawn one after the other: where a shape has a dot in a cell, it takes the
whole cell over.
-/

/--
The column and the row of the dot on which a point falls, counted from the upper
left.
-/
def dot?
    (sheet : Sheet)
    (columns rows : Nat)
    (point : Point) : Option (Nat × Nat) :=
  let outside :=
    decide (point.x < 0) || decide (sheet.right < point.x) ||
      decide (point.y < 0) || decide (sheet.top < point.y)
  if outside || sheet.width == 0 || sheet.height == 0 then
    none
  else
    let lastColumn := Float.ofNat (2 * columns - 1)
    let lastRow := Float.ofNat (4 * rows - 1)
    some
      ((point.x * lastColumn / sheet.right).toUInt64.toNat,
        ((sheet.top - point.y) * lastRow / sheet.top).toUInt64.toNat)

/-- The bit of a dot within its cell. -/
def dotBit (column row : Nat) : Nat :=
  match column % 2, row % 4 with
  | 0, 0 => 0x01
  | 0, 1 => 0x02
  | 0, 2 => 0x04
  | 0, _ => 0x40
  | _, 0 => 0x08
  | _, 1 => 0x10
  | _, 2 => 0x20
  | _, _ => 0x80

/-- The dots of each cell, row by row, after a point has been added. -/
def setDot
    (sheet : Sheet)
    (columns rows : Nat)
    (masks : Array Nat)
    (point : Point) : Array Nat :=
  match dot? sheet columns rows point with
  | none => masks
  | some (column, row) =>
      masks.modify (row / 4 * columns + column / 2) (· ||| dotBit column row)

/-- The dots of each cell that points set, row by row. -/
def dotMasks
    (sheet : Sheet)
    (columns rows : Nat)
    (points : List Point) : Array Nat :=
  points.foldl (setDot sheet columns rows) (Array.replicate (columns * rows) 0)

/-- The symbol with given dots. -/
def dotSymbol (mask : Nat) : String :=
  .singleton (Char.ofNat (0x2800 + mask))

/--
How far apart the samples are in a pane with room for some columns and rows of
cells.
-/
def pitch (sheet : Sheet) (columns rows : Nat) : Pitch :=
  ⟨sheet.right / (Float.ofNat (max columns 1) * 2),
    sheet.top / (Float.ofNat (max rows 1) * 4)⟩

open Display

/--
Draw the cells of an area in which a shape has dots, in the hue of the shape.
-/
def drawShape
    (sheet : Sheet)
    (area : Area)
    (pitch : Pitch)
    (screen : Screen)
    (shape : Shape) : Screen :=
  let points := (samples? sheet pitch shape).getD []
  let style := Style.colored (Palette.ofColor shape.color)
  (dotMasks sheet area.width area.height points).toList.zipIdx.foldl
    (fun screen (mask, i) =>
      if mask = 0 then
        screen
      else
        screen.modify (area.x + i % area.width)
          (area.y + i / area.width) fun cell =>
          cell.drawn (dotSymbol mask) style)
    screen

/-- Draw shapes over one another into an area, the last one on top. -/
def drawShapes (sheet : Sheet) (area : Area) (pitch : Pitch) (screen : Screen)
    (shapes : List Shape) : Screen :=
  shapes.foldl (drawShape sheet area pitch) screen

end Storyboard.Canvas
