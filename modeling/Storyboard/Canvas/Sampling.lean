import Storyboard.Number.Bounds
import Storyboard.Shape.Basic
import Storyboard.Sheet

namespace Storyboard.Canvas

/-!
# Sampling shapes

A shape is filled with the points of a grid that starts at the lower left
corner of its visible bounding box.  A visible shape that falls between the grid
points is represented by the center of that box, if the shape contains it.

A step can be too small to move a coordinate at all.  Then the grid has no end,
and there is no sample; with any larger step the sample is finite.
-/

/--
The least step between two samples, the distance from one to the next double.
-/
def leastStep : Float :=
  Float.ofBits 0x3CB0000000000000

/-- An upright box with its edges. -/
structure Box where
  left : Float
  bottom : Float
  right : Float
  top : Float
deriving Repr, DecidableEq

/-- The bounding box of a shape. -/
def Box.ofShape (shape : Shape) : Box :=
  let x := shape.position.x
  let y := shape.position.y
  match shape.extent with
  | .rectangle width height => ⟨x, y, x + width, y + height⟩
  | .oval xRadius yRadius =>
      ⟨x - xRadius, y - yRadius, x + xRadius, y + yRadius⟩

namespace Box

/-- The part of a box that lies on the sheet. -/
def clip (box : Box) (sheet : Sheet) : Box where
  left := Number.larger box.left 0
  bottom := Number.larger box.bottom 0
  right := Number.smaller box.right sheet.right
  top := Number.smaller box.top sheet.top

/-- Whether a box has an edge on the wrong side of the opposite one. -/
def isEmpty (box : Box) : Bool :=
  decide (box.right < box.left) || decide (box.top < box.bottom)

/-- The point in the middle of a box. -/
def center (box : Box) : Point :=
  ⟨(box.left + box.right) / 2, (box.bottom + box.top) / 2⟩

end Box

/-- Whether a point lies in a shape or on its edge. -/
def contains (shape : Shape) (point : Point) : Bool :=
  let x := shape.position.x
  let y := shape.position.y
  match shape.extent with
  | .rectangle width height =>
      decide (x ≤ point.x) && decide (point.x ≤ x + width) &&
        decide (y ≤ point.y) && decide (point.y ≤ y + height)
  | .oval xRadius yRadius =>
      let dx := (point.x - x) / xRadius
      let dy := (point.y - y) / yRadius
      decide (dx * dx + dy * dy ≤ 1)

/--
The coordinates from a first one in steps up to a last one, at most a number of
them.

There are none if a step does not move a coordinate or if the limit is reached.
-/
def ticksWithin (last step : Float) : Nat → Float → Option (List Float)
  | 0, _ => none
  | limit + 1, tick =>
      if tick ≤ last then
        if tick < tick + step then
          (ticksWithin last step limit (tick + step)).map (tick :: ·)
        else
          none
      else
        some []

/--
The coordinates from a first one in steps up to a last one, if they come to an
end.

Coordinates that grow are different doubles, of which there are no more than
`2 ^ 64`, so the limit is never what ends them.
-/
def ticks? (first last step : Float) : Option (List Float) :=
  ticksWithin last step (Number.twoTo 64) first

/-- The distances between neighbouring columns and rows of a grid. -/
structure Pitch where
  x : Float
  y : Float
deriving Repr, DecidableEq

/--
The points of the grid over a box that lie in a shape, row by row from below.
-/
def gridPoints?
    (shape : Shape)
    (box : Box)
    (pitch : Pitch) :
    Option (List Point) := do
  let rows ← ticks? box.bottom box.top (Number.larger pitch.y leastStep)
  let columns ← ticks? box.left box.right (Number.larger pitch.x leastStep)
  return rows.flatMap fun y =>
    (columns.map fun x => Point.mk x y).filter (contains shape)

/--
The points that stand for a shape on the sheet, if the grid comes to an end.
-/
def samples?
    (sheet : Sheet)
    (pitch : Pitch)
    (shape : Shape) : Option (List Point) :=
  let box := (Box.ofShape shape).clip sheet
  if box.isEmpty then
    some []
  else
    (gridPoints? shape box pitch).map fun points =>
      if points.isEmpty then
        [box.center].filter (contains shape)
      else
        points

end Storyboard.Canvas
