import Storyboard.Viewer.ListPane

namespace Storyboard.Viewer

open Display

/-!
# The details pane

The details pane writes out a snapshot: its id, timestamp and description, then
three lines for every shape, the first with a swatch in the color of the shape.
It scrolls only as far as there are lines below.
-/

/-- The lines of a shape: the first behind a swatch, the others indented. -/
def shapeLines (shape : Shape) : List Line :=
  match Text.lines shape.describe with
  | [] => []
  | first :: rest =>
      [⟨"■ ", .colored (Palette.ofColor shape.color)⟩,
        ⟨first, (Style.colored Palette.shapeName).strong⟩] ::
        rest.map fun text => [⟨"  " ++ text, .plain⟩]

/-- The lines that write out a snapshot. -/
def detailLines (snapshot : Snapshot) : List Line :=
  let label (text : String) : Span := ⟨text, .colored Palette.faint⟩
  [[label "ID: ", ⟨snapshot.id.text, .colored Palette.heading⟩],
    [label "Taken: ", ⟨snapshot.timestamp, .plain⟩],
    [label "Description: ", ⟨snapshot.description, .plain⟩],
    []] ++
    (if snapshot.shapes.isEmpty then
      [[label "(no shapes)"]]
    else
      snapshot.shapes.flatMap shapeLines)

/--
The first line that the details show: as asked for, but no window beyond the
last line.
-/
def detailsWindow (snapshot : Option Snapshot) (height first : Nat) : Nat :=
  match snapshot with
  | none => 0
  | some snapshot =>
      min first ((detailLines snapshot).length - windowRows height)

/-- The most lines that a paragraph leaves out above its window. -/
def maxSkipped : Nat :=
  65535

/--
Draw the details of a snapshot from a first line on, or a note if there is no
snapshot.
-/
def drawDetails
    (snapshot : Option Snapshot)
    (focused : Bool)
    (first : Nat)
    (screen : Screen)
    (area : Area) :
    Screen :=
  let frame := sideFrame " Details " focused 1
  match snapshot with
  | none => drawNote screen area frame "(nothing selected)"
  | some snapshot =>
      let toned := screen.style area (.colored Palette.text)
      drawParagraph (frame.draw toned area) (frame.inner area) .left
        (min first maxSkipped)
        (detailLines snapshot)

end Storyboard.Viewer
