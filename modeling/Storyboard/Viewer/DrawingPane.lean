import Storyboard.Canvas.Dots
import Storyboard.Display.Frame
import Storyboard.Snapshot.Basic

namespace Storyboard.Viewer

open Display

/-!
# The drawing pane

The drawing pane shows the shapes of a snapshot under its id, on light paper.
-/

/-- Draw a frame around an area with a faint note in it and nothing else. -/
def drawNote
    (screen : Screen)
    (area : Area)
    (frame : Frame)
    (note : String) : Screen :=
  let toned := screen.style area (.colored Palette.faint)
  drawParagraph (frame.draw toned area) (frame.inner area) .left 0
    [[{ text := note }]]

/-- The frame of the drawing pane. -/
def drawingFrame (snapshot : Option Snapshot) : Frame where
  title :=
    match snapshot with
    | some snapshot => s!" {snapshot.id.text} "
    | none => " Snapshot "
  style := (Style.colored Palette.border).strong

/-- Draw the shapes of a snapshot, or a note if there is no snapshot. -/
def drawDrawing
    (sheet : Sheet)
    (snapshot : Option Snapshot)
    (screen : Screen)
    (area : Area) : Screen :=
  let frame := drawingFrame snapshot
  match snapshot with
  | none => drawNote screen area frame "(no snapshots)"
  | some snapshot =>
      let framed := frame.draw screen area
      let inner := frame.inner area
      if inner.isEmpty then
        framed
      else
        let paper := framed.style inner (.backed Palette.paper)
        let pitch := Canvas.pitch sheet (area.width - 2) (area.height - 2)
        Canvas.drawShapes sheet inner pitch paper snapshot.shapes

end Storyboard.Viewer
