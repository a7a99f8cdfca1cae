import Storyboard.Viewer.DetailsPane
import Storyboard.Viewer.Layout
import Storyboard.Viewer.State
import Storyboard.Viewer.StatusBar

namespace Storyboard.Viewer

open Display

/-!
# Drawing the viewer

Before it is drawn, the viewer fits the windows of its list and its details to
the size of the screen.  Drawing itself changes nothing.
-/

namespace State

/-- The state with its windows fitted to a screen. -/
def fitted (state : State) (width height : Nat) : State :=
  let layout := Layout.ofSize width height
  { state with
    listScroll :=
      listWindow state.archive state.cursor.position layout.list.height
        state.listScroll
    detailsScroll :=
      detailsWindow state.current? layout.details.height state.detailsScroll }

/-- What the status bar shows. -/
def status (state : State) : Status :=
  ⟨state.message.text, state.cursor.position, state.archive.size, state.playing⟩

/-- The screen of a fitted state. -/
def screen (state : State) (width height : Nat) : Screen :=
  let layout := Layout.ofSize width height
  let drawing :=
    drawDrawing state.sheet state.current? (.blank width height) layout.drawing
  let list := drawList state.archive state.cursor.position (state.focus = .list)
    state.listScroll drawing layout.list
  let details := drawDetails state.current? (state.focus = .details)
    state.detailsScroll list layout.details
  state.status.draw details layout.status

/--
Fit the windows to a screen and draw it, both in the size that a screen can
have.
-/
def draw (state : State) (width height : Nat) : Change State Screen :=
  let (width, height) := Screen.shrunk width height
  let fitted := state.fitted width height
  ⟨fitted.screen width height, fitted⟩

/--
One round of the viewer: draw, then stop if asked to or advance the slideshow.

The answer says whether the viewer has stopped.
-/
def round (state : State) (width height now : Nat) : Change State Bool :=
  let drawn := (state.draw width height).after
  if drawn.quitting then
    ⟨true, drawn⟩
  else
    ⟨false, drawn.advance now⟩

end State

end Storyboard.Viewer
