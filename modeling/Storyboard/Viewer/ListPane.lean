import Storyboard.Snapshot.Archive
import Storyboard.Viewer.DrawingPane

namespace Storyboard.Viewer

open Display

/-!
# The list pane

The list pane numbers the snapshots and marks the one under the cursor.  It
shows a window of rows and moves it just far enough to hold the cursor.
-/

/-- How many rows of a pane are inside its frame; a window has at least one. -/
def windowRows (height : Nat) : Nat :=
  max (height - 2) 1

/-- The first row of a window of some rows, moved so that a row is in it. -/
def scrollTo (rows target first : Nat) : Nat :=
  if target < first then
    target
  else if first + rows ≤ target then
    target + 1 - rows
  else
    first

/-- The frame of a pane at the side. -/
def sideFrame (title : String) (focused : Bool) (padding : Nat) : Frame where
  title
  style := if focused then (Style.colored Palette.focused).strong
    else .colored Palette.border
  padding

/-- A number with blanks in front up to three places. -/
def rightAligned (number : Nat) : String :=
  let digits := toString number
  .ofList (List.replicate (3 - digits.length) ' ') ++ digits

/-- The row of a snapshot at a position. -/
def listRow (cursor position : Nat) (snapshot : Snapshot) : Line :=
  let marker := if position = cursor then "▶ " else "  "
  let description :=
    if snapshot.description.isEmpty then
      [⟨"", .colored Palette.text⟩,
        ⟨"(no description)", .colored Palette.faint⟩]
    else
      [⟨snapshot.description, .colored Palette.text⟩]
  ⟨marker, .colored Palette.accent⟩ ::
    ⟨rightAligned (position + 1) ++ " ", .colored Palette.accent⟩ :: description

/--
The snapshots that are listed in some rows from a first one on, with their
positions.
-/
def listed (archive : Archive) (first rows : Nat) : List (Snapshot × Nat) :=
  (archive.snapshots.toList.zipIdx.drop first).take rows

/--
Draw the row of a snapshot; the row under the cursor stands out over its whole
width.
-/
def drawListRow
    (cursor position : Nat)
    (screen : Screen)
    (area : Area)
    (snapshot : Snapshot) : Screen :=
  let toned :=
    if position = cursor then
      screen.style area (Style.backed Palette.band).strong
    else
      screen
  drawRow toned area (listRow cursor position snapshot)

/-- Draw the rows of snapshots below one another, from the top of an area on. -/
def drawListRows
    (cursor : Nat)
    (screen : Screen)
    (area : Area)
    (rows : List (Snapshot × Nat)) : Screen :=
  rows.zipIdx.foldl
    (fun screen ((snapshot, position), row) =>
      drawListRow cursor position screen
        ⟨area.x, area.y + row, area.width, 1⟩ snapshot)
    screen

/--
The first row that the list shows, which stays as it was if there is nothing to
show.
-/
def listWindow (archive : Archive) (cursor height first : Nat) : Nat :=
  if archive.size = 0 then first else scrollTo (windowRows height) cursor first

/-- Draw the snapshots from a first row on, or a note if there are none. -/
def drawList
    (archive : Archive)
    (cursor : Nat)
    (focused : Bool)
    (first : Nat)
    (screen : Screen)
    (area : Area) :
    Screen :=
  if archive.size = 0 then
    drawNote screen area (sideFrame " Snapshots " focused 0) "(none)"
  else
    let frame := sideFrame " Snapshots " focused 1
    let inner := frame.inner area
    let framed := frame.draw screen area
    if inner.isEmpty then
      framed
    else
      drawListRows cursor framed inner
        (listed archive first (windowRows area.height))

end Storyboard.Viewer
