import Storyboard.Display.Palette
import Storyboard.Display.Text

namespace Storyboard.Viewer

open Display

/-!
# The status bar

The left half of the status bar shows the position and a message, the right half
the keys and, at its end, whether the slideshow runs or an end is reached.
-/

/-- What the status bar shows. -/
structure Status where
  message : String
  position : Nat
  total : Nat
  playing : Bool
deriving Repr, DecidableEq

namespace Status

/-- The position, counted from one. -/
def positionText (status : Status) : String :=
  if status.total = 0 then
    " Snapshot 0/0 "
  else
    s!" Snapshot {status.position + 1}/{status.total} "

/-- A separator. -/
def separator (text : String) : Span :=
  ⟨text, .filled Palette.faint Palette.band⟩

/-- The words beside a key. -/
def words (text : String) : Span :=
  ⟨text, .filled Palette.text Palette.band⟩

/-- A key. -/
def key (text : String) : Span :=
  ⟨text, .filled .black Palette.faint⟩

/-- A sign on a background of its own. -/
def sign (text : String) (background : Hue) : Span :=
  ⟨text, (Style.filled .black background).strong⟩

/-- The left half. -/
def left (status : Status) : Line :=
  [sign status.positionText Palette.position,
    separator " | ",
    words s!" {status.message} "]

/-- The keys, in groups. -/
def keys : Line :=
  [key " ←/→ ", words " prev/next ", separator "│", words " ",
    key " ⎵ ", words " play ", separator "│", words " ",
    key " ↵ / ⌫ ", words " last/first ", separator "│", words " ",
    key "g", words " select ", separator "│", words " ",
    key "q", words " quit "]

/-- The sign at the right edge. -/
def ending (status : Status) : Line :=
  if status.playing then
    [separator "│", sign " ▶ PLAYING " Palette.accent]
  else if 0 < status.total ∧ status.total ≤ status.position + 1 then
    [separator "│", sign " END " Palette.finish]
  else if status.position = 0 then
    [separator "│", sign " START " Palette.start]
  else
    []

/-- The right half. -/
def right (status : Status) : Line :=
  keys ++ status.ending

/--
Draw the status bar; of an odd number of columns the left half has one more.
-/
def draw (status : Status) (screen : Screen) (area : Area) : Screen :=
  let half := (area.width + 1) / 2
  let leftArea : Area := { area with width := half }
  let rightArea := area.indent half
  let toned := screen.style area (.backed Palette.band)
  let lettered := drawParagraph toned leftArea .left 0 [status.left]
  drawParagraph lettered rightArea .right 0 [status.right]

end Status

end Storyboard.Viewer
