import Storyboard.Color
import Storyboard.Display.Cell

namespace Storyboard.Display

/-!
# The palette

The hues of the viewer, named for what they are used for.
-/

namespace Palette

/-- Text. -/
def text : Hue := .rgb 205 214 244

/-- The position in the status bar. -/
def position : Hue := .rgb 137 180 250

/-- Markers and numbers in the list, and the sign that the slideshow runs. -/
def accent : Hue := .rgb 250 179 135

/-- Labels, placeholders and separators. -/
def faint : Hue := .rgb 108 112 134

/-- The sign that the first snapshot is shown. -/
def start : Hue := .rgb 166 227 161

/-- The sign that the last snapshot is shown. -/
def finish : Hue := .rgb 243 139 168

/-- The border of the pane with the focus. -/
def focused : Hue := .rgb 249 226 175

/-- The border of any other pane. -/
def border : Hue := .rgb 108 112 134

/-- The background of the current row and of the status bar. -/
def band : Hue := .rgb 50 50 70

/-- Snapshot ids. -/
def heading : Hue := .rgb 249 226 175

/-- Names of shapes. -/
def shapeName : Hue := .rgb 148 226 213

/-- The background of the drawing. -/
def paper : Hue := .rgb 200 200 200

/-- The hue of a shape. -/
def ofColor (color : Color) : Hue :=
  let shade := color.shade
  .rgb shade.red shade.green shade.blue

end Palette

end Storyboard.Display
