import Storyboard.Shape.Basic
import Storyboard.Sheet
import Storyboard.Text.Markup

namespace Storyboard.Report

/-!
# Shapes as vector graphics

Every shape becomes one element.  Vector graphics count the second coordinate
downwards, so positions are measured from the upper edge of the sheet: for a
rectangle that of its upper left corner, for an oval that of its center.
-/

/-- An attribute with its value, after a blank. -/
def field (name value : String) : String :=
  s!" {name}=\"{value}\""

/-- A numeric attribute to one decimal place. -/
def numberField (name : String) (value : Float) : String :=
  field name (Number.tenths value)

/-- The fill of a shape: its color without fractions. -/
def fill (color : Color) : String :=
  let shade := color.shade
  s!"rgb({shade.red},{shade.green},{shade.blue})"

/-- The vector graphics element of a shape. -/
def element (sheet : Sheet) (shape : Shape) : String :=
  let name := field "id" (Text.markup shape.name)
  let color := field "fill" (fill shape.color)
  match shape.extent with
  | .rectangle width height =>
      s!"<rect{name}" ++ numberField "x" shape.position.x ++
        numberField "y" (sheet.top - shape.position.y - height) ++
        numberField "width" width ++ numberField "height" height ++
          s!"{color} />"
  | .oval xRadius yRadius =>
      s!"<ellipse{name}" ++ numberField "cx" shape.position.x ++
        numberField "cy" (sheet.top - shape.position.y) ++
        numberField "rx" xRadius ++ numberField "ry" yRadius ++ s!"{color} />"

end Storyboard.Report
