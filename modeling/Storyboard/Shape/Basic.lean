import Storyboard.Color

namespace Storyboard

/-!
# Shapes

A shape has a name that is not blank, a position, a color and an extent with
two positive size parameters.  The position of a rectangle is its lower left
corner, that of an oval its center.  An operation that is refused leaves the
shape as it was.
-/

/-- A place in the drawing; the second coordinate grows upwards. -/
structure Point where
  x : Float
  y : Float
deriving Repr, DecidableEq

/-- The size parameters of a shape, by its kind. -/
inductive Extent where
  | rectangle (width height : Float)
  | oval (xRadius yRadius : Float)
deriving Repr, DecidableEq

namespace Extent

/-- The kind of shape that has an extent. -/
def kind : Extent → Kind
  | rectangle .. => .rectangle
  | oval .. => .oval

/-- The two size parameters of an extent. -/
def sizes : Extent → Float × Float
  | rectangle width height => (width, height)
  | oval xRadius yRadius => (xRadius, yRadius)

/-- Refuse a size parameter that is not a positive number. -/
def checkSize (sizeName : String) (value : Float) : Except Refusal Unit :=
  if 0 < value then
    .ok ()
  else
    .error (.sizeNotPositive sizeName value)

/-- The extent of a kind with the given sizes, unless one is not positive. -/
def ofSizes (kind : Kind) (first second : Float) : Except Refusal Extent := do
  checkSize kind.sizeNames.1 first
  checkSize kind.sizeNames.2 second
  return match kind with
    | .rectangle => rectangle first second
    | .oval => oval first second

/-- Whether two extents are of one kind and have equal numbers. -/
def alike : Extent → Extent → Bool
  | rectangle w₁ h₁, rectangle w₂ h₂ => w₁ == w₂ && h₁ == h₂
  | oval x₁ y₁, oval x₂ y₂ => x₁ == x₂ && y₁ == y₂
  | _, _ => false

end Extent

/-- The kind that a word names, refusing any other word. -/
def Kind.ofWord (text : String) : Except Refusal Kind :=
  match Kind.ofWord? text with
  | some kind => .ok kind
  | none => .error (.unknownKind text)

/-- A named, colored shape. -/
structure Shape where
  name : String
  position : Point
  color : Color
  extent : Extent
deriving Repr, DecidableEq

namespace Shape

/-- The kind of a shape. -/
def kind (shape : Shape) : Kind :=
  shape.extent.kind

/-- Whether a name holds nothing but white space. -/
def isBlankName (name : String) : Bool :=
  (Text.trimChars name.toList).isEmpty

/--
A new shape, unless its name is blank or one of its sizes is not positive.
-/
def create
    (kind : Kind)
    (name : String)
    (position : Point)
    (first second : Float)
    (color : Color) :
    Except Refusal Shape :=
  if isBlankName name then
    .error .blankName
  else
    (Extent.ofSizes kind first second).map fun extent =>
      ⟨name, position, color, extent⟩

/-- Put a shape at another position. -/
def moveTo (shape : Shape) (position : Point) : Shape :=
  { shape with position }

/-- Give a shape other sizes of its own kind. -/
def resize (shape : Shape) (first second : Float) :
    Change Shape (Except Refusal Unit) :=
  match Extent.ofSizes shape.kind first second with
  | .ok extent => ⟨.ok (), { shape with extent }⟩
  | .error refusal => ⟨.error refusal, shape⟩

/-- Give a shape other sizes, refusing sizes that are meant for another kind. -/
def resizeAs (kind : Kind) (shape : Shape) (first second : Float) :
    Change Shape (Except Refusal Unit) :=
  if kind = shape.kind then
    shape.resize first second
  else
    ⟨.error (.kindMismatch shape.kind shape.name kind), shape⟩

/-- Give a shape another color. -/
def recolor (shape : Shape) (red green blue : Float) :
    Change Shape (Except Refusal Unit) :=
  let changed := shape.color.set red green blue
  ⟨changed.answer, { shape with color := changed.after }⟩

/-- The position and sizes of a shape in words, to one decimal place. -/
def outline (shape : Shape) : String :=
  let x := Number.tenths shape.position.x
  let y := Number.tenths shape.position.y
  match shape.extent with
  | .rectangle width height =>
      s!"Min corner: ({x}, {y}), Width: {Number.tenths width}, Height: {Number.tenths height}"
  | .oval xRadius yRadius =>
      s!"Center: ({x}, {y}), X radius: {Number.tenths xRadius}, Y radius: {Number.tenths yRadius}"

/-- The three lines that describe a shape. -/
def describe (shape : Shape) : String :=
  s!"Name: {shape.name}\nType: {shape.kind.word}\n{shape.outline}, Color: {shape.color.text}"

/-- Whether two shapes have one name and kind and equal numbers throughout. -/
def alike (first second : Shape) : Bool :=
  first.name == second.name &&
    first.position.x == second.position.x &&
    first.position.y == second.position.y &&
    first.color.alike second.color &&
    first.extent.alike second.extent

end Shape

end Storyboard
