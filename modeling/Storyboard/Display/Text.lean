import Storyboard.Display.Basic
import Storyboard.Text.Grapheme

namespace Storyboard.Display

/-!
# Text on a screen

A line of text is a list of spans, each in one style.  A paragraph puts lines
below one another and leaves graphemes without width out.  A single row draws
its line span by span and keeps such graphemes with the cell before them.
Neither wraps: what does not fit is cut off.
-/

/-- A piece of text in one style. -/
structure Span where
  text : String
  style : Style := .plain
deriving Repr, DecidableEq

/-- Pieces of text beside one another. -/
abbrev Line := List Span

/-- A grapheme as it is drawn. -/
structure Glyph where
  symbol : String
  width : Nat
  style : Style
deriving Repr, DecidableEq

/-- The graphemes of a span; a newline is none of them. -/
def Span.glyphs (span : Span) : List Glyph :=
  ((Text.graphemes span.text.toList).filter (· ≠ ['\n'])).map fun grapheme =>
    ⟨.ofList grapheme, Text.width grapheme, span.style⟩

/-- How many cells graphemes fill. -/
def glyphsWidth (glyphs : List Glyph) : Nat :=
  glyphs.foldr (fun glyph width => glyph.width + width) 0

/-- How many cells the text of a span fills as a whole. -/
def Span.width (span : Span) : Nat :=
  Text.width span.text.toList

/-- The graphemes of a line. -/
def Line.glyphs (line : Line) : List Glyph :=
  List.flatMap Span.glyphs line

/-- The characters of a line. -/
def Line.text (line : Line) : String :=
  String.join (List.map Span.text line)

/--
The graphemes that fit into what is left of a row.

One that is wider than the whole row is left out; the first other one that does
not fit ends the row.
-/
def fitting (columns : Nat) : Nat → List Glyph → List Glyph
  | _, [] => []
  | left, glyph :: rest =>
      if columns < glyph.width then
        fitting columns left rest
      else if left < glyph.width then
        []
      else
        glyph :: fitting columns (left - glyph.width) rest

/--
Draw graphemes from a place on to the right, leaving those without width out.
-/
def drawGlyphs (screen : Screen) (x y : Nat) : List Glyph → Screen
  | [] => screen
  | glyph :: rest =>
      if glyph.width = 0 then
        drawGlyphs screen x y rest
      else
        drawGlyphs (screen.modify x y fun cell =>
          cell.drawn glyph.symbol glyph.style)
          (x + glyph.width) y rest

/-- The edge of an area at which its lines start or end. -/
inductive Alignment where
  | left
  | right
deriving Repr, DecidableEq

/-- Draw a line into a row of an area. -/
def drawAligned
    (screen : Screen)
    (area : Area)
    (row : Nat)
    (alignment : Alignment)
    (line : Line) : Screen :=
  let glyphs := fitting area.width area.width line.glyphs
  let filled := glyphsWidth glyphs
  let start :=
    match alignment with
    | .left => 0
    | .right => area.width - filled
  drawGlyphs screen (area.x + start) (area.y + row) glyphs

/-- Draw lines into an area, those before a first one left out. -/
def drawParagraph
    (screen : Screen)
    (area : Area)
    (alignment : Alignment)
    (first : Nat)
    (lines : List Line) :
    Screen :=
  if area.isEmpty then
    screen
  else
    ((lines.drop first).take area.height).zipIdx.foldl
      (fun screen (line, row) => drawAligned screen area row alignment line)
        screen

/--
Draw the graphemes of a span after its first one, up to the right edge of its
area.
-/
def drawTail (screen : Screen) (area : Area) (y x : Nat) : List Glyph → Screen
  | [] => screen
  | glyph :: rest =>
      if area.right < x + glyph.width then
        screen
      else
        let drawn :=
          if x = area.x then
            screen.modify x y fun cell => cell.extended glyph.symbol glyph.style
          else if glyph.width = 0 then
            screen.modify (x - 1) y fun cell =>
              cell.extended glyph.symbol glyph.style
          else
            screen.modify x y fun cell => cell.drawn glyph.symbol glyph.style
        let cleared :=
          drawn.modifyRow (x + 1) y (glyph.width - 1) fun _ => .blank
        drawTail cleared area y (x + glyph.width) rest

/-- Draw a span into the first row of an area. -/
def drawSpan (screen : Screen) (area : Area) (span : Span) : Screen :=
  match span.glyphs with
  | [] => screen
  | glyph :: rest =>
      if area.isEmpty || decide (area.right < area.x + glyph.width) then
        screen
      else
        let drawn := screen.modify area.x area.y fun cell =>
          cell.drawn glyph.symbol glyph.style
        let cleared :=
          drawn.modifyRow (area.x + 1) area.y (glyph.width - 1) fun _ => .blank
        drawTail cleared area area.y (area.x + glyph.width) rest

/--
Draw a line into the first row of an area, leaving spans without width out.
-/
def drawRow (screen : Screen) (area : Area) : Line → Screen
  | [] => screen
  | span :: rest =>
      if span.width = 0 then
        drawRow screen area rest
      else
        drawRow (drawSpan screen area span) (area.indent span.width) rest

end Storyboard.Display
