namespace Storyboard.Display

/-!
# Cells and styles

A screen is made of cells, each with a symbol, two hues and a weight.  A style
says which of these a drawing step sets; what it leaves open stays as it was,
and nothing that has become bold is made light again.
-/

/-- A color of a terminal. -/
inductive Hue where
  | unset
  | black
  | rgb (red green blue : UInt8)
deriving Repr, DecidableEq

/-- What a drawing step sets of a cell besides its symbol. -/
structure Style where
  foreground : Option Hue := none
  background : Option Hue := none
  bold : Bool := false
deriving Repr, DecidableEq

namespace Style

/-- The style that sets nothing. -/
def plain : Style := {}

/-- The style that sets the foreground. -/
def colored (hue : Hue) : Style :=
  { foreground := some hue }

/-- The style that sets both hues. -/
def filled (foreground background : Hue) : Style :=
  { foreground := some foreground, background := some background }

/-- The style that sets the background. -/
def backed (hue : Hue) : Style :=
  { background := some hue }

/-- The same style in bold. -/
def strong (style : Style) : Style :=
  { style with bold := true }

end Style

/-- One place on the screen. -/
structure Cell where
  symbol : String := " "
  foreground : Hue := .unset
  background : Hue := .unset
  bold : Bool := false
deriving Repr, DecidableEq

namespace Cell

/-- A cell on which nothing has been drawn. -/
def blank : Cell := {}

/-- Apply a style to a cell. -/
def styled (cell : Cell) (style : Style) : Cell :=
  { cell with
    foreground := style.foreground.getD cell.foreground
    background := style.background.getD cell.background
    bold := cell.bold || style.bold }

/-- Put a symbol into a cell and apply a style. -/
def drawn (cell : Cell) (symbol : String) (style : Style) : Cell :=
  { cell with symbol }.styled style

/-- Add to the symbol of a cell and apply a style. -/
def extended (cell : Cell) (symbol : String) (style : Style) : Cell :=
  { cell with symbol := cell.symbol ++ symbol }.styled style

end Cell

end Storyboard.Display
