import Storyboard.Refusal

namespace Storyboard

/-!
# Colors

A color has three channels between 0 and 255. Channels are checked in the order
red, green, blue; setting a color either changes all three or none.
-/

/-- A color by its channels. -/
structure Color where
  red : Float
  green : Float
  blue : Float
deriving Repr, DecidableEq

namespace Color

/-- Refuse a channel outside the range; what is not a number is outside, too. -/
def checkChannel (channel : Channel) (value : Float) : Except Refusal Unit :=
  if 0 ≤ value ∧ value ≤ 255 then
    .ok ()
  else
    .error (.channelOutOfRange channel value)

/-- The color with the given channels, unless one of them is out of range. -/
def ofChannels (red green blue : Float) : Except Refusal Color := do
  checkChannel .red red
  checkChannel .green green
  checkChannel .blue blue
  return ⟨red, green, blue⟩

/-- Replace all channels of a color, or none if one is out of range. -/
def set (color : Color) (red green blue : Float) :
    Change Color (Except Refusal Unit) :=
  match ofChannels red green blue with
  | .ok replacement => ⟨.ok (), replacement⟩
  | .error refusal => ⟨.error refusal, color⟩

/-- A color as it is shown on a screen: every channel without its fraction. -/
structure Shade where
  red : UInt8
  green : UInt8
  blue : UInt8
deriving Repr, DecidableEq

/-- The shade of a color. -/
def shade (color : Color) : Shade :=
  ⟨color.red.toUInt8, color.green.toUInt8, color.blue.toUInt8⟩

/-- The channels of a color in parentheses, to one decimal place. -/
def text (color : Color) : String :=
  s!"({Number.tenths color.red}, {Number.tenths color.green}, {Number.tenths color.blue})"

/-- Whether two colors have equal numbers; zero equals negative zero. -/
def alike (first second : Color) : Bool :=
  first.red == second.red && first.green == second.green &&
    first.blue == second.blue

end Color

end Storyboard
