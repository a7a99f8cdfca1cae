import Storyboard.Number.Printed
import Storyboard.Shape.Kind

namespace Storyboard

/-!
# Refusals

A refusal says why an operation on a color, a shape, the scene or the archive
was not carried out.  The state of what was refused stays as it was.  The
wording of every refusal is in `Refusal.message`; `Refusal.category` groups the
causes.
-/

/-- One of the three channels of a color. -/
inductive Channel where
  | red
  | green
  | blue
deriving Repr, DecidableEq

/-- The word for a channel. -/
def Channel.word : Channel → String
  | red => "red"
  | green => "green"
  | blue => "blue"

/-- Why an operation was refused. -/
inductive Refusal where
  /-- A color channel lies outside its range. -/
  | channelOutOfRange (channel : Channel) (value : Float)
  /-- A shape name holds nothing but white space. -/
  | blankName
  /-- A size parameter is not a positive number. -/
  | sizeNotPositive (sizeName : String) (value : Float)
  /-- A shape of the scene already has the name. -/
  | nameTaken (name : String)
  /-- A snapshot of the archive already has the id. -/
  | idTaken (id : String)
  /-- A word is not the name of a kind of shape. -/
  | unknownKind (word : String)
  /-- A shape of one kind was to be given the sizes of another. -/
  | kindMismatch (actual : Kind) (name : String) (requested : Kind)
  /-- No shape of the scene has the name. -/
  | noShape (name : String)
  /-- No snapshot of the archive has the id. -/
  | noSnapshot (id : String)
deriving Repr, DecidableEq

namespace Refusal

/-- The classes of causes that callers tell apart. -/
inductive Category where
  | invalidValue
  | takenName
  | takenId
  | unsupported
  | missing
deriving Repr, DecidableEq

/-- The class of a cause. -/
def category : Refusal → Category
  | channelOutOfRange .. | blankName | sizeNotPositive .. => .invalidValue
  | nameTaken _ => .takenName
  | idTaken _ => .takenId
  | unknownKind _ | kindMismatch .. => .unsupported
  | noShape _ | noSnapshot _ => .missing

/-- The text shown for a refusal. -/
def message : Refusal → String
  | channelOutOfRange channel value =>
      s!"Invalid value: {channel.word} channel {Number.shortest value} is outside [0, 255]"
  | blankName => "Invalid value: shape name must not be blank"
  | sizeNotPositive sizeName value =>
      s!"Invalid value: {sizeName} must be positive, got {Number.shortest value}"
  | nameTaken name => s!"Shape with name '{name}' already exists"
  | idTaken id => s!"Snapshot with id '{id}' already exists"
  | unknownKind word => s!"Unsupported operation: unknown shape type '{word}'"
  | kindMismatch actual name requested =>
      s!"Unsupported operation: cannot resize {actual.word} '{name}' as a {requested.word}"
  | noShape name => s!"No shape named '{name}'"
  | noSnapshot id => s!"No snapshot named '{id}'"

end Refusal

/--
What an operation on a state answers, and the state that it leaves behind.
-/
structure Change (State Answer : Type) where
  answer : Answer
  after : State

end Storyboard
