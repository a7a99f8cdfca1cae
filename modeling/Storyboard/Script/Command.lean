import Storyboard.Shape.Basic

namespace Storyboard.Script

/-!
# Commands

A command is what one line of a script asks of an album.  Five commands have a
fixed list of arguments, which their `Form` gives slot by slot; a snapshot takes
the rest of its line as its description and a clear at most one target.
-/

/-- What a clear empties. -/
inductive Target where
  | snapshots
  | shapes
  | all
deriving Repr, DecidableEq

/-- The word for a target. -/
def Target.word : Target → String
  | snapshots => "snapshots"
  | shapes => "shapes"
  | all => "all"

/-- What one line of a script asks for. -/
inductive Command where
  | shape (name : String) (kind : Kind) (position : Point)
      (first second : Float)
      (red green blue : Float)
  | move (name : String) (position : Point)
  | color (name : String) (red green blue : Float)
  | resize (name : String) (first second : Float)
  | remove (name : String)
  | snapshot (description : String)
  | clear (target : Target)
deriving Repr, DecidableEq

/-- The commands with a fixed list of arguments. -/
inductive Form where
  | shape
  | move
  | color
  | resize
  | remove
deriving Repr, DecidableEq

/-- The first words of all commands. -/
inductive Keyword where
  | form (form : Form)
  | snapshot
  | clear
deriving Repr, DecidableEq

namespace Keyword

/-- The word for a keyword. -/
def word : Keyword → String
  | form .shape => "shape"
  | form .move => "move"
  | form .color => "color"
  | form .resize => "resize"
  | form .remove => "remove"
  | snapshot => "snapshot"
  | clear => "clear"

/-- All keywords. -/
def all : List Keyword :=
  [form .shape, form .move, form .color, form .resize, form .remove,
    snapshot, clear]

/-- The keyword that a word is, whatever the case of its ASCII letters. -/
def ofWord? (word : List Char) : Option Keyword :=
  all.find? fun keyword => keyword.word.toList = Text.lowered word

end Keyword

/-- The keyword of a command. -/
def Command.keyword : Command → Keyword
  | .shape .. => .form .shape
  | .move .. => .form .move
  | .color .. => .form .color
  | .resize .. => .form .resize
  | .remove _ => .form .remove
  | .snapshot _ => .snapshot
  | .clear _ => .clear

/-- The places for arguments. -/
inductive Slot where
  | name
  | kind
  | x
  | y
  | firstSize
  | secondSize
  | red
  | green
  | blue
deriving Repr, DecidableEq

/-- The words that name a slot in a message. -/
def Slot.label : Slot → String
  | name => "name"
  | kind => "shape type"
  | x => "x"
  | y => "y"
  | firstSize => "first size parameter"
  | secondSize => "second size parameter"
  | red => "red"
  | green => "green"
  | blue => "blue"

/-- What the argument in a slot denotes. -/
abbrev Slot.Value : Slot → Type
  | name => String
  | kind => Kind
  | _ => Float

namespace Form

/-- The arguments of a command in the order in which they are written. -/
def slots : Form → List Slot
  | shape =>
      [.name, .kind, .x, .y, .firstSize, .secondSize, .red, .green, .blue]
  | move => [.name, .x, .y]
  | color => [.name, .red, .green, .blue]
  | resize => [.name, .firstSize, .secondSize]
  | remove => [.name]

end Form

/-- One value for every slot of a list. -/
abbrev Values : List Slot → Type
  | [] => Unit
  | slot :: slots => slot.Value × Values slots

/-- The command of a form with given arguments. -/
def Form.command : (form : Form) → Values form.slots → Command
  | shape, (name, kind, x, y, first, second, red, green, blue, ()) =>
      .shape name kind ⟨x, y⟩ first second red green blue
  | move, (name, x, y, ()) => .move name ⟨x, y⟩
  | color, (name, red, green, blue, ()) => .color name red green blue
  | resize, (name, first, second, ()) => .resize name first second
  | remove, (name, ()) => .remove name

/-- A command of a form has the keyword of that form. -/
theorem Form.keyword_command
    (form : Form)
    (values : Values form.slots) :
    (form.command values).keyword = .form form := by
  cases form <;> rfl

end Storyboard.Script
