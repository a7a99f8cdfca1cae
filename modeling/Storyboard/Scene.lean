import Std.Data.ExtTreeSet.Lemmas
import Storyboard.Shape.Basic

namespace Storyboard

/-!
# The scene

The scene lists its shapes in the order in which they were created and keeps
the set of their names beside the list, so that a taken name is found without a
search.  A change that names no shape of the scene answers `false` and does
nothing; a change that is refused does nothing either.
-/

/-- The shapes drawn now, oldest first, and the names that are taken. -/
structure Scene where
  shapes : List Shape := []
  names : Std.ExtTreeSet String := ∅

namespace Scene

/-- A scene without shapes. -/
def empty : Scene := {}

/-- Add a new shape at the end, unless its name is taken or it is not valid. -/
def create
    (scene : Scene)
    (kind : Kind)
    (name : String)
    (position : Point)
    (first second : Float)
    (color : Color) :
    Change Scene (Except Refusal Shape) :=
  if name ∈ scene.names then
    ⟨.error (.nameTaken name), scene⟩
  else
    match Shape.create kind name position first second color with
    | .error refusal => ⟨.error refusal, scene⟩
    | .ok shape =>
        ⟨.ok shape,
          { shapes := scene.shapes ++ [shape]
            names := scene.names.insert name }⟩

/-- Remove the shape of a name; the answer says whether there was one. -/
def remove (scene : Scene) (name : String) : Change Scene Bool :=
  if name ∈ scene.names then
    ⟨true,
      { shapes := scene.shapes.filter (·.name ≠ name)
        names := scene.names.erase name }⟩
  else
    ⟨false, scene⟩

/-- Change the first shape of a name; the answer says whether there is one. -/
def changeFirst
    (name : String)
    (change : Shape → Change Shape (Except Refusal Unit)) :
    List Shape → Change (List Shape) (Except Refusal Bool)
  | [] => ⟨.ok false, []⟩
  | shape :: rest =>
      if shape.name = name then
        let changed := change shape
        ⟨changed.answer.map fun _ => true, changed.after :: rest⟩
      else
        let later := changeFirst name change rest
        ⟨later.answer, shape :: later.after⟩

/-- Change the shape of a name and leave the set of names alone. -/
def change
    (scene : Scene)
    (name : String)
    (change : Shape → Change Shape (Except Refusal Unit)) :
    Change Scene (Except Refusal Bool) :=
  let changed := changeFirst name change scene.shapes
  ⟨changed.answer, { scene with shapes := changed.after }⟩

/-- Move the shape of a name. -/
def move (scene : Scene) (name : String) (position : Point) :
    Change Scene (Except Refusal Bool) :=
  scene.change name fun shape => ⟨.ok (), shape.moveTo position⟩

/-- Give the shape of a name another color. -/
def recolor (scene : Scene) (name : String) (red green blue : Float) :
    Change Scene (Except Refusal Bool) :=
  scene.change name fun shape => shape.recolor red green blue

/-- Give the shape of a name other sizes, whatever its kind. -/
def resize (scene : Scene) (name : String) (first second : Float) :
    Change Scene (Except Refusal Bool) :=
  scene.change name fun shape => shape.resize first second

/-- Give the shape of a name other sizes, which are meant for one kind. -/
def resizeAs
    (scene : Scene)
    (kind : Kind)
    (name : String)
    (first second : Float) :
    Change Scene (Except Refusal Bool) :=
  scene.change name fun shape => shape.resizeAs kind first second

/-- The shape of a name. -/
def get? (scene : Scene) (name : String) : Option Shape :=
  scene.shapes.find? (·.name = name)

/-- The shape of a name, refusing a name that no shape has. -/
def require (scene : Scene) (name : String) : Except Refusal Shape :=
  match scene.get? name with
  | some shape => .ok shape
  | none => .error (.noShape name)

end Scene

end Storyboard
