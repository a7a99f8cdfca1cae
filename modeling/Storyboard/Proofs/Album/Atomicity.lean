import Storyboard.Scene
import Storyboard.Snapshot.Archive

namespace Storyboard

/-!
# All or nothing

An operation either is done, as its answer says, or leaves everything as it was.
This holds at every level because each one checks before it writes: a color
checks all channels first, a shape its color or its sizes, a scene the name and
the shape, and an archive the id.
-/

/--
Unless its answer tells of a success, a change leaves the state as it was.
-/
def Change.AllOrNothing
    {State Answer : Type}
    (before : State)
    (done : Answer → Prop)
    (change : Change State Answer) : Prop :=
  ¬done change.answer → change.after = before

/-- Setting a color replaces all of its channels or none. -/
theorem Color.allOrNothing_set
    (color : Color)
    (red green blue : Float) :
    (color.set red green blue).AllOrNothing color (· = .ok ()) := by
  unfold Change.AllOrNothing Color.set
  cases Color.ofChannels red green blue with
  | ok replacement =>
      intro notDone
      exact absurd rfl notDone
  | error refusal =>
      intro _
      rfl

namespace Shape

variable (shape : Shape)

/-- A shape is recolored with all channels or stays as it was. -/
theorem allOrNothing_recolor (red green blue : Float) :
    (shape.recolor red green blue).AllOrNothing shape (· = .ok ()) := by
  intro notDone
  have sameColor := shape.color.allOrNothing_set red green blue notDone
  rw [recolor, sameColor]

/-- A shape is resized with both sizes or stays as it was. -/
theorem allOrNothing_resize (first second : Float) :
    (shape.resize first second).AllOrNothing shape (· = .ok ()) := by
  unfold Change.AllOrNothing resize
  cases Extent.ofSizes shape.kind first second with
  | ok extent =>
      intro notDone
      exact absurd rfl notDone
  | error refusal =>
      intro _
      rfl

theorem allOrNothing_resizeAs
    (kind : Kind)
    (first second : Float) :
    (shape.resizeAs kind first second).AllOrNothing shape (· = .ok ()) := by
  unfold resizeAs
  split
  · exact shape.allOrNothing_resize first second
  · intro _
    rfl

end Shape

namespace Scene

/--
The first shape of a name changes as a whole, or all shapes stay as they were.
-/
theorem allOrNothing_changeFirst
    (name : String)
    {change : Shape → Change Shape (Except Refusal Unit)}
    (atomic : ∀ shape, (change shape).AllOrNothing shape (· = .ok ()))
    (shapes : List Shape) :
    (changeFirst name change shapes).AllOrNothing shapes (· = .ok true) := by
  induction shapes with
  | nil =>
      intro _
      rfl
  | cons first rest inductionHypothesis =>
      intro notDone
      by_cases isNamed : first.name = name
      · have refused : (change first).answer ≠ .ok () := by
          intro accepted
          simp [changeFirst, isNamed, accepted, Except.map] at notDone
        have unchanged : (change first).after = first := atomic first refused
        simp [changeFirst, isNamed, unchanged]
      · have unchanged : (changeFirst name change rest).after = rest := by
          apply inductionHypothesis
          simpa [changeFirst, isNamed] using notDone
        simp [changeFirst, isNamed, unchanged]

variable (scene : Scene)

/-- A change of the shape of a name is done or leaves the scene as it was. -/
theorem allOrNothing_change
    (name : String)
    {change : Shape → Change Shape (Except Refusal Unit)}
    (atomic : ∀ shape, (change shape).AllOrNothing shape (· = .ok ())) :
    (scene.change name change).AllOrNothing scene (· = .ok true) := by
  intro notDone
  have unchanged :
      (changeFirst name change scene.shapes).after = scene.shapes :=
    allOrNothing_changeFirst name atomic scene.shapes notDone
  rw [Scene.change, unchanged]

/-- A creation adds its shape and takes its name, or does neither. -/
theorem allOrNothing_create
    (kind : Kind)
    (name : String)
    (position : Point)
    (first second : Float)
    (color : Color) :
    (scene.create kind name position first second color).AllOrNothing scene
      fun answer => ∃ shape, answer = .ok shape := by
  unfold create
  split
  · intro _
    rfl
  · cases Shape.create kind name position first second color with
    | ok shape =>
        intro notDone
        exact absurd ⟨shape, rfl⟩ notDone
    | error refusal =>
        intro _
        rfl

theorem allOrNothing_remove (name : String) :
    (scene.remove name).AllOrNothing scene (· = true) := by
  unfold remove
  split
  · intro notDone
    exact absurd rfl notDone
  · intro _
    rfl

end Scene

/-- An append puts its snapshot in or leaves the archive as it was. -/
theorem Archive.allOrNothing_append
    (archive : Archive)
    (snapshot : Snapshot) :
    (archive.append snapshot).AllOrNothing archive (· = .ok ()) := by
  unfold append
  split
  · intro _
    rfl
  · intro notDone
    exact absurd rfl notDone

end Storyboard
