import Storyboard.Proofs.Scene.Part

namespace Storyboard

/-!
# Operations that can be swapped

Two operations can be swapped in a state if both orders leave the same state and
if each is answered after the other as it is before it.  Changes of different
aspects of one shape can be swapped.  So can operations at different names of
a scene, except for two creations, whose order the list of shapes keeps.

A removal takes the part of the scene under all other names, so that it can be
swapped with whatever can be carried out on that part alone.
-/

/--
Both orders of two operations leave one state, and each answers the same in
both.
-/
structure Swappable
    {State Answer OtherAnswer : Type}
    (state : State)
    (first : State → Change State Answer)
    (second : State → Change State OtherAnswer) : Prop where
  after :
    (second (first state).after).after = (first (second state).after).after
  answer :
    (first (second state).after).answer = (first state).answer
  otherAnswer :
    (second (first state).after).answer = (second state).answer

section

variable
  {State Answer OtherAnswer : Type}
  {state : State}
  {first : State → Change State Answer}
  {second : State → Change State OtherAnswer}

theorem Swappable.symm
    (swappable : Swappable state first second) :
    Swappable state second first where
  after := swappable.after.symm
  answer := swappable.otherAnswer
  otherAnswer := swappable.answer

/--
What gives a fixed answer and does nothing can be swapped with everything.
-/
theorem Swappable.fixed (answer : OtherAnswer) :
    Swappable state first fun state => ⟨answer, state⟩ :=
  ⟨rfl, rfl, rfl⟩

end

/--
Replace the sizes of an extent, or leave it as it is if one of them is refused.
-/
def Extent.resize
    (extent : Extent)
    (first second : Float) :
    Change Extent (Except Refusal Unit) :=
  match Extent.ofSizes extent.kind first second with
  | .ok resized => ⟨.ok (), resized⟩
  | .error refusal => ⟨.error refusal, extent⟩

namespace Shape

/-- What operations change of a shape, one at a time. -/
inductive Aspect where
  | position
  | color
  | extent
deriving Repr, DecidableEq

/-- What an aspect of a shape consists of. -/
abbrev Aspect.Value : Aspect → Type
  | position => Point
  | color => Color
  | extent => Extent

/-- An aspect of a shape. -/
def get (shape : Shape) : (aspect : Aspect) → aspect.Value
  | .position => shape.position
  | .color => shape.color
  | .extent => shape.extent

/-- Replace an aspect of a shape. -/
def put (shape : Shape) : (aspect : Aspect) → aspect.Value → Shape
  | .position, position => { shape with position }
  | .color, color => { shape with color }
  | .extent, extent => { shape with extent }

section Put

variable
  (shape : Shape)
  {aspect other : Aspect}

@[simp] theorem name_put (value : aspect.Value) :
    (shape.put aspect value).name = shape.name := by
  cases aspect <;> rfl

/-- Replacing an aspect leaves the others alone. -/
theorem get_put
    (differ : aspect ≠ other)
    (value : aspect.Value) :
    (shape.put aspect value).get other = shape.get other := by
  cases aspect with
  | position =>
      cases other with
      | position =>
          exact absurd rfl differ
      | color | extent =>
          rfl
  | color =>
      cases other with
      | color =>
          exact absurd rfl differ
      | position | extent =>
          rfl
  | extent =>
      cases other with
      | extent =>
          exact absurd rfl differ
      | position | color =>
          rfl

theorem put_put
    (differ : aspect ≠ other)
    (value : aspect.Value)
    (otherValue : other.Value) :
    (shape.put aspect value).put other otherValue =
      (shape.put other otherValue).put aspect value := by
  cases aspect with
  | position =>
      cases other with
      | position =>
          exact absurd rfl differ
      | color | extent =>
          rfl
  | color =>
      cases other with
      | color =>
          exact absurd rfl differ
      | position | extent =>
          rfl
  | extent =>
      cases other with
      | extent =>
          exact absurd rfl differ
      | position | color =>
          rfl

end Put

/--
A change depends on the name and one aspect of a shape and replaces that aspect.
-/
def Replaces
    (aspect : Aspect)
    (change : Shape → Change Shape (Except Refusal Unit)) : Prop :=
  ∃ replace :
      String → aspect.Value → Change aspect.Value (Except Refusal Unit),
    ∀ shape,
      change shape =
        let replaced := replace shape.name (shape.get aspect)
        ⟨replaced.answer, shape.put aspect replaced.after⟩

theorem replaces_moveTo (position : Point) :
    Replaces .position fun shape => ⟨.ok (), shape.moveTo position⟩ :=
  ⟨fun _ _ => ⟨.ok (), position⟩, fun _ => rfl⟩

theorem replaces_recolor (red green blue : Float) :
    Replaces .color fun shape => shape.recolor red green blue :=
  ⟨fun _ color => color.set red green blue, fun _ => rfl⟩

theorem replaces_resize (first second : Float) :
    Replaces .extent fun shape => shape.resize first second := by
  refine ⟨fun _ extent => extent.resize first second, fun shape => ?_⟩
  simp only [resize, Extent.resize, kind, get]
  cases Extent.ofSizes shape.extent.kind first second <;> rfl

/-- Sizes for another kind are refused by the name and the extent alone. -/
theorem replaces_resizeAs (kind : Kind) (first second : Float) :
    Replaces .extent fun shape => shape.resizeAs kind first second := by
  obtain ⟨replace, resized⟩ := replaces_resize first second
  refine
    ⟨fun name extent =>
      if kind = extent.kind then
        replace name extent
      else
        ⟨.error (.kindMismatch extent.kind name kind), extent⟩,
      fun shape => ?_⟩
  by_cases isKind : kind = shape.kind
  · have ofExtent : kind = (shape.get .extent).kind := isKind
    simp only [resizeAs, if_pos isKind, if_pos ofExtent, resized]
  · have notOfExtent : kind ≠ (shape.get .extent).kind := isKind
    simp only [resizeAs, if_neg isKind, if_neg notOfExtent]
    rfl

namespace Replaces

variable
  {aspect other : Aspect}
  {change otherChange : Shape → Change Shape (Except Refusal Unit)}

theorem name_after
    (replaces : Replaces aspect change)
    (shape : Shape) :
    (change shape).after.name = shape.name := by
  obtain ⟨replace, replaced⟩ := replaces
  rw [replaced, name_put]

/-- Changes of different aspects can be swapped. -/
theorem swappable
    (replaces : Replaces aspect change)
    (otherReplaces : Replaces other otherChange)
    (differ : aspect ≠ other)
    (shape : Shape) :
    Swappable shape change otherChange := by
  obtain ⟨replace, replaced⟩ := replaces
  obtain ⟨otherReplace, otherReplaced⟩ := otherReplaces
  constructor
  · simp only [replaced, otherReplaced, name_put, get_put _ differ,
      get_put _ differ.symm]
    exact shape.put_put differ _ _
  · simp only [replaced, otherReplaced, name_put, get_put _ differ.symm]
  · simp only [replaced, otherReplaced, name_put, get_put _ differ]

end Replaces

end Shape

namespace Scene

variable
  {name other : String}
  {change otherChange : Shape → Change Shape (Except Refusal Unit)}

section Change

variable
  (keepsName : ∀ shape, (change shape).after.name = shape.name)
  (otherKeepsName : ∀ shape, (otherChange shape).after.name = shape.name)
include keepsName otherKeepsName

/--
Two changes of the first shape of a name can be swapped if those of a shape can.
-/
theorem swappable_changeFirst
    (swappable : ∀ shape, Swappable shape change otherChange)
    (shapes : List Shape) :
    Swappable shapes (changeFirst name change)
      (changeFirst name otherChange) := by
  induction shapes with
  | nil =>
      exact ⟨rfl, rfl, rfl⟩
  | cons first rest inductionHypothesis =>
      by_cases isNamed : first.name = name
      · obtain ⟨sameAfter, sameAnswer, sameOtherAnswer⟩ := swappable first
        constructor <;>
          simp [changeFirst, isNamed, keepsName, otherKeepsName, sameAfter,
            sameAnswer, sameOtherAnswer]
      · obtain ⟨sameAfter, sameAnswer, sameOtherAnswer⟩ := inductionHypothesis
        constructor <;>
          simp [changeFirst, isNamed, sameAfter, sameAnswer, sameOtherAnswer]

/-- Changes of the first shapes of different names can be swapped. -/
theorem swappable_changeFirst_of_ne
    (differ : name ≠ other)
    (shapes : List Shape) :
    Swappable shapes (changeFirst name change)
      (changeFirst other otherChange) := by
  induction shapes with
  | nil =>
      exact ⟨rfl, rfl, rfl⟩
  | cons first rest inductionHypothesis =>
      obtain ⟨sameAfter, sameAnswer, sameOtherAnswer⟩ := inductionHypothesis
      by_cases isNamed : first.name = name
      · constructor <;> simp [changeFirst, isNamed, keepsName, differ]
      · by_cases isOther : first.name = other
        · constructor <;>
            simp [changeFirst, isOther, otherKeepsName, differ.symm]
        · constructor <;>
            simp [changeFirst, isNamed, isOther, sameAfter, sameAnswer,
              sameOtherAnswer]

end Change

variable (scene : Scene)

/-- Changes of a scene can be swapped if those of its list can. -/
theorem swappable_change
    (swappable :
      Swappable scene.shapes (changeFirst name change)
        (changeFirst other otherChange)) :
    Swappable scene (·.change name change) (·.change other otherChange) where
  after := by
    simp only [Scene.change, swappable.after]
  answer := swappable.answer
  otherAnswer := swappable.otherAnswer

/-- A change passes over a new shape of another name at the end. -/
theorem changeFirst_append_of_ne
    {shape : Shape}
    (notNamed : shape.name ≠ name)
    (shapes : List Shape) :
    changeFirst name change (shapes ++ [shape]) =
      ⟨(changeFirst name change shapes).answer,
        (changeFirst name change shapes).after ++ [shape]⟩ := by
  induction shapes with
  | nil =>
      simp [changeFirst, notNamed]
  | cons first rest inductionHypothesis =>
      by_cases isNamed : first.name = name
      · simp [changeFirst, isNamed]
      · simp [changeFirst, isNamed, inductionHypothesis]

/-- A change can be swapped with the creation of a shape of another name. -/
theorem swappable_change_create
    (differ : name ≠ other)
    (kind : Kind)
    (position : Point)
    (first second : Float)
    (color : Color) :
    Swappable scene (·.change name change)
      (·.create kind other position first second color) := by
  by_cases taken : other ∈ scene.names
  · constructor <;> simp [Scene.change, create, taken]
  · cases created : Shape.create kind other position first second color with
    | error refusal =>
        constructor <;> simp [Scene.change, create, taken, created]
    | ok shape =>
        have notNamed : shape.name ≠ name := by
          rw [(Shape.create_eq_ok_iff.mp created).2.2.2.1]
          exact differ.symm
        constructor <;>
          simp [Scene.change, create, taken, created,
            changeFirst_append_of_ne notNamed]

section Remove

/-- A removal takes the part of the scene under all other names. -/
theorem remove_eq_part :
    scene.remove name =
      if name ∈ scene.names then
        ⟨true, scene.part (· ≠ name)⟩
      else
        ⟨false, scene⟩ := by
  have sameNames :
      scene.names.erase name = scene.names.filter (· ≠ name) := by
    apply Std.ExtTreeSet.ext_mem
    intro listed
    simp only [Std.ExtTreeSet.mem_erase, Std.ExtTreeSet.mem_filter,
      Std.ExtTreeSet.get_eq]
    grind
  rw [remove, sameNames]
  rfl

/--
A removal can be swapped with what can be carried out under all other names.
-/
theorem swappable_remove
    {Answer : Type}
    {edit : Scene → Change Scene Answer}
    (ofPart :
      ∀ scene : Scene,
        edit (scene.part (· ≠ name)) = (edit scene).onPart (· ≠ name))
    (keepsTaken : name ∈ (edit scene).after.names ↔ name ∈ scene.names) :
    Swappable scene edit (·.remove name) := by
  by_cases taken : name ∈ scene.names
  · have takenAfter := keepsTaken.mpr taken
    constructor <;>
      simp only [remove_eq_part, taken, takenAfter, if_true, ofPart,
        Change.onPart]
  · have freeAfter := mt keepsTaken.mp taken
    constructor <;>
      simp only [remove_eq_part, taken, freeAfter, if_false]

variable (differ : name ≠ other)
include differ

theorem swappable_change_remove
    (keepsName : ∀ shape, (change shape).after.name = shape.name) :
    Swappable scene (·.change name change) (·.remove other) :=
  scene.swappable_remove
    (change_part keepsName (decide_eq_true differ)) Iff.rfl

theorem swappable_remove_remove :
    Swappable scene (·.remove name) (·.remove other) := by
  apply scene.swappable_remove (remove_part (decide_eq_true differ))
  unfold remove
  split
  · simp only [Std.ExtTreeSet.mem_erase]
    grind
  · rfl

theorem swappable_create_remove
    (kind : Kind)
    (position : Point)
    (first second : Float)
    (color : Color) :
    Swappable scene (·.create kind name position first second color)
      (·.remove other) := by
  refine scene.swappable_remove
    (fun scene =>
      create_part (decide_eq_true differ) scene kind position
        first second color)
    ?_
  obtain ⟨shape, -, -, added⟩ | ⟨refusal, refused⟩ :=
    scene.create_cases kind name position first second color
  · simp only [added, Std.ExtTreeSet.mem_insert]
    grind
  · rw [refused]

end Remove

end Scene

end Storyboard
