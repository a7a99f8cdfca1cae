import Storyboard.Proofs.Scene.Validity

namespace Storyboard

/-!
# Parts of a scene

The part of a scene under some names holds its shapes of these names, in their
order.  An operation at one of the names can be carried out on the part alone,
with the same answer.  An operation at any other name does not reach the part.
-/

/-- The part of a scene under the names that are owned. -/
def Scene.part (owns : String → Bool) (scene : Scene) : Scene where
  shapes := scene.shapes.filter (owns ·.name)
  names := scene.names.filter owns

/-- A change of a scene, seen on a part of it. -/
def Change.onPart
    {α : Type}
    (owns : String → Bool)
    (change : Change Scene α) :
    Change Scene α :=
  ⟨change.answer, change.after.part owns⟩

namespace Scene

variable
  {owns : String → Bool}
  {name : String}

/-- A name is taken in a part exactly if it is owned and taken in the scene. -/
theorem mem_names_part_iff (scene : Scene) (other : String) :
    other ∈ (scene.part owns).names ↔
      other ∈ scene.names ∧ owns other = true := by
  simp [part, Std.ExtTreeSet.mem_filter, Std.ExtTreeSet.get_eq]

section Names

variable
  (owns)
  (names : Std.ExtTreeSet String)
  (name)

theorem filter_insert :
    (names.insert name).filter owns =
      if owns name then
        (names.filter owns).insert name
      else
        names.filter owns := by
  apply Std.ExtTreeSet.ext_mem
  intro other
  split <;>
    simp only [Std.ExtTreeSet.mem_insert, Std.ExtTreeSet.mem_filter,
      Std.ExtTreeSet.get_eq, Std.LawfulEqOrd.compare_eq_iff_eq] <;>
    grind

theorem filter_erase :
    (names.erase name).filter owns = (names.filter owns).erase name := by
  apply Std.ExtTreeSet.ext_mem
  intro other
  simp only [Std.ExtTreeSet.mem_erase, Std.ExtTreeSet.mem_filter,
    Std.ExtTreeSet.get_eq]
  grind

end Names

section Own

variable
  (owned : owns name = true)
  (scene : Scene)
include owned

/-- An owned shape is looked up in the part as in the scene. -/
theorem get?_part : (scene.part owns).get? name = scene.get? name := by
  unfold get? part
  rw [List.find?_filter]
  congr 1
  funext shape
  by_cases isNamed : shape.name = name <;> simp [isNamed, owned]

theorem require_part : (scene.part owns).require name = scene.require name := by
  rw [require, require, get?_part owned]

/-- An owned name is free for a new shape in the part as in the scene. -/
theorem create_part
    (kind : Kind)
    (position : Point)
    (first second : Float)
    (color : Color) :
    (scene.part owns).create kind name position first second color =
      (scene.create kind name position first second color).onPart owns := by
  have sameTaken : name ∈ (scene.part owns).names ↔ name ∈ scene.names := by
    simp [mem_names_part_iff, owned]
  unfold create
  by_cases taken : name ∈ scene.names
  · rw [if_pos taken, if_pos (sameTaken.mpr taken)]
    rfl
  · rw [if_neg taken, if_neg (mt sameTaken.mp taken)]
    cases created : Shape.create kind name position first second color with
    | error refusal =>
        rfl
    | ok shape =>
        have isNamed : shape.name = name :=
          (Shape.create_eq_ok_iff.mp created).2.2.2.1
        simp [Change.onPart, part, isNamed, owned, filter_insert]

/-- An owned shape is removed from the part as from the scene. -/
theorem remove_part :
    (scene.part owns).remove name = (scene.remove name).onPart owns := by
  have sameTaken : name ∈ (scene.part owns).names ↔ name ∈ scene.names := by
    simp [mem_names_part_iff, owned]
  unfold remove
  by_cases taken : name ∈ scene.names
  · rw [if_pos taken, if_pos (sameTaken.mpr taken)]
    simp only [Change.onPart, part, filter_erase, List.filter_filter,
      Bool.and_comm]
  · rw [if_neg taken, if_neg (mt sameTaken.mp taken)]
    rfl

end Own

section Foreign

variable (foreign : owns name = false)
include foreign

/-- A new shape of another name does not belong to the part. -/
theorem part_create
    (scene : Scene)
    (kind : Kind)
    (position : Point)
    (first second : Float)
    (color : Color) :
    (scene.create kind name position first second color).after.part owns =
      scene.part owns := by
  obtain ⟨shape, -, created, added⟩ | ⟨refusal, refused⟩ :=
    scene.create_cases kind name position first second color
  · have isNamed : shape.name = name :=
      (Shape.create_eq_ok_iff.mp created).2.2.2.1
    simp [added, part, isNamed, foreign, filter_insert]
  · rw [refused]

/-- Removing another name leaves the part as it is. -/
theorem part_remove (scene : Scene) :
    (scene.remove name).after.part owns = scene.part owns := by
  unfold remove
  split
  · have sameNames :
        (scene.names.erase name).filter owns = scene.names.filter owns := by
      apply Std.ExtTreeSet.ext_mem
      intro other
      simp only [Std.ExtTreeSet.mem_erase, Std.ExtTreeSet.mem_filter,
        Std.ExtTreeSet.get_eq]
      grind
    have sameShapes :
        (scene.shapes.filter (·.name ≠ name)).filter (owns ·.name) =
          scene.shapes.filter (owns ·.name) := by
      rw [List.filter_filter]
      apply List.filter_congr
      intro shape _
      by_cases isNamed : shape.name = name <;> simp [isNamed, foreign]
    simp only [part, sameNames, sameShapes]
  · rfl

end Foreign

section Change

variable
  {change : Shape → Change Shape (Except Refusal Unit)}
  (keepsName : ∀ shape, (change shape).after.name = shape.name)
include keepsName

/-- The first shape of an owned name is the first one among the owned shapes. -/
theorem changeFirst_filter
    (owned : owns name = true)
    (shapes : List Shape) :
    changeFirst name change (shapes.filter (owns ·.name)) =
      ⟨(changeFirst name change shapes).answer,
        (changeFirst name change shapes).after.filter (owns ·.name)⟩ := by
  induction shapes with
  | nil =>
      rfl
  | cons first rest inductionHypothesis =>
      by_cases isNamed : first.name = name
      · simp [changeFirst, isNamed, owned, keepsName]
      · by_cases isOwned : owns first.name = true
        · simp [changeFirst, isNamed, isOwned, inductionHypothesis]
        · simp [changeFirst, isNamed, isOwned, inductionHypothesis]

/-- A change of a shape of another name does not reach the owned shapes. -/
theorem filter_changeFirst
    (foreign : owns name = false)
    (shapes : List Shape) :
    (changeFirst name change shapes).after.filter (owns ·.name) =
      shapes.filter (owns ·.name) := by
  induction shapes with
  | nil =>
      rfl
  | cons first rest inductionHypothesis =>
      by_cases isNamed : first.name = name
      · simp [changeFirst, isNamed, foreign, keepsName]
      · simp [changeFirst, isNamed, List.filter_cons, inductionHypothesis]

theorem change_part
    (owned : owns name = true)
    (scene : Scene) :
    (scene.part owns).change name change =
      (scene.change name change).onPart owns := by
  simp only [Scene.change, part, changeFirst_filter keepsName owned,
    Change.onPart]

theorem part_change
    (foreign : owns name = false)
    (scene : Scene) :
    (scene.change name change).after.part owns = scene.part owns := by
  simp only [Scene.change, part, filter_changeFirst keepsName foreign]

end Change

end Scene

end Storyboard
