import Storyboard.Proofs.Script.Reached

namespace Storyboard

/-!
# What a line does to the shapes

A command that is applied makes a shape, ends shapes or changes one attribute of
the shape of a name.  A command that is not applied does nothing.  What a line
did can therefore be told from its command and from what became of it, without
regard to the scene it was run on.
-/

namespace Kind

/-- The extent of a kind with given sizes. -/
def extent (kind : Kind) (sizes : Float × Float) : Extent :=
  match kind with
  | rectangle => .rectangle sizes.1 sizes.2
  | oval => .oval sizes.1 sizes.2

/-! An extent is known by its kind and its sizes. -/

@[simp] theorem kind_extent (kind : Kind) (sizes : Float × Float) :
    (kind.extent sizes).kind = kind := by
  cases kind <;> rfl

@[simp] theorem sizes_extent (kind : Kind) (sizes : Float × Float) :
    (kind.extent sizes).sizes = sizes := by
  cases kind <;> rfl

@[simp] theorem extent_kind_sizes (extent : Extent) :
    extent.kind.extent extent.sizes = extent := by
  cases extent <;> rfl

end Kind

namespace Shape

/-- Given channels recolor every shape or are refused for every shape. -/
theorem recolor_uniform (red green blue : Float) :
    (∀ shape : Shape,
      shape.recolor red green blue =
        ⟨.ok (), { shape with color := ⟨red, green, blue⟩ }⟩) ∨
      ∀ shape : Shape, ∃ refusal,
        shape.recolor red green blue = ⟨.error refusal, shape⟩ := by
  unfold recolor Color.set
  cases made : Color.ofChannels red green blue with
  | ok color =>
      obtain ⟨rfl, -⟩ := Color.ofChannels_eq_ok_iff.mp made
      exact .inl fun shape => rfl
  | error refusal =>
      exact .inr fun shape => ⟨refusal, rfl⟩

/-- Given sizes resize every shape or are refused for every shape. -/
theorem resize_uniform (first second : Float) :
    (∀ shape : Shape,
      shape.resize first second =
        ⟨.ok (), { shape with extent := shape.kind.extent (first, second) }⟩) ∨
      ∀ shape : Shape, ∃ refusal,
        shape.resize first second = ⟨.error refusal, shape⟩ := by
  by_cases positive : 0 < first ∧ 0 < second
  · left
    intro shape
    have made :
        Extent.ofSizes shape.kind first second =
          .ok (shape.kind.extent (first, second)) :=
      Extent.ofSizes_eq_ok_iff.mpr
        ⟨Kind.kind_extent _ _, Kind.sizes_extent _ _, positive⟩
    unfold resize
    rw [made]
  · right
    intro shape
    obtain ⟨firstPositive, secondPositive, -⟩ | refused :=
      shape.resize_cases first second
    · exact absurd ⟨firstPositive, secondPositive⟩ positive
    · exact refused

end Shape

namespace Script

namespace Command

/-- The shape that a command makes when it is applied. -/
def made? : Command → Option Shape
  | .shape name kind position first second red green blue =>
      some ⟨name, position, ⟨red, green, blue⟩, kind.extent (first, second)⟩
  | _ => none

/-- What a command leaves of a shape when it is applied. -/
def leaves (command : Command) (shape : Shape) : Option Shape :=
  match command with
  | .move name position =>
      some (if shape.name = name then { shape with position } else shape)
  | .color name red green blue =>
      some
        (if shape.name = name then
          { shape with color := ⟨red, green, blue⟩ }
        else
          shape)
  | .resize name first second =>
      some
        (if shape.name = name then
          { shape with extent := shape.kind.extent (first, second) }
        else
          shape)
  | .remove name => if shape.name = name then none else some shape
  | .clear .shapes | .clear .all => none
  | _ => some shape

/-- Whether a command is sure to do something to a shape. -/
def reaches (command : Command) (shape : Shape) : Bool :=
  match command with
  | .move name _ => shape.name = name
  | .clear .shapes | .clear .all => true
  | _ => false

end Command

/--
A command was applied and did to some shapes what it does, or it did nothing.
-/
def Command.Done
    (command : Command)
    (shapes : List Shape)
    (executed : Change Album (Except Refusal Outcome)) :
    Prop :=
  (executed.answer = .ok .applied ∧
    executed.after.scene.shapes =
      shapes.filterMap command.leaves ++ command.made?.toList) ∨
  (executed.answer ≠ .ok .applied ∧
    executed.after.scene.shapes = shapes ∧
    ∀ shape ∈ shapes, command.reaches shape = false)

/-- A command that changes shapes is applied exactly if it found one. -/
theorem answer_inScene_ofFound_iff
    (album : Album)
    (command : Command)
    (change : Change Scene (Except Refusal Bool)) :
    (inScene album change (Outcome.ofFound command)).answer = .ok .applied ↔
      change.answer = .ok true := by
  unfold inScene
  cases change.answer with
  | error refusal =>
      simp [Except.map]
  | ok found =>
      cases found <;> simp [Except.map, Outcome.ofFound]

section Done

variable
  {album : Album}

/--
A command that changes the shape of a name is applied if it finds one to accept
it.
-/
theorem done_change
    (valid : album.scene.Valid)
    {command : Command}
    (name : String)
    {change : Shape → Change Shape (Except Refusal Unit)}
    {update : Shape → Shape}
    (uniform :
      (∀ shape, change shape = ⟨.ok (), update shape⟩) ∨
        ∀ shape, ∃ refusal, change shape = ⟨.error refusal, shape⟩)
    (makesNone : command.made? = none)
    (updates :
      ∀ shape,
        command.leaves shape =
          some (if shape.name = name then update shape else shape))
    (accepted :
      ∀ shape, command.reaches shape = true →
        shape.name = name ∧ (change shape).answer = .ok ()) :
    command.Done album.scene.shapes
      (inScene album (album.scene.change name change)
        (Outcome.ofFound command)) := by
  obtain ⟨found, updated⟩ | ⟨notFound, unchanged, refused⟩ :=
    valid.change_of_uniform name uniform
  · refine .inl ⟨(answer_inScene_ofFound_iff album command _).mpr found, ?_⟩
    simp [inScene, updated, makesNone, funext updates]
  · refine .inr ⟨?_, unchanged, ?_⟩
    · rwa [ne_eq, answer_inScene_ofFound_iff]
    · intro shape member
      by_contra reached
      obtain ⟨isNamed, isAccepted⟩ := accepted shape (by simpa using reached)
      exact refused shape member isNamed isAccepted

/--
A command that makes a shape is applied unless the color or the shape is
refused.
-/
theorem done_shape
    (clock : Clock)
    (album : Album)
    (name : String)
    (kind : Kind)
    (position : Point)
    (first second red green blue : Float) :
    let command : Command :=
      .shape name kind position first second red green blue
    command.Done album.scene.shapes (execute clock album command) := by
  intro command
  have leavesAll : command.leaves = some := rfl
  unfold Command.Done
  rw [leavesAll, List.filterMap_some]
  simp only [command, execute]
  cases made : Color.ofChannels red green blue with
  | error refusal =>
      exact .inr ⟨by rintro ⟨⟩, rfl, fun _ _ => rfl⟩
  | ok color =>
      obtain ⟨shape, -, created, added⟩ | ⟨refusal, refused⟩ :=
        album.scene.create_cases kind name position first second color
      · obtain ⟨-, -, -, hasName, hasPosition, hasColor, hasKind, hasSizes⟩ :=
          Shape.create_eq_ok_iff.mp created
        have isMade : command.made? = some shape := by
          obtain ⟨rfl, -⟩ := Color.ofChannels_eq_ok_iff.mp made
          simp [command, Command.made?, ← hasName, ← hasPosition, ← hasColor,
            ← hasKind, ← hasSizes, Shape.kind]
        rw [isMade]
        dsimp only
        rw [added]
        exact .inl ⟨rfl, rfl⟩
      · dsimp only
        rw [refused]
        exact .inr ⟨by rintro ⟨⟩, rfl, fun _ _ => rfl⟩

/-- A command that removes a shape is applied if there is one. -/
theorem done_remove
    (clock : Clock)
    (album : Album)
    (name : String) :
    (Command.remove name).Done album.scene.shapes
      (execute clock album (.remove name)) := by
  simp only [execute, Scene.remove]
  split
  · refine .inl ⟨rfl, ?_⟩
    simp only [Command.made?, Option.toList_none, List.append_nil,
      ← List.filterMap_eq_filter]
    refine List.filterMap_congr fun shape _ => ?_
    by_cases isNamed : shape.name = name <;>
      simp [Command.leaves, isNamed, Option.guard]
  · exact .inr ⟨by rintro ⟨⟩, rfl, fun _ _ => rfl⟩

/--
A command does to the shapes of a valid scene what it does, or nothing at all.
-/
theorem done_execute
    (valid : album.scene.Valid)
    (clock : Clock)
    (command : Command) :
    command.Done album.scene.shapes (execute clock album command) := by
  cases command with
  | shape name kind position first second red green blue =>
      exact done_shape clock album name kind position first second
        red green blue
  | move name position =>
      exact done_change valid name (.inl fun _ => rfl) rfl (fun _ => rfl)
        fun shape reached => ⟨by simpa [Command.reaches] using reached, rfl⟩
  | color name red green blue =>
      exact done_change valid name (Shape.recolor_uniform red green blue) rfl
        (fun _ => rfl) fun _ reached => by cases reached
  | resize name first second =>
      exact done_change valid name (Shape.resize_uniform first second) rfl
        (fun _ => rfl) fun _ reached => by cases reached
  | remove name =>
      exact done_remove clock album name
  | snapshot description =>
      exact .inr ⟨by rintro ⟨⟩, rfl, fun _ _ => rfl⟩
  | clear target =>
      cases target with
      | snapshots =>
          have leavesAll : (Command.clear .snapshots).leaves = some := rfl
          refine .inl ⟨rfl, ?_⟩
          simp [execute, Command.made?, leavesAll]
      | shapes | all =>
          refine .inl ⟨rfl, ?_⟩
          simp [execute, Command.made?, Command.leaves, Scene.empty]

end Done

end Script

end Storyboard
