import Storyboard.Proofs.Number.Order
import Storyboard.Proofs.Script.Reached

namespace Storyboard

/-!
# What holds in every scene and in every album of a script

Numbers that a script can write are finite, so albums that scripts reach hold
finite numbers only.  The main statement puts this beside what holds after any
operations with any doubles: the scene is valid, and creating, removing and
looking up agree on which names there are.
-/

namespace Script

/-- The value in a slot is finite if it is a number. -/
def Slot.FiniteValue : (slot : Slot) → slot.Value → Prop
  | .name, _ | .kind, _ => True
  | .x, value | .y, value | .firstSize, value | .secondSize, value
  | .red, value | .green, value | .blue, value => value.isFinite = true

/-- All numbers among the values of a list of slots are finite. -/
def FiniteValues : (slots : List Slot) → Values slots → Prop
  | [], _ => True
  | slot :: slots, (value, values) =>
      slot.FiniteValue value ∧ FiniteValues slots values

/-- A word is read as a finite value. -/
theorem Slot.finiteValue_of_read
    {slot : Slot}
    {word : String}
    {value : slot.Value}
    (accepted : slot.read word = .ok value) :
    slot.FiniteValue value := by
  cases slot with
  | name | kind =>
      trivial
  | x | y | firstSize | secondSize | red | green | blue =>
      unfold Slot.read at accepted
      cases filtered : (Number.ofNumeral? word).filter Float.isFinite with
      | none =>
          rw [filtered] at accepted
          cases accepted
      | some number =>
          rw [filtered] at accepted
          cases accepted
          exact (Option.filter_eq_some_iff.mp filtered).2

/-- Words fill slots with finite values. -/
theorem finiteValues_of_fill
    {keyword : Keyword}
    {slots : List Slot}
    {words : List String}
    {values : Values slots}
    (accepted : fill keyword slots words = .ok values) :
    FiniteValues slots values := by
  induction slots generalizing words with
  | nil =>
      trivial
  | cons slot slots inductionHypothesis =>
      cases words with
      | nil =>
          cases accepted
      | cons word words =>
          obtain ⟨value, valueRead, rest⟩ := bind_eq_ok_iff.mp accepted
          obtain ⟨others, othersRead, made⟩ := bind_eq_ok_iff.mp rest
          cases made
          exact ⟨Slot.finiteValue_of_read valueRead,
            inductionHypothesis othersRead⟩

/-- Finite values make a command whose operations bring finite numbers. -/
theorem Form.finite_operations_command
    (form : Form)
    {values : Values form.slots}
    (finite : FiniteValues form.slots values) :
    ∀ operation ∈ (form.command values).operations, operation.Finite := by
  cases form with
  | shape =>
      obtain ⟨name, kind, x, y, first, second, red, green, blue, ⟨⟩⟩ := values
      obtain ⟨-, -, rest⟩ := finite
      simp_all [Form.command, Command.operations, Operation.Finite,
        Operation.numbers, FiniteValues, Slot.FiniteValue]
  | move =>
      obtain ⟨name, x, y, ⟨⟩⟩ := values
      simp_all [Form.command, Command.operations, Operation.Finite,
        Operation.numbers, Form.slots, FiniteValues, Slot.FiniteValue]
  | color =>
      obtain ⟨name, red, green, blue, ⟨⟩⟩ := values
      simp_all [Form.command, Command.operations, Operation.Finite,
        Operation.numbers, Form.slots, FiniteValues, Slot.FiniteValue]
  | resize =>
      obtain ⟨name, first, second, ⟨⟩⟩ := values
      simp_all [Form.command, Command.operations, Operation.Finite,
        Operation.numbers, Form.slots, FiniteValues, Slot.FiniteValue]
  | remove =>
      obtain ⟨name, ⟨⟩⟩ := values
      simp [Form.command, Command.operations, Operation.Finite,
        Operation.numbers]

/-- A keyword with its arguments makes a command that brings finite numbers. -/
theorem finite_operations_of_readCommand
    {line word : List Char}
    {arguments : List String}
    {command : Command}
    (accepted : readCommand line word arguments = .ok command) :
    ∀ operation ∈ command.operations, operation.Finite := by
  unfold readCommand at accepted
  split at accepted
  · cases accepted
  · rename_i form _
    obtain ⟨values, filled, rfl⟩ := map_eq_ok_iff.mp accepted
    exact form.finite_operations_command (finiteValues_of_fill filled)
  · cases accepted
    simp [Command.operations, Operation.Finite, Operation.numbers]
  · obtain ⟨target, -, rfl⟩ := map_eq_ok_iff.mp accepted
    cases target <;>
      simp [Command.operations, Operation.Finite, Operation.numbers]

/-- Every command that a line asks for brings finite numbers. -/
theorem finite_operations_of_command?
    {text : String}
    {command : Command}
    (asked : command? text = some command) :
    ∀ operation ∈ command.operations, operation.Finite := by
  obtain ⟨line, word, arguments, accepted⟩ := readCommand_of_command? asked
  exact finite_operations_of_readCommand accepted

/-- All numbers of an album that scripts reach are finite. -/
theorem Reached.finite
    {clock : Clock}
    {album : Album}
    (reached : Reached clock album) :
    album.Finite := by
  refine reached.invariant Album.Finite ?_ ?_
  · exact ⟨by simp [Album.empty], by simp [Album.empty]⟩
  · intro before text command asked finite
    rw [execute_after_eq_performAll]
    exact finite.performAll clock (finite_operations_of_command? asked)

end Script

/--
After any operations with any doubles, the taken names are exactly those of the
listed shapes, no two shapes share a name, no name is blank, every size is
positive and thus a number, and every channel lies in its range; so the name
check of a creation, a removal and both kinds of looking up agree on which names
there are.  In every album that scripts reach all numbers are finite.
-/
theorem sceneValid_and_scriptNumbersFinite (clock : Clock) :
    (∀ operations : List Operation,
      let scene := (Album.empty.performAll clock operations).after.scene
      (∀ name, name ∈ scene.names ↔ name ∈ scene.shapes.map (·.name)) ∧
        (scene.shapes.map (·.name)).Nodup ∧
        (∀ shape ∈ scene.shapes,
          Text.trimChars shape.name.toList ≠ [] ∧
            (0 < shape.extent.sizes.1 ∧ 0 < shape.extent.sizes.2) ∧
            (shape.extent.sizes.1.isNaN = false ∧
              shape.extent.sizes.2.isNaN = false) ∧
            (0 ≤ shape.color.red ∧ shape.color.red ≤ 255) ∧
            (0 ≤ shape.color.green ∧ shape.color.green ≤ 255) ∧
            (0 ≤ shape.color.blue ∧ shape.color.blue ≤ 255)) ∧
        ∀ name,
          (∀ kind position first second color,
            (scene.create kind name position first second color).answer =
                .error (.nameTaken name) ↔
              ∃ shape ∈ scene.shapes, shape.name = name) ∧
          ((scene.remove name).answer = true ↔
            ∃ shape ∈ scene.shapes, shape.name = name) ∧
          ((scene.get? name).isSome = true ↔
            ∃ shape ∈ scene.shapes, shape.name = name) ∧
          ((∃ shape, scene.require name = .ok shape) ↔
            ∃ shape ∈ scene.shapes, shape.name = name)) ∧
      ∀ album,
        Script.Reached clock album →
        (∀ shape ∈ album.scene.shapes,
          ∀ number ∈ shape.numbers, number.isFinite = true) ∧
        ∀ snapshot ∈ album.archive.snapshots,
          ∀ shape ∈ snapshot.shapes,
            ∀ number ∈ shape.numbers, number.isFinite = true := by
  constructor
  · intro operations scene
    have valid : scene.Valid :=
      Album.valid_scene_performAll Scene.valid_empty clock operations
    refine ⟨valid.mem_names_iff, valid.names_nodup, ?_, ?_⟩
    · intro shape member
      have shapeValid := valid.shapes_valid shape member
      have firstPositive := shapeValid.sizesPositive.1
      have secondPositive := shapeValid.sizesPositive.2
      refine ⟨?_, ⟨firstPositive, secondPositive⟩,
        ⟨Number.isNaN_eq_false_of_lt firstPositive,
          Number.isNaN_eq_false_of_lt secondPositive⟩,
        shapeValid.colorValid.red, shapeValid.colorValid.green,
        shapeValid.colorValid.blue⟩
      simpa [Shape.isBlankName] using shapeValid.named
    · intro name
      refine ⟨fun kind position first second color => ?_, ?_,
        scene.isSome_get?_iff name, ?_⟩
      · rw [scene.create_answer_eq_nameTaken_iff, valid.mem_names_iff_exists]
      · rw [scene.remove_answer_iff, valid.mem_names_iff_exists]
      · simp only [scene.require_eq_ok_iff]
        rw [← Option.isSome_iff_exists, scene.isSome_get?_iff]
  · intro album reached
    exact ⟨reached.finite.live, reached.finite.recorded⟩

/--
A script that draws and records one oval leaves finite numbers in both places.
-/
theorem numbersFinite_of_recorded_oval :
    let clock : Clock := fun _ => ⟨2024, 2, 29, 12, 0, 0, 0⟩
    let source := "shape Dot oval 1 2 3 4 5 6 7\nsnapshot first"
    let album := (Script.run clock .empty source).after
    (album.scene.shapes.length = 1 ∧ album.archive.snapshots.size = 1) ∧
      (∀ shape ∈ album.scene.shapes,
        ∀ number ∈ shape.numbers, number.isFinite = true) ∧
      ∀ snapshot ∈ album.archive.snapshots,
        ∀ shape ∈ snapshot.shapes,
          ∀ number ∈ shape.numbers, number.isFinite = true := by
  intro clock source album
  have reached : Script.Reached clock album := Script.Reached.fresh.run source
  refine ⟨?_, (sceneValid_and_scriptNumbersFinite clock).2 album reached⟩
  decide +kernel

end Storyboard
