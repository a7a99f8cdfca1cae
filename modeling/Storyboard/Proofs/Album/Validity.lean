import Storyboard.Album.Operation
import Storyboard.Proofs.Scene.Validity
import Storyboard.Proofs.Snapshot.Alignment

namespace Storyboard

/-!
# Valid and finite albums

Every operation on an album keeps its scene valid, whatever doubles it is given.
If the doubles are finite, it also keeps all numbers of the album finite, those
of the live shapes and those of the recorded ones.
-/

namespace Shape

/-- All numbers of a shape. -/
def numbers (shape : Shape) : List Float :=
  [shape.position.x, shape.position.y,
    shape.extent.sizes.1, shape.extent.sizes.2,
    shape.color.red, shape.color.green, shape.color.blue]

/-- Every number of a shape is finite. -/
def Finite (shape : Shape) : Prop :=
  ∀ number ∈ shape.numbers, number.isFinite = true

/-- A shape is finite exactly if its position, its sizes and its color are. -/
theorem finite_iff (shape : Shape) :
    shape.Finite ↔
      (shape.position.x.isFinite = true ∧ shape.position.y.isFinite = true) ∧
        (shape.extent.sizes.1.isFinite = true ∧
          shape.extent.sizes.2.isFinite = true) ∧
        shape.color.red.isFinite = true ∧
        shape.color.green.isFinite = true ∧
        shape.color.blue.isFinite = true := by
  simp [Finite, numbers, and_assoc]

namespace Finite

variable {shape : Shape}

/-- A finite shape stays finite when it is moved to a finite position. -/
theorem moveTo
    (finite : shape.Finite)
    {position : Point}
    (xFinite : position.x.isFinite = true)
    (yFinite : position.y.isFinite = true) :
    (shape.moveTo position).Finite := by
  rw [finite_iff] at finite ⊢
  exact ⟨⟨xFinite, yFinite⟩, finite.2⟩

/-- A finite shape stays finite when it is given finite channels. -/
theorem recolor
    (finite : shape.Finite)
    {red green blue : Float}
    (redFinite : red.isFinite = true)
    (greenFinite : green.isFinite = true)
    (blueFinite : blue.isFinite = true) :
    (shape.recolor red green blue).after.Finite := by
  unfold Shape.recolor Color.set
  cases made : Color.ofChannels red green blue with
  | ok color =>
      have sameColor := (Color.ofChannels_eq_ok_iff.mp made).1
      rw [finite_iff] at finite ⊢
      refine ⟨finite.1, finite.2.1, ?_⟩
      rw [sameColor]
      exact ⟨redFinite, greenFinite, blueFinite⟩
  | error refusal =>
      exact finite

/-- A finite shape stays finite when it is given finite sizes. -/
theorem resize
    (finite : shape.Finite)
    {first second : Float}
    (firstFinite : first.isFinite = true)
    (secondFinite : second.isFinite = true) :
    (shape.resize first second).after.Finite := by
  obtain ⟨-, -, extent, -, hasSizes, resized⟩ | ⟨refusal, refused⟩ :=
    shape.resize_cases first second
  · rw [resized]
    rw [finite_iff] at finite ⊢
    refine ⟨finite.1, ?_, finite.2.2⟩
    rw [hasSizes]
    exact ⟨firstFinite, secondFinite⟩
  · rw [refused]
    exact finite

/-- The same holds of sizes that are meant for one kind. -/
theorem resizeAs
    (finite : shape.Finite)
    (kind : Kind)
    {first second : Float}
    (firstFinite : first.isFinite = true)
    (secondFinite : second.isFinite = true) :
    (shape.resizeAs kind first second).after.Finite := by
  unfold Shape.resizeAs
  split
  · exact finite.resize firstFinite secondFinite
  · exact finite

end Finite

end Shape

namespace Operation

/-- The numbers that an operation brings into an album. -/
def numbers : Operation → List Float
  | .create _ _ position first second red green blue =>
      [position.x, position.y, first, second, red, green, blue]
  | .move _ position => [position.x, position.y]
  | .recolor _ red green blue => [red, green, blue]
  | .resize _ first second => [first, second]
  | .resizeAs _ _ first second => [first, second]
  | .append copied => copied.shapes.flatMap Shape.numbers
  | _ => []

/-- An operation brings finite numbers only. -/
def Finite (operation : Operation) : Prop :=
  ∀ number ∈ operation.numbers, number.isFinite = true

end Operation

namespace Album

/-- Every number of every live or recorded shape is finite. -/
structure Finite (album : Album) : Prop where
  live : ∀ shape ∈ album.scene.shapes, shape.Finite
  recorded :
    ∀ snapshot ∈ album.archive.snapshots,
      ∀ shape ∈ snapshot.shapes, shape.Finite

variable {album : Album}

/-- Every operation keeps the scene valid. -/
theorem valid_scene_perform
    (valid : album.scene.Valid)
    (clock : Clock)
    (operation : Operation) :
    (album.perform clock operation).after.scene.Valid := by
  cases operation with
  | create kind name position first second red green blue =>
      cases made : Color.ofChannels red green blue with
      | error refusal =>
          simpa [perform, made] using valid
      | ok color =>
          have colorValid := (Color.ofChannels_eq_ok_iff.mp made).2
          simpa [perform, made, inScene] using
            valid.create kind name position first second colorValid
  | move name position =>
      exact valid.change name (Shape.keeps_moveTo position)
  | recolor name red green blue =>
      exact valid.change name (Shape.keeps_recolor red green blue)
  | resize name first second =>
      exact valid.change name (Shape.keeps_resize first second)
  | resizeAs kind name first second =>
      exact valid.change name (Shape.keeps_resizeAs kind first second)
  | remove name =>
      exact valid.remove name
  | clearShapes =>
      exact Scene.valid_empty
  | look | require | describe | snapshot | snapshotOf | issueIds | append
  | clearSnapshots =>
      exact valid

/-- Any row of operations keeps the scene valid. -/
theorem valid_scene_performAll
    (valid : album.scene.Valid)
    (clock : Clock)
    (operations : List Operation) :
    (album.performAll clock operations).after.scene.Valid := by
  induction operations generalizing album with
  | nil =>
      exact valid
  | cons first rest inductionHypothesis =>
      exact inductionHypothesis (valid_scene_perform valid clock first)

/-- Issuing ids uses up their numbers and leaves everything else alone. -/
theorem issueIds_after
    (clock : Clock)
    (count : Nat)
    (last : Option Archive.Issued)
    (archive : Archive) :
    (issueIds clock count last archive).after = archive.skip count := by
  induction count generalizing last archive with
  | zero =>
      rfl
  | succ count inductionHypothesis =>
      rw [issueIds, inductionHypothesis, Archive.issue_eq, Archive.skip_skip,
        Nat.add_comm]

namespace Finite

/--
A change of the scene that keeps its shapes finite keeps the album finite.
-/
theorem inScene
    (finite : album.Finite)
    {scene : Scene}
    (live : ∀ shape ∈ scene.shapes, shape.Finite) :
    Album.Finite { album with scene } :=
  ⟨live, finite.recorded⟩

/-- Recording finite shapes keeps an album finite. -/
theorem capture
    (finite : album.Finite)
    (clock : Clock)
    (description : String)
    {shapes : List Shape}
    (shapesFinite : ∀ shape ∈ shapes, shape.Finite) :
    Album.Finite
      { album with
        archive :=
          (album.archive.capture clock description shapes).after } := by
  obtain ⟨timestamp, snapshotsAfter⟩ :=
    album.archive.capture_after_snapshots clock description shapes
  refine ⟨finite.live, fun snapshot member => ?_⟩
  rw [snapshotsAfter, Array.mem_push] at member
  rcases member with before | rfl
  · exact finite.recorded snapshot before
  · exact shapesFinite

/-- An operation with finite numbers keeps an album finite. -/
theorem perform
    (finite : album.Finite)
    (clock : Clock)
    {operation : Operation}
    (operationFinite : operation.Finite) :
    (album.perform clock operation).after.Finite := by
  cases operation with
  | create kind name position first second red green blue =>
      cases made : Color.ofChannels red green blue with
      | error refusal =>
          simpa [Album.perform, made] using finite
      | ok color =>
          have sameColor := (Color.ofChannels_eq_ok_iff.mp made).1
          simp only [Album.perform, made, Album.inScene]
          apply finite.inScene
          refine Scene.forall_mem_create_after finite.live
            fun shape created number member => ?_
          obtain ⟨-, -, -, -, samePosition, isColor, -, hasSizes⟩ :=
            Shape.create_eq_ok_iff.mp created
          apply operationFinite number
          simpa [Operation.numbers, Shape.numbers, samePosition, isColor,
            hasSizes, sameColor] using member
  | move name position =>
      apply finite.inScene
      refine Scene.forall_mem_changeFirst_after
        (fun shape held => ?_) finite.live
      exact held.moveTo
        (operationFinite position.x (by simp [Operation.numbers]))
        (operationFinite position.y (by simp [Operation.numbers]))
  | recolor name red green blue =>
      apply finite.inScene
      refine Scene.forall_mem_changeFirst_after
        (fun shape held => ?_) finite.live
      exact held.recolor
        (operationFinite red (by simp [Operation.numbers]))
        (operationFinite green (by simp [Operation.numbers]))
        (operationFinite blue (by simp [Operation.numbers]))
  | resize name first second =>
      apply finite.inScene
      refine Scene.forall_mem_changeFirst_after
        (fun shape held => ?_) finite.live
      exact held.resize
        (operationFinite first (by simp [Operation.numbers]))
        (operationFinite second (by simp [Operation.numbers]))
  | resizeAs kind name first second =>
      apply finite.inScene
      refine Scene.forall_mem_changeFirst_after
        (fun shape held => ?_) finite.live
      exact held.resizeAs kind
        (operationFinite first (by simp [Operation.numbers]))
        (operationFinite second (by simp [Operation.numbers]))
  | remove name =>
      exact finite.inScene (Scene.forall_mem_remove_after finite.live name)
  | clearShapes =>
      exact finite.inScene (by simp [Scene.empty])
  | look | require | describe =>
      exact finite
  | snapshot description =>
      exact finite.capture clock description finite.live
  | snapshotOf description names =>
      apply finite.capture clock description
      intro shape member
      obtain ⟨name, -, found⟩ := List.mem_filterMap.mp member
      exact finite.live shape (List.mem_of_find?_eq_some found)
  | issueIds count =>
      refine ⟨finite.live, ?_⟩
      rw [Album.perform, Album.inArchive, issueIds_after]
      exact finite.recorded
  | append snapshot =>
      have snapshotFinite : ∀ shape ∈ snapshot.shapes, shape.Finite := by
        intro shape member number isNumber
        exact operationFinite number
          (List.mem_flatMap.mpr ⟨shape, member, isNumber⟩)
      refine ⟨finite.live, fun other member => ?_⟩
      simp only [Album.perform, Album.inArchive, Archive.append] at member
      split at member
      · exact finite.recorded other member
      · rcases Array.mem_push.mp member with before | rfl
        · exact finite.recorded other before
        · exact snapshotFinite
  | clearSnapshots =>
      exact ⟨finite.live, by simp [Album.perform, Archive.clear]⟩

/-- Any row of operations with finite numbers keeps an album finite. -/
theorem performAll
    (finite : album.Finite)
    (clock : Clock)
    {operations : List Operation}
    (operationsFinite : ∀ operation ∈ operations, operation.Finite) :
    (album.performAll clock operations).after.Finite := by
  induction operations generalizing album with
  | nil =>
      exact finite
  | cons first rest inductionHypothesis =>
      rw [List.forall_mem_cons] at operationsFinite
      exact inductionHypothesis
        (finite.perform clock operationsFinite.1) operationsFinite.2

end Finite

end Album

end Storyboard
