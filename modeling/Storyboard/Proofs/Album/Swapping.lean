import Storyboard.Album.Operation
import Storyboard.Proofs.Scene.Swapping

namespace Storyboard

/-!
# Independent operations

An operation at a name creates, changes or removes the shape of that name.  Two
of them are independent if they are at different names and do not both create,
or if they change different aspects of a shape.  Independent operations can be
swapped in every album, whether they succeed, are refused or find no shape.
-/

namespace Operation

/-- The name at which an operation creates, changes or removes a shape. -/
def editedName? : Operation → Option String
  | .create _ name _ _ _ _ _ _ | .move name _ | .recolor name _ _ _
  | .resize name _ _ | .resizeAs _ name _ _ | .remove name => some name
  | _ => none

/-- The aspect of a shape that an operation changes. -/
def aspect? : Operation → Option Shape.Aspect
  | .move _ _ => some .position
  | .recolor _ _ _ _ => some .color
  | .resize _ _ _ | .resizeAs _ _ _ _ => some .extent
  | _ => none

/-- Whether an operation creates a shape. -/
def creates : Operation → Bool
  | .create _ _ _ _ _ _ _ _ => true
  | _ => false

/-- Two operations are at different names, or they change different aspects. -/
inductive Independent (first second : Operation) : Prop where
  | names
      {firstName secondName : String}
      (isFirst : first.editedName? = some firstName)
      (isSecond : second.editedName? = some secondName)
      (differ : firstName ≠ secondName)
      (notBoth : ¬(first.creates = true ∧ second.creates = true))
  | aspects
      {firstAspect secondAspect : Shape.Aspect}
      (isFirst : first.aspect? = some firstAspect)
      (isSecond : second.aspect? = some secondAspect)
      (differ : firstAspect ≠ secondAspect)

theorem exists_editedName_of_aspect?
    {operation : Operation}
    {aspect : Shape.Aspect}
    (isAspect : operation.aspect? = some aspect) :
    ∃ name, operation.editedName? = some name := by
  cases operation with
  | create _ name | move name | recolor name | resize name
  | resizeAs _ name | remove name =>
      exact ⟨name, rfl⟩
  | clearShapes | look | require | describe | snapshot | snapshotOf | issueIds
  | append | clearSnapshots =>
      cases isAspect

end Operation

namespace Album

/-- The ways in which an operation at a name acts on an album. -/
inductive EditsAt (name : String) :
    (aspect? : Option Shape.Aspect) → (creates : Bool) →
      (Album → Change Album Answer) → Prop where
  | change
      {aspect : Shape.Aspect}
      {change : Shape → Change Shape (Except Refusal Unit)}
      (replaces : Shape.Replaces aspect change) :
      EditsAt name (some aspect) false fun album =>
        album.inScene (album.scene.change name change) (.ofResult .found)
  | remove :
      EditsAt name none false fun album =>
        album.inScene (album.scene.remove name) .found
  | create
      (kind : Kind)
      (position : Point)
      (first second : Float)
      (color : Color) :
      EditsAt name none true fun album =>
        album.inScene
          (album.scene.create kind name position first second color)
          (.ofResult fun shape => .shape (some shape))
  | refuse
      (refusal : Refusal) :
      EditsAt name none true fun album => ⟨.refused refusal, album⟩

/-- An operation at a name acts in one of these ways. -/
theorem editsAt_perform
    (clock : Clock)
    {operation : Operation}
    {name : String}
    (isName : operation.editedName? = some name) :
    EditsAt name operation.aspect? operation.creates
      (·.perform clock operation) := by
  cases operation with
  | create kind created position first second red green blue =>
      cases isName
      cases made : Color.ofChannels red green blue with
      | error refusal =>
          simp only [perform, made]
          exact .refuse refusal
      | ok color =>
          simp only [perform, made]
          exact .create kind position first second color
  | move moved position =>
      cases isName
      exact .change (Shape.replaces_moveTo position)
  | recolor recolored red green blue =>
      cases isName
      exact .change (Shape.replaces_recolor red green blue)
  | resize resized first second =>
      cases isName
      exact .change (Shape.replaces_resize first second)
  | resizeAs kind resized first second =>
      cases isName
      exact .change (Shape.replaces_resizeAs kind first second)
  | remove removed =>
      cases isName
      exact .remove
  | clearShapes | look | require | describe | snapshot | snapshotOf | issueIds
  | append | clearSnapshots =>
      cases isName

/-- What can be swapped in the scene can be swapped in the album. -/
theorem swappable_inScene
    {FirstAnswer SecondAnswer : Type}
    {album : Album}
    {first : Scene → Change Scene FirstAnswer}
    {second : Scene → Change Scene SecondAnswer}
    (swappable : Swappable album.scene first second)
    (answer : FirstAnswer → Answer)
    (otherAnswer : SecondAnswer → Answer) :
    Swappable album
      (fun album => album.inScene (first album.scene) answer)
      (fun album => album.inScene (second album.scene) otherAnswer) where
  after := by
    simp only [inScene, swappable.after]
  answer := congrArg answer swappable.answer
  otherAnswer := congrArg otherAnswer swappable.otherAnswer

section

variable
  {name other : String}
  {aspect? otherAspect? : Option Shape.Aspect}
  {creates otherCreates : Bool}
  {edit otherEdit : Album → Change Album Answer}
  (album : Album)

/-- Operations at different names can be swapped unless both create. -/
theorem EditsAt.swappable_of_ne
    (edits : EditsAt name aspect? creates edit)
    (otherEdits : EditsAt other otherAspect? otherCreates otherEdit)
    (differ : name ≠ other)
    (notBoth : ¬(creates = true ∧ otherCreates = true)) :
    Swappable album edit otherEdit := by
  cases edits with
  | change replaces =>
      cases otherEdits with
      | change otherReplaces =>
          exact swappable_inScene
            (album.scene.swappable_change
              (Scene.swappable_changeFirst_of_ne replaces.name_after
                otherReplaces.name_after differ album.scene.shapes)) _ _
      | remove =>
          exact swappable_inScene
            (album.scene.swappable_change_remove differ replaces.name_after) _ _
      | create kind position first second color =>
          exact swappable_inScene
            (album.scene.swappable_change_create differ kind position first
              second color) _ _
      | refuse refusal =>
          exact .fixed _
  | remove =>
      cases otherEdits with
      | change otherReplaces =>
          exact (swappable_inScene
            (album.scene.swappable_change_remove differ.symm
              otherReplaces.name_after) _ _).symm
      | remove =>
          exact swappable_inScene
            (album.scene.swappable_remove_remove differ) _ _
      | create kind position first second color =>
          exact (swappable_inScene
            (album.scene.swappable_create_remove differ.symm kind position first
              second color) _ _).symm
      | refuse refusal =>
          exact .fixed _
  | create kind position first second color =>
      cases otherEdits with
      | change otherReplaces =>
          exact (swappable_inScene
            (album.scene.swappable_change_create differ.symm kind position first
              second color) _ _).symm
      | remove =>
          exact swappable_inScene
            (album.scene.swappable_create_remove differ kind position first
              second color) _ _
      | create | refuse =>
          exact absurd ⟨rfl, rfl⟩ notBoth
  | refuse refusal =>
      exact .symm (.fixed _)

/--
Operations that change different aspects can be swapped at every two names.
-/
theorem EditsAt.swappable_of_aspect_ne
    {aspect otherAspect : Shape.Aspect}
    (edits : EditsAt name (some aspect) creates edit)
    (otherEdits : EditsAt other (some otherAspect) otherCreates otherEdit)
    (differ : aspect ≠ otherAspect) :
    Swappable album edit otherEdit := by
  by_cases sameName : name = other
  · subst sameName
    cases edits with
    | change replaces =>
        cases otherEdits with
        | change otherReplaces =>
            exact swappable_inScene
              (album.scene.swappable_change
                (Scene.swappable_changeFirst replaces.name_after
                  otherReplaces.name_after
                  (replaces.swappable otherReplaces differ)
                  album.scene.shapes)) _ _
  · refine edits.swappable_of_ne album otherEdits sameName ?_
    cases edits
    simp

end

/--
Independent operations can be carried out in either order: the scene that they
leave has the same list of shapes in the same order and the same names, and each
of them is answered the same in both orders.
-/
theorem perform_swap_of_independent
    (clock : Clock)
    (album : Album)
    {first second : Operation}
    (independent : first.Independent second) :
    let firstDone := album.perform clock first
    let secondDone := album.perform clock second
    let secondLast := firstDone.after.perform clock second
    let firstLast := secondDone.after.perform clock first
    secondLast.after = firstLast.after ∧
      firstLast.answer = firstDone.answer ∧
      secondLast.answer = secondDone.answer := by
  have swappable :
      Swappable album (·.perform clock first) (·.perform clock second) := by
    cases independent with
    | names isFirst isSecond differ notBoth =>
        exact (editsAt_perform clock isFirst).swappable_of_ne album
          (editsAt_perform clock isSecond) differ notBoth
    | aspects isFirst isSecond differ =>
        obtain ⟨name, isName⟩ := Operation.exists_editedName_of_aspect? isFirst
        obtain ⟨other, isOther⟩ :=
          Operation.exists_editedName_of_aspect? isSecond
        have edits := editsAt_perform clock isName
        have otherEdits := editsAt_perform clock isOther
        rw [isFirst] at edits
        rw [isSecond] at otherEdits
        exact edits.swappable_of_aspect_ne album otherEdits differ
  exact ⟨swappable.after, swappable.answer, swappable.otherAnswer⟩

/--
A resizing that is refused for the kind, and a recoloring of the same shape.
-/
theorem perform_swap_of_refused_resizing :
    let clock : Clock := fun _ => ⟨2024, 2, 29, 12, 0, 0, 0⟩
    let album :=
      (empty.perform clock (.create .oval "Dot" ⟨1, 2⟩ 3 4 5 6 7)).after
    let resize : Operation := .resizeAs .rectangle "Dot" 8 8
    let recolor : Operation := .recolor "Dot" 9 9 9
    let resized := album.perform clock resize
    let recolored := album.perform clock recolor
    resize.Independent recolor ∧
      resized.answer = .refused (.kindMismatch .oval "Dot" .rectangle) ∧
      (resized.after.perform clock recolor).after =
        (recolored.after.perform clock resize).after ∧
      (recolored.after.perform clock resize).answer = resized.answer ∧
      (resized.after.perform clock recolor).answer = recolored.answer := by
  intro clock album resize recolor resized recolored
  have independent : resize.Independent recolor :=
    .aspects rfl rfl (by decide)
  have refused :
      resized.answer = .refused (.kindMismatch .oval "Dot" .rectangle) := by
    decide +kernel
  exact ⟨independent, refused,
    perform_swap_of_independent clock album independent⟩

end Album

end Storyboard
