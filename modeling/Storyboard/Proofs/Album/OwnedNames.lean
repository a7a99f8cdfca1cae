import Storyboard.Proofs.Album.Gallery
import Storyboard.Proofs.Scene.Part

namespace Storyboard

/-!
# Operations at owned names

An operation at a name depends on no more of the scene than the part under the
names of its owner, and leaves the part under all other names as it is.
Captures may be made by anyone.  They change no scene, and each puts one
snapshot at the end of the archive, under the id that it answers.
-/

/-- Whether an operation is a capture or addresses a shape by an owned name. -/
def Operation.keepsTo (owns : String → Bool) : Operation → Bool
  | .create _ name _ _ _ _ _ _ | .move name _ | .recolor name _ _ _
  | .resize name _ _ | .resizeAs _ name _ _ | .remove name
  | .look name | .require name | .describe name => owns name
  | .snapshot _ | .snapshotOf _ _ => true
  | .clearShapes | .issueIds _ | .append _ | .clearSnapshots => false

namespace Answer

/-- The id that a capture answers. -/
def capturedId? : Answer → Option SnapshotId
  | .captured id => some id
  | _ => none

/--
Whether a result or a refusal is answered, no capture is if the result is none.
-/
theorem toList_capturedId?_ofResult
    {α : Type}
    {encode : α → Answer}
    (noCapture : ∀ value, (encode value).capturedId? = none)
    (result : Except Refusal α) :
    (ofResult encode result).capturedId?.toList = [] := by
  cases result with
  | ok value =>
      rw [ofResult, noCapture, Option.toList_none]
  | error refusal =>
      rfl

/-- What an operation at a name answers; a capture leaves a gap. -/
def besideCaptures : Answer → Option Answer
  | .captured _ => none
  | answer => some answer

end Answer

namespace Archive

/-- Whether a call records a snapshot. -/
def Call.isCapture : Call → Bool
  | .capture _ _ => true
  | .issue | .append _ | .clear => false

/-- The call that records what a snapshot shows. -/
def Call.ofSnapshot (snapshot : Snapshot) : Call :=
  .capture snapshot.description snapshot.shapes

/--
Captures put one snapshot each at the end, in their order, with what was to be
recorded and under the id that was handed out.
-/
theorem snapshots_performAll
    (clock : Clock)
    (archive : Archive)
    {calls : List Call}
    (captures : ∀ call ∈ calls, call.isCapture = true) :
    ∃ added,
      (archive.performAll clock calls).after.snapshots.toList =
          archive.snapshots.toList ++ added ∧
        added.map Call.ofSnapshot = calls ∧
        added.map (·.id) = archive.handedOut clock calls := by
  induction calls generalizing archive with
  | nil =>
      exact ⟨[], (List.append_nil _).symm, rfl, rfl⟩
  | cons call rest inductionHypothesis =>
      rw [List.forall_mem_cons] at captures
      obtain ⟨isCapture, restCaptures⟩ := captures
      cases call with
      | issue | append | clear =>
          cases isCapture
      | capture description shapes =>
          let captured := archive.capture clock description shapes
          obtain ⟨timestamp, atEnd⟩ :=
            archive.capture_after_snapshots clock description shapes
          obtain ⟨added, later, sameCalls, sameIds⟩ :=
            inductionHypothesis captured.after restCaptures
          let snapshot : Snapshot :=
            ⟨captured.answer, timestamp, description, shapes⟩
          refine ⟨snapshot :: added, ?_, ?_, ?_⟩
          · calc
              (captured.after.performAll clock rest).after.snapshots.toList =
                  captured.after.snapshots.toList ++ added := later
              _ = archive.snapshots.toList ++ snapshot :: added := by
                simp [captured, snapshot, atEnd]
          · rw [List.map_cons, sameCalls]
            rfl
          · rw [List.map_cons, sameIds, handedOut, handedOut,
              filterMap_answer_cons]
            rfl

end Archive

/--
An operation that keeps to owned names makes no calls on an archive but
captures.
-/
theorem Operation.isCapture_of_mem_calls
    {owns : String → Bool}
    {operation : Operation}
    (keeps : operation.keepsTo owns = true)
    (scene : Scene) :
    ∀ call ∈ operation.calls scene, call.isCapture = true := by
  cases operation with
  | clearShapes | issueIds | append | clearSnapshots =>
      cases keeps
  | create | move | recolor | resize | resizeAs | remove | look | require
  | describe | snapshot | snapshotOf =>
      simp [calls, Archive.Call.isCapture]

namespace Album

/-- The calls that operations make on the archive of an album, in order. -/
def calls (clock : Clock) (album : Album) : List Operation → List Archive.Call
  | [] => []
  | operation :: rest =>
      operation.calls album.scene ++
        calls clock (album.perform clock operation).after rest

section Parts

variable {owns : String → Bool}

/--
Two changes answer alike beside captures and leave the same part of the scene.
-/
structure AlikeTo
    (owns : String → Bool)
    (first second : Change Album Answer) : Prop where
  answer : first.answer.besideCaptures = second.answer.besideCaptures
  part : first.after.scene.part owns = second.after.scene.part owns

variable
  {first second : Album}
  (samePart : first.scene.part owns = second.scene.part owns)
include samePart

/--
A change that can be made on the part alone is alike wherever the part is the
same.
-/
theorem alikeTo_inScene
    {α : Type}
    (change : Scene → Change Scene α)
    (ofPart : ∀ scene, change (scene.part owns) = (change scene).onPart owns)
    (answer : α → Answer) :
    AlikeTo owns
      (first.inScene (change first.scene) answer)
      (second.inScene (change second.scene) answer) := by
  have sameOnPart :
      (change first.scene).onPart owns = (change second.scene).onPart owns := by
    rw [← ofPart, ← ofPart, samePart]
  rw [Change.onPart, Change.onPart, Change.mk.injEq] at sameOnPart
  obtain ⟨sameAnswer, sameAfter⟩ := sameOnPart
  exact ⟨by rw [inScene, inScene, sameAnswer], sameAfter⟩

/--
An operation that keeps to owned names is alike wherever their part is the same.
Captures may answer different ids, which leave the same gap.
-/
theorem alikeTo_perform
    (clock otherClock : Clock)
    {operation : Operation}
    (keeps : operation.keepsTo owns = true) :
    AlikeTo owns
      (first.perform clock operation)
      (second.perform otherClock operation) := by
  have sameShape
      {name : String}
      (owned : owns name = true) :
      first.scene.get? name = second.scene.get? name := by
    rw [← Scene.get?_part owned, samePart, Scene.get?_part owned]
  cases operation with
  | create kind name position firstSize secondSize red green blue =>
      simp only [perform]
      cases Color.ofChannels red green blue with
      | error refusal =>
          exact ⟨rfl, samePart⟩
      | ok color =>
          exact alikeTo_inScene samePart
            (·.create kind name position firstSize secondSize color)
            (fun scene =>
              scene.create_part keeps kind position firstSize
                secondSize color) _
  | move name position =>
      exact alikeTo_inScene samePart (·.move name position)
        (Scene.change_part (Shape.keeps_moveTo position).name keeps) _
  | recolor name red green blue =>
      exact alikeTo_inScene samePart (·.recolor name red green blue)
        (Scene.change_part (Shape.keeps_recolor red green blue).name keeps) _
  | resize name firstSize secondSize =>
      exact alikeTo_inScene samePart (·.resize name firstSize secondSize)
        (Scene.change_part (Shape.keeps_resize firstSize secondSize).name keeps)
          _
  | resizeAs kind name firstSize secondSize =>
      exact alikeTo_inScene samePart (·.resizeAs kind name firstSize secondSize)
        (Scene.change_part
          (Shape.keeps_resizeAs kind firstSize secondSize).name keeps) _
  | remove name =>
      exact alikeTo_inScene samePart (·.remove name) (Scene.remove_part keeps) _
  | look name | describe name =>
      exact ⟨by rw [perform, perform, sameShape keeps], samePart⟩
  | require name =>
      have sameRequired :
          first.scene.require name = second.scene.require name := by
        rw [← Scene.require_part keeps, samePart, Scene.require_part keeps]
      exact ⟨by rw [perform, perform, sameRequired], samePart⟩
  | snapshot | snapshotOf =>
      exact ⟨by simp only [perform, Answer.besideCaptures], samePart⟩
  | clearShapes | issueIds | append | clearSnapshots =>
      cases keeps

theorem alike_performAll
    (clock otherClock : Clock)
    {operations : List Operation}
    (keep : ∀ operation ∈ operations, operation.keepsTo owns = true) :
    (first.performAll clock operations).answer.map Answer.besideCaptures =
        (second.performAll otherClock operations).answer.map
          Answer.besideCaptures ∧
      (first.performAll clock operations).after.scene.part owns =
        (second.performAll otherClock operations).after.scene.part owns := by
  induction operations generalizing first second with
  | nil =>
      exact ⟨rfl, samePart⟩
  | cons operation rest inductionHypothesis =>
      rw [List.forall_mem_cons] at keep
      have alike : AlikeTo owns _ _ :=
        alikeTo_perform samePart clock otherClock keep.1
      obtain ⟨sameAnswers, samePartAfter⟩ :=
        inductionHypothesis alike.part keep.2
      refine ⟨?_, samePartAfter⟩
      simp only [performAll, List.map_cons, alike.answer, sameAnswers]

end Parts

section Foreign

variable
  {owns others : String → Bool}
  (disjoint : ∀ name, others name = true → owns name = false)
include disjoint

/--
An operation that keeps to the names of others does not reach an owned part.
-/
theorem part_perform
    (clock : Clock)
    (album : Album)
    {operation : Operation}
    (keeps : operation.keepsTo others = true) :
    (album.perform clock operation).after.scene.part owns =
      album.scene.part owns := by
  cases operation with
  | create kind name position firstSize secondSize red green blue =>
      simp only [perform]
      cases Color.ofChannels red green blue with
      | error refusal =>
          rfl
      | ok color =>
          exact Scene.part_create (disjoint name keeps) ..
  | move name position =>
      exact Scene.part_change (Shape.keeps_moveTo position).name
        (disjoint name keeps) _
  | recolor name red green blue =>
      exact Scene.part_change (Shape.keeps_recolor red green blue).name
        (disjoint name keeps) _
  | resize name firstSize secondSize =>
      exact Scene.part_change (Shape.keeps_resize firstSize secondSize).name
        (disjoint name keeps) _
  | resizeAs kind name firstSize secondSize =>
      exact Scene.part_change
        (Shape.keeps_resizeAs kind firstSize secondSize).name
        (disjoint name keeps) _
  | remove name =>
      exact Scene.part_remove (disjoint name keeps) _
  | look | require | describe | snapshot | snapshotOf =>
      rfl
  | clearShapes | issueIds | append | clearSnapshots =>
      cases keeps

theorem part_performAll
    (clock : Clock)
    (album : Album)
    {operations : List Operation}
    (keep : ∀ operation ∈ operations, operation.keepsTo others = true) :
    (album.performAll clock operations).after.scene.part owns =
      album.scene.part owns := by
  induction operations generalizing album with
  | nil =>
      rfl
  | cons operation rest inductionHypothesis =>
      rw [List.forall_mem_cons] at keep
      calc
        (album.performAll clock (operation :: rest)).after.scene.part owns =
            (album.perform clock operation).after.scene.part owns :=
          inductionHypothesis _ keep.2
        _ = album.scene.part owns :=
          part_perform disjoint clock album keep.1

end Foreign

section Captures

theorem performAll_append
    (clock : Clock)
    (album : Album)
    (former further : List Operation) :
    let afterFormer := album.performAll clock former
    let afterFurther := afterFormer.after.performAll clock further
    album.performAll clock (former ++ further) =
      ⟨afterFormer.answer ++ afterFurther.answer, afterFurther.after⟩ := by
  induction former generalizing album with
  | nil =>
      rfl
  | cons operation rest inductionHypothesis =>
      simp only [List.cons_append, performAll, inductionHypothesis]

/-- Operations reach the archive as the calls that they make on it. -/
theorem archive_performAll
    (clock : Clock)
    (album : Album)
    (operations : List Operation) :
    (album.performAll clock operations).after.archive =
      (album.archive.performAll clock
        (album.calls clock operations)).after := by
  induction operations generalizing album with
  | nil =>
      rfl
  | cons operation rest inductionHypothesis =>
      rw [performAll, calls, Archive.after_performAll_append,
        ← archive_perform, inductionHypothesis]

/--
The id that a capture answers is the one that the archive hands out for it.
-/
theorem capturedId?_perform
    {owns : String → Bool}
    {operation : Operation}
    (keeps : operation.keepsTo owns = true)
    (clock : Clock)
    (album : Album) :
    (album.perform clock operation).answer.capturedId?.toList =
      album.archive.handedOut clock (operation.calls album.scene) := by
  cases operation with
  | create kind name position first second red green blue =>
      simp only [perform]
      cases Color.ofChannels red green blue with
      | error refusal =>
          rfl
      | ok color =>
          exact Answer.toList_capturedId?_ofResult (fun _ => rfl) _
  | move | recolor | resize | resizeAs | require =>
      exact Answer.toList_capturedId?_ofResult (fun _ => rfl) _
  | remove | look | describe | snapshot | snapshotOf =>
      rfl
  | clearShapes | issueIds | append | clearSnapshots =>
      cases keeps

theorem capturedIds_performAll
    (clock : Clock)
    (album : Album)
    {operations : List Operation}
    (keep :
      ∀ operation ∈ operations,
        ∃ owns, operation.keepsTo owns = true) :
    (album.performAll clock operations).answer.filterMap Answer.capturedId? =
      album.archive.handedOut clock (album.calls clock operations) := by
  induction operations generalizing album with
  | nil =>
      rfl
  | cons operation rest inductionHypothesis =>
      rw [List.forall_mem_cons] at keep
      obtain ⟨⟨owns, keeps⟩, keepRest⟩ := keep
      let performed := album.perform clock operation
      calc
        (album.performAll clock (operation :: rest)).answer.filterMap
              Answer.capturedId? =
            performed.answer.capturedId?.toList ++
              (performed.after.performAll clock rest).answer.filterMap
                Answer.capturedId? := by
          rw [performAll, List.filterMap_cons]
          cases (album.perform clock operation).answer.capturedId? <;> rfl
        _ = album.archive.handedOut clock (operation.calls album.scene) ++
              performed.after.archive.handedOut clock
                (performed.after.calls clock rest) := by
          rw [capturedId?_perform keeps, inductionHypothesis _ keepRest]
        _ = album.archive.handedOut clock
              (album.calls clock (operation :: rest)) := by
          simp only [Archive.handedOut, calls]
          rw [Archive.filterMap_answer_append, ← archive_perform]

theorem isCapture_of_mem_calls
    (clock : Clock)
    (album : Album)
    {operations : List Operation}
    (keep :
      ∀ operation ∈ operations,
        ∃ owns, operation.keepsTo owns = true) :
    ∀ call ∈ album.calls clock operations, call.isCapture = true := by
  induction operations generalizing album with
  | nil =>
      nofun
  | cons operation rest inductionHypothesis =>
      rw [List.forall_mem_cons] at keep
      obtain ⟨⟨owns, keeps⟩, keepRest⟩ := keep
      rw [calls, List.forall_mem_append]
      exact ⟨Operation.isCapture_of_mem_calls keeps album.scene,
        inductionHypothesis _ keepRest⟩

end Captures

end Album

end Storyboard
