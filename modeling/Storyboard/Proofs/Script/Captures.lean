import Storyboard.Proofs.Script.Reached
import Storyboard.Proofs.Snapshot.OwnIds

namespace Storyboard.Script

/-!
# The snapshots that a script leaves

Which snapshots a run leaves can be told from the lines alone: one for every
snapshot line behind the last line that clears the archive.  A snapshot line
records the scene that the lines before it make, and the number of snapshot
lines up to it is its sequence number, whether earlier ones are still there or
not.
-/

/-- The description of a command that takes a snapshot. -/
def Command.description? : Command → Option String
  | .snapshot description => some description
  | _ => none

/-- Whether a command clears the archive. -/
def Command.clearsArchive : Command → Bool
  | .clear .snapshots | .clear .all => true
  | _ => false

/-- The description in a line that takes a snapshot. -/
def capturedIn? (text : String) : Option String :=
  (command? text).bind Command.description?

/-- Whether a line clears the archive. -/
def clearsArchive (text : String) : Bool :=
  (command? text).any Command.clearsArchive

/-- How many of some lines take a snapshot. -/
def captureCount (texts : List String) : Nat :=
  texts.countP fun text => (capturedIn? text).isSome

/-- The album that lines make of a fresh one. -/
def albumAfter (clock : Clock) (texts : List String) : Album :=
  (runLines clock .empty 1 texts).after

/--
The snapshot that the line at a position leaves behind.

There is one if the line takes a snapshot and no later line clears the archive.
It holds the scene that the lines before it make, and its id and timestamp come
from the clock reading that has the number of the snapshot line.
-/
def leftBehind? (clock : Clock) (texts : List String) (position : Nat) :
    Option Snapshot :=
  match texts[position]?.bind capturedIn? with
  | none => none
  | some description =>
      if (texts.drop (position + 1)).any clearsArchive then
        none
      else
        let sequence := captureCount (texts.take (position + 1))
        let instant := clock (sequence - 1)
        some
          { id := .issuedAt sequence instant
            timestamp := instant.timestamp
            description
            shapes := (albumAfter clock (texts.take position)).scene.shapes }

/-- A further line carries out its command on the album so far. -/
theorem albumAfter_append
    (clock : Clock)
    (texts : List String)
    (text : String) :
    albumAfter clock (texts ++ [text]) =
      executeOptional clock (albumAfter clock texts) (command? text) := by
  simp [albumAfter, runLines_after]

/-- A command reaches the archive only by a snapshot or by clearing it. -/
theorem archive_executeOptional
    (clock : Clock)
    (album : Album)
    (asked : Option Command) :
    (executeOptional clock album asked).archive =
      match asked.bind Command.description? with
      | some description =>
          (album.archive.capture clock description album.scene.shapes).after
      | none =>
          if asked.any Command.clearsArchive then
            album.archive.clear
          else
            album.archive := by
  cases asked with
  | none =>
      rfl
  | some command =>
      cases command with
      | shape name kind position first second red green blue =>
          cases made : Color.ofChannels red green blue <;>
            simp [executeOptional, execute, made, inScene,
              Command.description?, Command.clearsArchive]
      | clear target =>
          cases target <;> rfl
      | move | color | resize | remove | snapshot =>
          rfl

/--
Every recorded shape of an album that scripts reach is valid, as the scene was
then.
-/
theorem Reached.valid_recorded
    {clock : Clock}
    {album : Album}
    (reached : Reached clock album) :
    ∀ snapshot ∈ album.archive.snapshots, ∀ shape ∈ snapshot.shapes,
      shape.Valid := by
  have held :
      album.scene.Valid ∧
        ∀ snapshot ∈ album.archive.snapshots, ∀ shape ∈ snapshot.shapes,
          shape.Valid := by
    refine reached.invariant
      (fun album =>
        album.scene.Valid ∧
          ∀ snapshot ∈ album.archive.snapshots, ∀ shape ∈ snapshot.shapes,
            shape.Valid)
      ⟨Scene.valid_empty, by simp [Album.empty]⟩ ?_
    intro before text command _ ⟨sceneValid, recorded⟩
    constructor
    · rw [execute_after_eq_performAll]
      exact Album.valid_scene_performAll sceneValid clock command.operations
    · have archiveAfter := archive_executeOptional clock before (some command)
      rw [executeOptional] at archiveAfter
      rw [archiveAfter]
      split
      case _ description _ =>
        obtain ⟨timestamp, snapshotsAfter⟩ :=
          before.archive.capture_after_snapshots clock description
            before.scene.shapes
        intro snapshot member
        rw [snapshotsAfter, Array.mem_push] at member
        rcases member with earlier | rfl
        · exact recorded snapshot earlier
        · exact sceneValid.shapes_valid
      case _ =>
        split
        · simp [Archive.clear]
        · exact recorded
  exact held.2

/--
The archive of every album that scripts reach is aligned and holds no foreign
id.
-/
theorem Reached.archive_own
    {clock : Clock}
    {album : Album}
    (reached : Reached clock album) :
    album.archive.Aligned ∧ album.archive.OwnIds clock := by
  refine reached.invariant
    (fun album => album.archive.Aligned ∧ album.archive.OwnIds clock)
    ⟨Archive.aligned_clear .empty, Archive.ownIds_clear clock .empty⟩ ?_
  intro before text command _ held
  have archiveAfter := archive_executeOptional clock before (some command)
  rw [executeOptional] at archiveAfter
  rw [archiveAfter]
  split
  · exact ⟨held.1.capture clock _ _, held.2.capture held.1 _ _⟩
  · split
    · exact ⟨Archive.aligned_clear _, Archive.ownIds_clear clock _⟩
    · exact held

section

variable
  (clock : Clock)
  (texts : List String)
  (text : String)

/--
A further line leaves an earlier snapshot behind unless it clears the archive.
-/
theorem leftBehind?_append_of_lt
    {position : Nat}
    (earlier : position < texts.length) :
    leftBehind? clock (texts ++ [text]) position =
      if clearsArchive text then
        none
      else
        leftBehind? clock texts position := by
  unfold leftBehind?
  rw [List.getElem?_append_left earlier,
    List.drop_append_of_le_length (by omega),
    List.take_append_of_le_length (by omega),
    List.take_append_of_le_length (by omega),
    List.any_append]
  cases texts[position]?.bind capturedIn? with
  | none =>
      simp
  | some description =>
      cases clears : clearsArchive text <;> simp [clears]

/-- A further line that takes a snapshot leaves that of the album so far. -/
theorem leftBehind?_append_length :
    leftBehind? clock (texts ++ [text]) texts.length =
      (capturedIn? text).map fun description =>
        { id := Archive.clockedId clock (captureCount texts + 1)
          timestamp := (clock (captureCount texts)).timestamp
          description
          shapes := (albumAfter clock texts).scene.shapes } := by
  unfold leftBehind?
  rw [List.getElem?_concat_length, Option.bind_some]
  cases captured : capturedIn? text with
  | none =>
      rfl
  | some description =>
      have counted :
          captureCount ((texts ++ [text]).take (texts.length + 1)) =
            captureCount texts + 1 := by
        rw [List.take_of_length_le (by simp)]
        simp [captureCount, List.countP_append, captured]
      simp [counted, Archive.clockedId]

/-- What a further line does to the row of snapshots that are left. -/
theorem filterMap_leftBehind?_append :
    (List.range (texts ++ [text]).length).filterMap
        (leftBehind? clock (texts ++ [text])) =
      (if clearsArchive text then
        []
      else
        (List.range texts.length).filterMap (leftBehind? clock texts)) ++
      (leftBehind? clock (texts ++ [text]) texts.length).toList := by
  rw [List.length_append, List.length_singleton, List.range_succ,
    List.filterMap_append]
  congr 1
  · have restricted :
        (List.range texts.length).filterMap
            (leftBehind? clock (texts ++ [text])) =
          (List.range texts.length).filterMap fun position =>
            if clearsArchive text then
              none
            else
              leftBehind? clock texts position :=
      List.filterMap_congr fun position inRange =>
        leftBehind?_append_of_lt clock texts text (List.mem_range.mp inRange)
    rw [restricted]
    split
    · simp
    · rfl

end

/-- A line that takes a snapshot does not clear the archive. -/
theorem clearsArchive_eq_false_of_capturedIn?
    {text description : String}
    (captured : capturedIn? text = some description) :
    clearsArchive text = false := by
  obtain ⟨command, asked, described⟩ := Option.bind_eq_some_iff.mp captured
  unfold clearsArchive
  rw [asked]
  cases command with
  | snapshot =>
      rfl
  | shape | move | color | resize | remove | clear =>
      cases described

/-- What a further line does to the archive. -/
theorem archive_albumAfter_append
    (clock : Clock)
    (texts : List String)
    (text : String) :
    (albumAfter clock (texts ++ [text])).archive =
      match capturedIn? text with
      | some description =>
          ((albumAfter clock texts).archive.capture clock description
            (albumAfter clock texts).scene.shapes).after
      | none =>
          if clearsArchive text then
            (albumAfter clock texts).archive.clear
          else
            (albumAfter clock texts).archive := by
  rw [albumAfter_append, archive_executeOptional]
  rfl

/--
Lines leave the snapshots that each of them leaves behind, and the next sequence
number is one more than the number of snapshot lines.
-/
theorem archive_albumAfter (clock : Clock) (texts : List String) :
    (albumAfter clock texts).archive.snapshots.toList =
        (List.range texts.length).filterMap (leftBehind? clock texts) ∧
      (albumAfter clock texts).archive.nextSequence =
        captureCount texts + 1 := by
  induction texts using List.reverseRecOn with
  | nil =>
      exact ⟨rfl, rfl⟩
  | append_singleton texts text inductionHypothesis =>
      obtain ⟨snapshotsBefore, sequenceBefore⟩ := inductionHypothesis
      obtain ⟨aligned, own⟩ :
          (albumAfter clock texts).archive.Aligned ∧
            (albumAfter clock texts).archive.OwnIds clock :=
        (Reached.fresh.runLines 1 texts).archive_own
      rw [archive_albumAfter_append, filterMap_leftBehind?_append,
        leftBehind?_append_length]
      cases captured : capturedIn? text with
      | some description =>
          have counted :
              captureCount (texts ++ [text]) = captureCount texts + 1 := by
            simp [captureCount, captured]
          constructor
          · simp only [own.capture_eq aligned, Archive.push, Archive.skip,
              clearsArchive_eq_false_of_capturedIn? captured,
              snapshotsBefore, sequenceBefore, Array.toList_push]
            rfl
          · simp only [own.capture_eq aligned, Archive.push, Archive.skip,
              counted, sequenceBefore]
      | none =>
          have counted :
              captureCount (texts ++ [text]) = captureCount texts := by
            simp [captureCount, captured]
          rw [counted]
          cases clears : clearsArchive text with
          | true =>
              exact ⟨rfl, sequenceBefore⟩
          | false =>
              simpa using And.intro snapshotsBefore sequenceBefore

/--
After a source has run on a fresh album, the archive holds, in order, exactly
the snapshots that its lines leave behind, each under its own id.
-/
theorem snapshots_run_empty (clock : Clock) (source : String) :
    let archive := (run clock .empty source).after.archive
    archive.snapshots.toList =
        (List.range (Text.lines source).length).filterMap
          (leftBehind? clock (Text.lines source)) ∧
      archive.ids.toList = archive.snapshots.toList.map (·.id) := by
  intro archive
  have reached : Reached clock (run clock .empty source).after :=
    Reached.fresh.run source
  constructor
  · exact (archive_albumAfter clock (Text.lines source)).1
  · have idsBesideSnapshots := reached.archive_own.1.ids_eq
    simp only [archive, idsBesideSnapshots, Array.toList_map]

end Storyboard.Script
