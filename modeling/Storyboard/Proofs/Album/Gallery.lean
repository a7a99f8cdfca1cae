import Storyboard.Proofs.Album.Validity
import Storyboard.Proofs.Snapshot.Growth
import Storyboard.Snapshot.Cursor

namespace Storyboard

/-!
# Albums side by side

A gallery holds any number of albums, each with a clock of its own, and cursors
that look at their archives.  Whatever happens to an album reaches its archive
as a row of calls, and what happens to other albums or to a cursor does not
reach it at all.  An archive that is not cleared therefore only grows: it keeps
all of its snapshots at their places, the copied ones as well as those that it
captured.
-/

/-- A move of a cursor. -/
inductive Cursor.Movement where
  | step (distance : Int)
  | first
  | last
  | jumpTo (text : String)
deriving Repr, DecidableEq

/-- Where a movement over an archive takes a cursor. -/
def Cursor.moved
    (cursor : Cursor)
    (archive : Archive) :
    Cursor.Movement → Cursor
  | .step distance => (cursor.step archive distance).after
  | .first => .first
  | .last => .last archive
  | .jumpTo text => (cursor.jumpTo archive text).after

namespace Operation

/-- The calls that an operation makes on the archive beside a scene. -/
def calls (scene : Scene) : Operation → List Archive.Call
  | .snapshot description => [.capture description scene.shapes]
  | .snapshotOf description names =>
      [.capture description (names.filterMap scene.get?)]
  | .issueIds count => List.replicate count .issue
  | .append copied => [.append copied]
  | .clearSnapshots => [.clear]
  | _ => []

/-- Only the operation that clears the snapshots clears the archive. -/
theorem clear_notMem_calls
    (scene : Scene)
    {operation : Operation}
    (notClear : operation ≠ .clearSnapshots) :
    .clear ∉ operation.calls scene := by
  cases operation with
  | clearSnapshots =>
      exact absurd rfl notClear
  | issueIds count =>
      intro isClear
      cases List.eq_of_mem_replicate isClear
  | create | move | recolor | resize | resizeAs | remove | clearShapes | look
  | require | describe | snapshot | snapshotOf | append =>
      simp [calls]

end Operation

namespace Album

/-- An operation leaves the archive that its calls leave. -/
theorem archive_perform
    (clock : Clock)
    (album : Album)
    (operation : Operation) :
    (album.perform clock operation).after.archive =
      (album.archive.performAll clock
        (operation.calls album.scene)).after := by
  cases operation with
  | create kind name position first second red green blue =>
      cases made : Color.ofChannels red green blue <;>
        simp [perform, made, inScene, Operation.calls, Archive.performAll]
  | issueIds count =>
      rw [perform, inArchive, issueIds_after, Operation.calls,
        Archive.after_performAll_replicate_issue]
  | append snapshot =>
      simp [perform, inArchive, Operation.calls, Archive.performAll]
  | move | recolor | resize | resizeAs | remove | clearShapes | look | require
  | describe | snapshot | snapshotOf | clearSnapshots =>
      rfl

end Album

/-- Albums and cursors, told apart by their numbers. -/
structure Gallery where
  albums : Nat → Album := fun _ => .empty
  cursors : Nat → Cursor := fun _ => .first

namespace Gallery

/-- What happens in a gallery. -/
inductive Step where
  /-- An operation on an album. -/
  | operate (target : Nat) (operation : Operation)
  /-- A snapshot of any shapes whatever. -/
  | record (target : Nat) (description : String) (shapes : List Shape)
  /-- An append to an album of the snapshot at a position of another. -/
  | copy (source position target : Nat)
  /-- A move of a cursor over the archive of an album. -/
  | move (cursor target : Nat) (movement : Cursor.Movement)
deriving Repr, DecidableEq

/-- Albums without shapes and snapshots. -/
def fresh : Gallery := {}

/-- Put another album in the place of one. -/
def put (gallery : Gallery) (target : Nat) (album : Album) : Gallery :=
  { gallery with albums := Function.update gallery.albums target album }

/-- Take a step; a copy of a snapshot that there is not changes nothing. -/
def step (clocks : Nat → Clock) (gallery : Gallery) : Step → Gallery
  | .operate target operation =>
      gallery.put target
        ((gallery.albums target).perform (clocks target) operation).after
  | .record target description shapes =>
      let album := gallery.albums target
      let captured := album.archive.capture (clocks target) description shapes
      gallery.put target { album with archive := captured.after }
  | .copy source position target =>
      match (gallery.albums source).archive.get? position with
      | none => gallery
      | some snapshot =>
          gallery.put target
            ((gallery.albums target).perform (clocks target)
              (.append snapshot)).after
  | .move cursor target movement =>
      { gallery with
        cursors :=
          Function.update gallery.cursors cursor
            ((gallery.cursors cursor).moved
              (gallery.albums target).archive movement) }

/-- Take steps one after the other. -/
def run (clocks : Nat → Clock) : Gallery → List Step → Gallery
  | gallery, [] => gallery
  | gallery, first :: rest => run clocks (gallery.step clocks first) rest

@[simp] theorem albums_put_self
    (gallery : Gallery)
    (target : Nat)
    (album : Album) :
    (gallery.put target album).albums target = album :=
  Function.update_self ..

theorem albums_put_of_ne
    (gallery : Gallery)
    {target number : Nat}
    (isOther : number ≠ target)
    (album : Album) :
    (gallery.put target album).albums number = gallery.albums number :=
  Function.update_of_ne isOther ..

variable
  (clocks : Nat → Clock)
  (gallery : Gallery)
  (number : Nat)

/--
Calls on the archive of one album are calls on it or none on any other archive.
-/
theorem archive_put
    {target : Nat}
    {album : Album}
    {calls : List Archive.Call}
    (isAfter :
      album.archive =
        ((gallery.albums target).archive.performAll
          (clocks target) calls).after) :
    ∃ reached,
      ((gallery.put target album).albums number).archive =
          ((gallery.albums number).archive.performAll
            (clocks number) reached).after ∧
        ((number = target → .clear ∉ calls) → .clear ∉ reached) := by
  by_cases isTarget : number = target
  · subst isTarget
    refine ⟨calls, ?_, fun notCleared => notCleared rfl⟩
    rw [albums_put_self]
    exact isAfter
  · refine ⟨[], ?_, fun _ => by simp⟩
    rw [gallery.albums_put_of_ne isTarget]
    rfl

/--
A step reaches an archive as calls, which clear it only if the step says so.
-/
theorem archive_step (taken : Step) :
    ∃ reached,
      ((gallery.step clocks taken).albums number).archive =
          ((gallery.albums number).archive.performAll
            (clocks number) reached).after ∧
        (taken ≠ .operate number .clearSnapshots → .clear ∉ reached) := by
  cases taken with
  | operate target operation =>
      obtain ⟨reached, isAfter, keeps⟩ :=
        gallery.archive_put clocks number
          (Album.archive_perform (clocks target)
            (gallery.albums target) operation)
      refine ⟨reached, isAfter, fun otherStep => keeps ?_⟩
      rintro rfl
      apply Operation.clear_notMem_calls
      rintro rfl
      exact otherStep rfl
  | record target description shapes =>
      let album := gallery.albums target
      let recorded : Album :=
        { album with
          archive :=
            (album.archive.capture (clocks target) description shapes).after }
      have isCaptured :
          recorded.archive =
            (album.archive.performAll (clocks target)
              [.capture description shapes]).after :=
        rfl
      obtain ⟨reached, isAfter, keeps⟩ :=
        gallery.archive_put clocks number isCaptured
      exact ⟨reached, isAfter, fun _ => keeps fun _ => by simp⟩
  | copy source position target =>
      cases found : (gallery.albums source).archive.get? position with
      | none =>
          refine ⟨[], ?_, fun _ => by simp⟩
          simp only [step, found]
          rfl
      | some snapshot =>
          obtain ⟨reached, isAfter, keeps⟩ :=
            gallery.archive_put clocks number
              (Album.archive_perform (clocks target) (gallery.albums target)
                (.append snapshot))
          refine ⟨reached, ?_, fun _ => keeps fun _ => ?_⟩
          · simpa only [step, found] using isAfter
          · exact Operation.clear_notMem_calls _ (by simp)
  | move cursor target movement =>
      exact ⟨[], rfl, fun _ => by simp⟩

/--
A run reaches an archive as calls, which clear it only if some step says so.
-/
theorem archive_run (steps : List Step) :
    ∃ calls,
      ((gallery.run clocks steps).albums number).archive =
          ((gallery.albums number).archive.performAll
            (clocks number) calls).after ∧
        (.operate number .clearSnapshots ∉ steps → .clear ∉ calls) := by
  induction steps generalizing gallery with
  | nil =>
      exact ⟨[], rfl, fun _ => by simp⟩
  | cons first rest inductionHypothesis =>
      obtain ⟨firstCalls, afterFirst, firstKeeps⟩ :=
        gallery.archive_step clocks number first
      obtain ⟨laterCalls, afterLater, laterKeeps⟩ :=
        inductionHypothesis (gallery.step clocks first)
      refine ⟨firstCalls ++ laterCalls, ?_, ?_⟩
      · rw [run, afterLater, afterFirst, Archive.after_performAll_append]
      · intro notCleared
        rw [List.mem_cons, not_or] at notCleared
        rw [List.mem_append, not_or]
        exact ⟨firstKeeps (Ne.symm notCleared.1), laterKeeps notCleared.2⟩

/-- All archives that steps make of fresh ones are aligned. -/
theorem aligned_run_fresh (steps : List Step) :
    ((fresh.run clocks steps).albums number).archive.Aligned := by
  obtain ⟨calls, isAfter, -⟩ := fresh.archive_run clocks number steps
  rw [isAfter]
  exact (Archive.aligned_clear .empty).performAll (clocks number) calls

/-- Steps that do not clear an aligned archive extend it. -/
theorem extends_run
    {gallery : Gallery}
    (aligned : (gallery.albums number).archive.Aligned)
    {steps : List Step}
    (notCleared : .operate number .clearSnapshots ∉ steps) :
    (gallery.albums number).archive.Extends
      ((gallery.run clocks steps).albums number).archive := by
  obtain ⟨calls, isAfter, keeps⟩ := gallery.archive_run clocks number steps
  rw [isAfter]
  exact aligned.extends_performAll (keeps notCleared)

/-- A copy that is accepted stands behind all snapshots that were there. -/
theorem archive_copy
    {gallery : Gallery}
    {source position target : Nat}
    {snapshot : Snapshot}
    (found : (gallery.albums source).archive.get? position = some snapshot)
    (accepted :
      ((gallery.albums target).archive.append snapshot).answer = .ok ()) :
    ((gallery.step clocks (.copy source position target)).albums
        target).archive =
      (gallery.albums target).archive.push snapshot := by
  obtain ⟨-, isPushed⟩ := Archive.eq_push_of_append_eq_ok _ accepted
  simp only [step, found, albums_put_self, Album.perform, Album.inArchive,
    isPushed]

/--
As long as an archive is not cleared, its snapshots stay a leading part of its
list and every text finds what it found.  A snapshot that is copied into it is
equal to the one that it was copied from and stands last; it is still there and
found after any further steps, also when its source has been cleared and every
scene changed.
-/
theorem history_only_grows
    (earlier later : List Step)
    (notCleared : .operate number .clearSnapshots ∉ later) :
    let before := fresh.run clocks earlier
    let archive := (before.albums number).archive
    let archiveAfter := ((before.run clocks later).albums number).archive
    (archive.snapshots.toList <+: archiveAfter.snapshots.toList ∧
      ∀ text snapshot,
        archive.find? text = some snapshot →
          archiveAfter.find? text = some snapshot) ∧
    ∀ source position snapshot,
      (before.albums source).archive.get? position = some snapshot →
      (archive.append snapshot).answer = .ok () →
        let copied := before.step clocks (.copy source position number)
        let copiedAfter := ((copied.run clocks later).albums number).archive
        (copied.albums number).archive.snapshots.toList =
            archive.snapshots.toList ++ [snapshot] ∧
          copiedAfter.get? archive.size = some snapshot ∧
          copiedAfter.find? snapshot.id.text = some snapshot := by
  intro before archive archiveAfter
  have aligned : archive.Aligned := aligned_run_fresh clocks number earlier
  refine ⟨?history, ?copies⟩
  case history =>
    have extended : archive.Extends archiveAfter :=
      extends_run clocks number aligned notCleared
    exact ⟨extended.snapshots_prefix, fun text snapshot found =>
      extended.find?_eq_some found⟩
  case copies =>
    intro source position snapshot found accepted copied copiedAfter
    obtain ⟨free, -⟩ := archive.eq_push_of_append_eq_ok accepted
    have isPushed : (copied.albums number).archive = archive.push snapshot :=
      archive_copy clocks found accepted
    have copiedAligned : (copied.albums number).archive.Aligned := by
      rw [isPushed]
      exact aligned.push snapshot free
    have extended : (copied.albums number).archive.Extends copiedAfter :=
      extends_run clocks number copiedAligned notCleared
    obtain ⟨atEnd, isFound⟩ := archive.found_push snapshot
    rw [← isPushed] at atEnd isFound
    refine ⟨?_, extended.get?_eq_some atEnd, extended.find?_eq_some isFound⟩
    rw [isPushed]
    simp [Archive.push]

/--
A copy that outlives the clearing of its source and of the scene that it shows.
-/
theorem history_only_grows_beside_cleared_source :
    let clocks : Nat → Clock := fun _ _ => ⟨2024, 3, 9, 14, 5, 7, 0⟩
    let earlier : List Step :=
      [.operate 0 (.create .oval "Dot" ⟨1, 2⟩ 3 4 5 6 7),
        .operate 0 (.snapshot "one"),
        .operate 0 (.move "Dot" ⟨8, 9⟩),
        .operate 0 (.snapshot "two"),
        .operate 1 (.snapshot "own")]
    let later : List Step :=
      [.operate 0 (.move "Dot" ⟨0, 0⟩),
        .operate 0 .clearSnapshots,
        .operate 0 .clearShapes,
        .operate 1 (.snapshot "next")]
    let dot : Shape := ⟨"Dot", ⟨8, 9⟩, ⟨5, 6, 7⟩, .oval 3 4⟩
    let snapshot : Snapshot :=
      ⟨.issuedAt 2 (clocks 0 1), "09-03-2024 14:05:07", "two", [dot]⟩
    (.operate 1 .clearSnapshots ∉ later ∧
      ((fresh.run clocks earlier).albums 0).archive.get? 1 = some snapshot ∧
      (((fresh.run clocks earlier).albums 1).archive.append
        snapshot).answer = .ok ()) ∧
    ((((fresh.run clocks earlier).step clocks (.copy 0 1 1)).run clocks
      later).albums 1).archive.find? snapshot.id.text = some snapshot := by
  intro clocks earlier later dot snapshot
  have notCleared : .operate 1 .clearSnapshots ∉ later := by
    decide
  have found :
      ((fresh.run clocks earlier).albums 0).archive.get? 1 =
        some snapshot := by
    decide +kernel
  have accepted :
      (((fresh.run clocks earlier).albums 1).archive.append
        snapshot).answer = .ok () := by
    decide +kernel
  obtain ⟨-, copies⟩ := history_only_grows clocks 1 earlier later notCleared
  obtain ⟨-, -, isFound⟩ := copies 0 1 snapshot found accepted
  exact ⟨⟨notCleared, found, accepted⟩, isFound⟩

end Gallery

end Storyboard
