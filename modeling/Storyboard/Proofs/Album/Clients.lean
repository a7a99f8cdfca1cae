import Storyboard.Album.Shared
import Storyboard.Proofs.Album.OwnedNames

namespace Storyboard

/-!
# Clients of a shared album

Clients take turns on a shared album, each at names of its own and with any
captures beside.  What one client does leaves the part of the scene under the
names of another as it is, and what a client does at its own names depends on
its own part only.  Hence every client is answered as if it were alone.  The
captures of all clients meet in the archive, where each puts one snapshot behind
those of the turns before.

A turn that is broken off poisons the lock.  As the album is taken from a
poisoned lock all the same, such a turn counts as the operations that it
completed, and the turns behind it go on as if it had ended there.
-/

/-- The turn that ends where another one is broken off. -/
def Turn.ended (turn : Turn) : Turn where
  operations := turn.completed

/-- A turn and the number of the client who takes it. -/
structure ClientTurn where
  client : Nat
  turn : Turn
deriving Repr, DecidableEq

namespace ClientTurn

/-- The turn that ends where that of a client is broken off. -/
def ended (taken : ClientTurn) : ClientTurn where
  client := taken.client
  turn := taken.turn.ended

/-- All operations that a turn completes keep to the names of its client. -/
def KeepsTo (owner : String → Nat) (taken : ClientTurn) : Prop :=
  ∀ operation ∈ taken.turn.completed,
    operation.keepsTo (owner · = taken.client) = true

instance (owner : String → Nat) (taken : ClientTurn) :
    Decidable (taken.KeepsTo owner) :=
  inferInstanceAs
    (Decidable
      (∀ operation ∈ taken.turn.completed,
        operation.keepsTo (owner · = taken.client) = true))

end ClientTurn

/-- What a client was answered in one turn. -/
structure Received where
  client : Nat
  answers : List Answer
deriving Repr, DecidableEq

namespace SharedAlbum

/-- Let clients take turns in the order in which they get hold of the lock. -/
def takeTurns (clock : Clock) (shared : SharedAlbum) :
    List ClientTurn → Change SharedAlbum (List Received)
  | [] => ⟨[], shared⟩
  | taken :: rest =>
      let first := shared.takeTurn clock taken.turn
      let later := takeTurns clock first.after rest
      ⟨⟨taken.client, first.answer⟩ :: later.answer, later.after⟩

/-- What a client was answered in its turns, with gaps for its captures. -/
def answersTo (client : Nat) (received : List Received) :
    List (List (Option Answer)) :=
  (received.filter (·.client = client)).map
    (·.answers.map Answer.besideCaptures)

/-- All operations of some turns, in the order in which they are carried out. -/
def operationsOf (schedule : List ClientTurn) : List Operation :=
  schedule.flatMap (·.turn.completed)

/--
The ids that captures were answered, in the order in which they were taken.
-/
def capturedIds (received : List Received) : List SnapshotId :=
  received.flatMap (·.answers.filterMap Answer.capturedId?)

/-- A poisoned lock gives out the same album as one that is not. -/
theorem locked_eq (shared : SharedAlbum) : shared.locked = shared.album := by
  unfold locked lock
  cases shared.poisoned <;> rfl

/-- A turn is taken on the album, whatever state the lock is in. -/
theorem takeTurn_eq
    (clock : Clock)
    (shared : SharedAlbum)
    (turn : Turn) :
    shared.takeTurn clock turn =
      ⟨(shared.album.performAll clock turn.completed).answer,
        ⟨(shared.album.performAll clock turn.completed).after,
          shared.poisoned || turn.isBrokenOff⟩⟩ := by
  rw [takeTurn, locked_eq]

/--
Turns carry out the operations that they complete one after the other, and
poison the lock if one of them is broken off.
-/
theorem takeTurns_eq_performAll
    (clock : Clock)
    (shared : SharedAlbum)
    (schedule : List ClientTurn) :
    let taken := shared.takeTurns clock schedule
    let performed := shared.album.performAll clock (operationsOf schedule)
    taken.answer.flatMap (·.answers) = performed.answer ∧
      taken.after.album = performed.after ∧
      taken.after.poisoned =
        (shared.poisoned || schedule.any (·.turn.isBrokenOff)) := by
  induction schedule generalizing shared with
  | nil =>
      exact ⟨rfl, rfl, (Bool.or_false _).symm⟩
  | cons first rest inductionHypothesis =>
      obtain ⟨sameAnswers, sameAfter, poisoned⟩ :=
        inductionHypothesis (shared.takeTurn clock first.turn).after
      simp only [takeTurn_eq] at sameAnswers sameAfter poisoned
      simp only [takeTurns, takeTurn_eq, operationsOf, List.flatMap_cons,
        List.any_cons, Album.performAll_append, sameAnswers, sameAfter,
        poisoned, Bool.or_assoc, and_self]

/--
A turn that is broken off counts as one that ends there: to no client does it
make a difference, now or later.
-/
theorem takeTurns_map_ended
    (clock : Clock)
    {first second : SharedAlbum}
    (sameAlbum : first.album = second.album)
    (schedule : List ClientTurn) :
    let broken := first.takeTurns clock schedule
    let ended := second.takeTurns clock (schedule.map ClientTurn.ended)
    broken.answer = ended.answer ∧ broken.after.album = ended.after.album := by
  induction schedule generalizing first second with
  | nil =>
      exact ⟨rfl, sameAlbum⟩
  | cons taken rest inductionHypothesis =>
      have sameAfter :
          (first.takeTurn clock taken.turn).after.album =
            (second.takeTurn clock taken.turn.ended).after.album := by
        rw [takeTurn_eq, takeTurn_eq, sameAlbum]
        rfl
      have sameAnswer :
          (first.takeTurn clock taken.turn).answer =
            (second.takeTurn clock taken.turn.ended).answer := by
        rw [takeTurn_eq, takeTurn_eq, sameAlbum]
        rfl
      obtain ⟨sameLater, sameAtEnd⟩ := inductionHypothesis sameAfter
      refine ⟨?_, sameAtEnd⟩
      exact congrArg₂ List.cons
        (congrArg (Received.mk taken.client) sameAnswer) sameLater

/--
A client is answered in its turns among others as in its turns alone, and the
part of the scene under its names ends up the same.
-/
theorem alike_takeTurns
    (clock aloneClock : Clock)
    {owner : String → Nat}
    (client : Nat)
    {first second : SharedAlbum}
    (samePart :
      first.album.scene.part (owner · = client) =
        second.album.scene.part (owner · = client))
    {schedule : List ClientTurn}
    (keep : ∀ taken ∈ schedule, taken.KeepsTo owner) :
    let shared := first.takeTurns clock schedule
    let alone :=
      second.takeTurns aloneClock (schedule.filter (·.client = client))
    answersTo client shared.answer = answersTo client alone.answer ∧
      shared.after.album.scene.part (owner · = client) =
        alone.after.album.scene.part (owner · = client) := by
  induction schedule generalizing first second with
  | nil =>
      exact ⟨rfl, samePart⟩
  | cons taken rest inductionHypothesis =>
      rw [List.forall_mem_cons] at keep
      obtain ⟨keepsFirst, keepRest⟩ := keep
      by_cases isOwn : taken.client = client
      · subst isOwn
        obtain ⟨sameAnswers, samePartAfter⟩ :=
          Album.alike_performAll samePart clock aloneClock keepsFirst
        have samePartNext :
            (first.takeTurn clock taken.turn).after.album.scene.part
                (owner · = taken.client) =
              (second.takeTurn aloneClock taken.turn).after.album.scene.part
                (owner · = taken.client) := by
          rw [takeTurn_eq, takeTurn_eq]
          exact samePartAfter
        obtain ⟨sameLater, samePartLater⟩ :=
          inductionHypothesis samePartNext keepRest
        simp only [List.filter_cons, decide_true, if_true]
        refine ⟨?_, samePartLater⟩
        simp only [answersTo, takeTurns, takeTurn_eq, List.filter_cons,
          decide_true, if_true, List.map_cons, sameAnswers] at sameLater ⊢
        rw [sameLater]
      · have disjoint (name : String) :
            decide (owner name = taken.client) = true →
              decide (owner name = client) = false := by
          simp only [decide_eq_true_eq, decide_eq_false_iff_not]
          rintro isTaken rfl
          exact isOwn isTaken.symm
        have samePartNext :
            (first.takeTurn clock taken.turn).after.album.scene.part
                (owner · = client) =
              second.album.scene.part (owner · = client) := by
          rw [takeTurn_eq]
          exact
            (Album.part_performAll disjoint clock first.album keepsFirst).trans
              samePart
        obtain ⟨sameLater, samePartLater⟩ :=
          inductionHypothesis samePartNext keepRest
        simp only [List.filter_cons, isOwn, decide_false, Bool.false_eq_true,
          if_false]
        refine ⟨?_, samePartLater⟩
        simpa only [answersTo, takeTurns, List.filter_cons, isOwn, decide_false,
          Bool.false_eq_true, if_false] using sameLater

/--
On any album that operations make, and behind a lock in any state, clients who
keep to names of their own are answered in their turns as if each were alone,
under any clock, and find their shapes with the same values and in the same
order.  A turn that is broken off counts as the operations that it completed.
Every capture of any client stands in the archive once, behind what was there
and in the order of the turns, with what it was to record and under the id that
it was answered; these ids increase, and no text is the id of two snapshots.
-/
theorem clients_undisturbed
    (clock : Clock)
    (earlier : List Operation)
    (poisoned : Bool)
    (owner : String → Nat)
    (schedule : List ClientTurn)
    (keep : ∀ taken ∈ schedule, taken.KeepsTo owner) :
    let start : SharedAlbum :=
      ⟨(Album.empty.performAll clock earlier).after, poisoned⟩
    let shared := start.takeTurns clock schedule
    let ended := start.takeTurns clock (schedule.map ClientTurn.ended)
    (∀ client aloneClock,
      let alone :=
        start.takeTurns aloneClock (schedule.filter (·.client = client))
      answersTo client shared.answer = answersTo client alone.answer ∧
        shared.after.album.scene.shapes.filter (owner ·.name = client) =
          alone.after.album.scene.shapes.filter (owner ·.name = client)) ∧
    (shared.answer = ended.answer ∧ shared.after.album = ended.after.album) ∧
    ∃ added,
      shared.after.album.archive.snapshots.toList =
          start.album.archive.snapshots.toList ++ added ∧
        added.map Archive.Call.ofSnapshot =
          start.album.calls clock (operationsOf schedule) ∧
        added.map (·.id) = capturedIds shared.answer ∧
        (added.map (·.id)).Pairwise
          (fun former later => former.order later = .lt) ∧
        shared.after.album.archive.texts.Nodup := by
  intro start shared ended
  refine ⟨?answers, takeTurns_map_ended clock rfl schedule, ?captures⟩
  case answers =>
    intro client aloneClock alone
    obtain ⟨sameAnswers, samePart⟩ :=
      alike_takeTurns clock aloneClock client (Eq.refl _) keep
    exact ⟨sameAnswers, congrArg Scene.shapes samePart⟩
  case captures =>
    have keepAll :
        ∀ operation ∈ operationsOf schedule,
          ∃ owns, operation.keepsTo owns = true := by
      intro operation member
      obtain ⟨taken, isTaken, inTurn⟩ := List.mem_flatMap.mp member
      exact ⟨_, keep taken isTaken operation inTurn⟩
    have startAligned : start.album.archive.Aligned := by
      rw [Album.archive_performAll]
      exact (Archive.aligned_clear .empty).performAll clock _
    obtain ⟨sameAnswers, sameAfter, -⟩ :=
      takeTurns_eq_performAll clock start schedule
    have archiveAfter :
        shared.after.album.archive =
          (start.album.archive.performAll clock
            (start.album.calls clock (operationsOf schedule))).after := by
      rw [← Album.archive_performAll, ← sameAfter]
    have sameIds :
        capturedIds shared.answer =
          start.album.archive.handedOut clock
            (start.album.calls clock (operationsOf schedule)) := by
      rw [← Album.capturedIds_performAll clock start.album keepAll,
        ← sameAnswers, capturedIds, List.filterMap_flatMap]
    obtain ⟨added, atEnd, recorded, underIds⟩ :=
      start.album.archive.snapshots_performAll clock
        (Album.isCapture_of_mem_calls clock start.album keepAll)
    have issued :=
      start.album.archive.issuedBetween_handedOut clock
        (start.album.calls clock (operationsOf schedule))
    refine ⟨added, ?_, recorded, ?_, ?_, ?_⟩
    · rw [archiveAfter, atEnd]
    · rw [underIds, sameIds]
    · rw [underIds]
      exact issued.pairwise_order
    · rw [archiveAfter]
      exact (startAligned.performAll clock _).nodup_texts

/--
Two clients by turns, one of whom breaks off behind a removal and a capture.
-/
theorem clients_undisturbed_by_broken_turn :
    let clock : Clock := fun _ => ⟨2024, 3, 9, 14, 5, 7, 0⟩
    let earlier : List Operation :=
      [.create .rectangle "Box" ⟨0, 0⟩ 2 2 9 9 9,
        .create .oval "Dot" ⟨1, 2⟩ 3 4 5 6 7]
    let owner (name : String) : Nat := if name = "Dot" then 0 else 1
    let schedule : List ClientTurn :=
      [⟨0, ⟨[.remove "Dot", .snapshot "gone", .look "Dot"], some 2⟩⟩,
        ⟨1,
          ⟨[.resize "Box" 8 0, .snapshotOf "box" ["Box"], .look "Dot2"], none⟩⟩,
        ⟨0, ⟨[.create .oval "Dot" ⟨8, 9⟩ 1 1 0 0 0], none⟩⟩,
        ⟨1, ⟨[.move "Box" ⟨5, 5⟩], none⟩⟩]
    let start : SharedAlbum :=
      ⟨(Album.empty.performAll clock earlier).after, false⟩
    let shared := start.takeTurns clock schedule
    let alone := start.takeTurns clock (schedule.filter (·.client = 1))
    (∀ taken ∈ schedule, taken.KeepsTo owner) ∧
      shared.after.poisoned = true ∧
      answersTo 1 shared.answer = answersTo 1 alone.answer ∧
      ∃ added,
        shared.after.album.archive.snapshots.toList =
            start.album.archive.snapshots.toList ++ added ∧
          added.map (·.id) = capturedIds shared.answer := by
  intro clock earlier owner schedule start shared alone
  have keep : ∀ taken ∈ schedule, taken.KeepsTo owner := by
    decide +kernel
  obtain ⟨undisturbed, -, added, atEnd, -, underIds, -⟩ :=
    clients_undisturbed clock earlier false owner schedule keep
  obtain ⟨sameAnswers, -⟩ := undisturbed 1 clock
  obtain ⟨-, -, poisoned⟩ := takeTurns_eq_performAll clock start schedule
  refine ⟨keep, poisoned, sameAnswers, added, ?_, underIds⟩
  simp only [shared, start, atEnd]

end SharedAlbum

end Storyboard
