import Storyboard.Proofs.Snapshot.Growth

namespace Storyboard.Archive

/-!
# Appended ids that are captured again

A capture never hands out an id that the archive holds, and it never hands out a
sequence number twice.  Neither helps an id that was issued elsewhere, appended
and then cleared away, if the archive has yet to reach its sequence number and
the clock will show its time again.  The main statement says that these are the
only ids that a capture can give to a second snapshot.
-/

/-- The id that a capture hands out. -/
def Reply.captured? : Reply → Option SnapshotId
  | .captured id => some id
  | .issued _ | .appended | .refused _ | .cleared => none

/-- The ids that the captures among some calls hand out, in order. -/
def capturedIds (clock : Clock) (archive : Archive) (calls : List Call) :
    List SnapshotId :=
  (archive.performAll clock calls).answer.filterMap Reply.captured?

section

variable
  {clock : Clock}
  {archive : Archive}

theorem mem_capturedIds_cons_iff
    {call : Call}
    {rest : List Call}
    {id : SnapshotId} :
    id ∈ archive.capturedIds clock (call :: rest) ↔
      (archive.perform clock call).answer.captured? = some id ∨
        id ∈ (archive.perform clock call).after.capturedIds clock rest := by
  rw [capturedIds, filterMap_answer_cons, List.mem_append, Option.mem_toList]
  rfl

/-- Captured ids are among those that are handed out. -/
theorem mem_handedOut_of_mem_capturedIds
    {calls : List Call}
    {id : SnapshotId}
    (captured : id ∈ archive.capturedIds clock calls) :
    id ∈ archive.handedOut clock calls := by
  obtain ⟨reply, member, isCaptured⟩ := List.mem_filterMap.mp captured
  refine List.mem_filterMap.mpr ⟨reply, member, ?_⟩
  cases reply with
  | captured answered =>
      exact isCaptured
  | issued | appended | refused | cleared =>
      cases isCaptured

/-- A captured id has a sequence number that was still to be issued. -/
theorem eq_clockedId_of_mem_capturedIds
    {calls : List Call}
    {id : SnapshotId}
    (captured : id ∈ archive.capturedIds clock calls) :
    archive.nextSequence ≤ id.sequence ∧ id = clockedId clock id.sequence := by
  have issued := archive.issuedBetween_handedOut clock calls
  have handedOut := mem_handedOut_of_mem_capturedIds captured
  exact ⟨(issued.inRange id handedOut).1, issued.isClocked id handedOut⟩

/-- A call captures under a text that the archive does not hold. -/
theorem Aligned.holds_eq_false_of_captured
    (aligned : archive.Aligned)
    {call : Call}
    {id : SnapshotId}
    (captured : (archive.perform clock call).answer.captured? = some id) :
    archive.holds id.text = false := by
  cases call with
  | capture description shapes =>
      obtain ⟨skipped, -, -, free, result⟩ :=
        aligned.capture_eq_push clock description shapes
      simp only [Archive.perform, result, Reply.captured?, Option.some.injEq]
        at captured
      exact captured ▸ free
  | append snapshot =>
      simp only [Archive.perform] at captured
      split at captured <;> cases captured
  | issue | clear =>
      cases captured

/-- As long as nothing is cleared, a held text is not captured. -/
theorem Aligned.text_ne_of_mem_capturedIds
    (aligned : archive.Aligned)
    {text : String}
    (held : archive.holds text = true)
    {calls : List Call}
    (notCleared : .clear ∉ calls)
    {id : SnapshotId}
    (captured : id ∈ archive.capturedIds clock calls) :
    id.text ≠ text := by
  induction calls generalizing archive with
  | nil =>
      cases captured
  | cons call rest inductionHypothesis =>
      rw [List.mem_cons, not_or] at notCleared
      rcases mem_capturedIds_cons_iff.mp captured with now | later
      · rintro rfl
        have free := aligned.holds_eq_false_of_captured now
        rw [held] at free
        cases free
      · have extended : archive.Extends (archive.perform clock call).after :=
          aligned.extends_perform (Ne.symm notCleared.1)
        exact inductionHypothesis (aligned.perform clock call)
          (extended.holds held) notCleared.2 later

end

section

variable
  (clock : Clock)
  (archive : Archive)

/--
Every id that is still to be issued can be captured once the archive is cleared,
since an archive without snapshots gives a capture its next number.
-/
theorem mem_capturedIds_after_clear
    {sequence : Nat}
    (notIssued : archive.nextSequence ≤ sequence) :
    clockedId clock sequence ∈
      archive.capturedIds clock
        (.clear ::
          (List.replicate (sequence - archive.nextSequence) .issue ++
            [.capture "" []])) := by
  rw [mem_capturedIds_cons_iff, capturedIds, filterMap_answer_append,
    List.mem_append]
  refine .inr (.inr (mem_capturedIds_cons_iff.mpr (.inl ?_)))
  have reached :
      archive.clear.nextSequence + (sequence - archive.nextSequence) =
        sequence := by
    simp only [clear]
    omega
  have captured :
      ((archive.clear.skip (sequence - archive.nextSequence)).capture
        clock "" []).answer =
        clockedId clock
          (archive.clear.nextSequence + (sequence - archive.nextSequence)) :=
    rfl
  simp only [perform, after_performAll_replicate_issue, captured, reached,
    Reply.captured?]

end

/--
Once a snapshot has been appended, no capture hands out its id before a clear.
Afterwards some capture may do so exactly if the id is one that the archive is
still to issue: its text is the one of a later sequence number and of the time
that the clock will show for it.
-/
theorem captured_again_iff
    (clock : Clock)
    (earlier : List Call)
    (snapshot : Snapshot)
    (accepted :
      ((empty.performAll clock earlier).after.append snapshot).answer =
        .ok ()) :
    let archive := (empty.performAll clock earlier).after
    let appended := (archive.append snapshot).after
    (∀ later, .clear ∉ later →
      ∀ id ∈ appended.capturedIds clock later, id.text ≠ snapshot.id.text) ∧
    ((∃ later, ∃ id ∈ appended.capturedIds clock later,
        id.text = snapshot.id.text) ↔
      ∃ sequence, archive.nextSequence ≤ sequence ∧
        snapshot.id.text = (clockedId clock sequence).text) := by
  intro archive appended
  have aligned : appended.Aligned :=
    ((aligned_clear .empty).performAll clock earlier).append snapshot
  obtain ⟨free, isPushed⟩ := eq_push_of_append_eq_ok archive accepted
  have sameNext : appended.nextSequence = archive.nextSequence :=
    archive.nextSequence_append snapshot
  refine ⟨?beforeClear, ?again, ?reached⟩
  case beforeClear =>
    intro later notCleared id captured
    have held : appended.holds snapshot.id.text = true := by
      simp [appended, isPushed, holds, push]
    exact aligned.text_ne_of_mem_capturedIds held notCleared captured
  case again =>
    rintro ⟨later, id, captured, sameText⟩
    obtain ⟨notIssued, isClocked⟩ := eq_clockedId_of_mem_capturedIds captured
    rw [sameNext] at notIssued
    exact ⟨id.sequence, notIssued, by rw [← sameText, ← isClocked]⟩
  case reached =>
    rintro ⟨sequence, notIssued, sameText⟩
    rw [← sameNext] at notIssued
    exact ⟨_, _, appended.mem_capturedIds_after_clear clock notIssued,
      sameText.symm⟩

/-- The second id of one archive, appended to another that has issued none. -/
theorem captured_again_of_second_id :
    let clock : Clock := fun _ => ⟨2024, 3, 9, 14, 5, 7, 0⟩
    let copied : Snapshot :=
      ⟨clockedId clock 2, (clock 1).timestamp, "two", []⟩
    ((empty.performAll clock []).after.append copied).answer = .ok () ∧
      ∃ later, ∃ id ∈
        (empty.append copied).after.capturedIds clock later,
        id.text = copied.id.text := by
  intro clock copied
  have accepted :
      ((empty.performAll clock []).after.append copied).answer = .ok () := by
    decide +kernel
  obtain ⟨-, again⟩ := captured_again_iff clock [] copied accepted
  exact ⟨accepted, again.mpr ⟨2, by decide, rfl⟩⟩

/--
Two archives under one clock that stands still: the second snapshot of one is
appended to the other and cleared away, and the second capture of that archive
hands out its id again.
-/
theorem capturedIds_repeat_cleared_text :
    let clock : Clock := fun _ => ⟨2024, 3, 9, 14, 5, 7, 0⟩
    let source :=
      (empty.performAll clock [.capture "one" [], .capture "two" []]).after
    ∃ copied,
      source.get? 1 = some copied ∧
        (empty.append copied).answer = .ok () ∧
        copied.id.text = "2024-03-09T14:05:07.000000#0002" ∧
        copied.id ∈
          (empty.append copied).after.capturedIds clock
            [.clear, .capture "three" [], .capture "four" []] := by
  intro clock source
  refine ⟨⟨clockedId clock 2, (clock 1).timestamp, "two", []⟩, ?_⟩
  decide +kernel

end Storyboard.Archive
