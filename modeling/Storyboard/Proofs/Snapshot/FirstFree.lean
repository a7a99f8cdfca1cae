import Mathlib.Order.Bounds.Defs
import Storyboard.Proofs.Snapshot.Growth

namespace Storyboard.Archive

/-!
# Captures end at the first free id

A capture issues ids for as long as they are taken.  Nothing bounds such a
search from the outside: it ends because every attempt has a text of its own and
an archive holds one text for each of its snapshots.  The id at which it ends is
the one of the least sequence number that is still to be issued and free at the
clock reading that its attempt takes.
-/

/--
A search that issues ids for as long as they are taken ends after some attempts.
-/
inductive SearchEnds (clock : Clock) :
    Archive → (attempts : Nat) → (found : Change Archive Issued) → Prop where
  | free
      {archive : Archive}
      (isFree : archive.holds (issue clock archive).answer.id.text = false) :
      SearchEnds clock archive 1 (issue clock archive)
  | taken
      {archive : Archive}
      {attempts : Nat}
      {found : Change Archive Issued}
      (isTaken : archive.holds (issue clock archive).answer.id.text = true)
      (later : SearchEnds clock (issue clock archive).after attempts found) :
      SearchEnds clock archive (attempts + 1) found

section

variable
  {clock : Clock}
  {archive : Archive}

/-- A search ends in one way only. -/
theorem SearchEnds.unique
    {attempts otherAttempts : Nat}
    {found otherFound : Change Archive Issued}
    (ends : SearchEnds clock archive attempts found)
    (endsToo : SearchEnds clock archive otherAttempts otherFound) :
    otherAttempts = attempts ∧ otherFound = found := by
  induction ends generalizing otherAttempts with
  | free isFree =>
      cases endsToo with
      | free =>
          exact ⟨rfl, rfl⟩
      | taken isTaken =>
          rw [isFree] at isTaken
          cases isTaken
  | taken isTaken _ inductionHypothesis =>
      cases endsToo with
      | free isFree =>
          rw [isTaken] at isFree
          cases isFree
      | taken _ later =>
          obtain ⟨sameAttempts, sameFound⟩ := inductionHypothesis later
          exact ⟨congrArg Nat.succ sameAttempts, sameFound⟩

/-- Behind a row of taken ids, a search ends at the free one. -/
theorem searchEnds_of_taken
    {skipped : Nat}
    (allTaken :
      ∀ earlier,
        earlier < skipped →
        archive.holds
          (clockedId clock (archive.nextSequence + earlier)).text = true)
    (lastFree :
      archive.holds
        (clockedId clock (archive.nextSequence + skipped)).text = false) :
    SearchEnds clock archive (skipped + 1)
      (issue clock (archive.skip skipped)) := by
  induction skipped generalizing archive with
  | zero =>
      exact .free lastFree
  | succ skipped inductionHypothesis =>
      have shifted (count : Nat) :
          (archive.skip 1).nextSequence + count =
            archive.nextSequence + (count + 1) := by
        simp only [skip]
        omega
      have later :
          SearchEnds clock (archive.skip 1) (skipped + 1)
            (issue clock ((archive.skip 1).skip skipped)) := by
        apply inductionHypothesis
        · intro earlier before
          rw [shifted]
          exact allTaken (earlier + 1) (Nat.succ_lt_succ before)
        · rw [shifted]
          exact lastFree
      rw [skip_skip, Nat.add_comm 1 skipped] at later
      exact .taken (allTaken 0 (Nat.succ_pos skipped)) later

/-- The sequence numbers that are still to be issued and whose ids are free. -/
def freeSequences (clock : Clock) (archive : Archive) : Set Nat :=
  {sequence |
    archive.nextSequence ≤ sequence ∧
      (clockedId clock sequence).text ∉ archive.texts}

/-- Behind a row of taken numbers, a free one is the least that is free. -/
theorem Aligned.isLeast_freeSequences
    (aligned : archive.Aligned)
    {skipped : Nat}
    (allTaken :
      ∀ earlier,
        earlier < skipped →
        archive.holds
          (clockedId clock (archive.nextSequence + earlier)).text = true)
    (lastFree :
      archive.holds
        (clockedId clock (archive.nextSequence + skipped)).text = false) :
    IsLeast (archive.freeSequences clock)
      (archive.nextSequence + skipped) := by
  constructor
  · refine ⟨Nat.le_add_right .., ?_⟩
    rw [← aligned.holds_iff, lastFree]
    exact Bool.false_ne_true
  · rintro sequence ⟨notIssued, isFree⟩
    by_contra isLess
    obtain ⟨earlier, rfl⟩ := Nat.exists_eq_add_of_le notIssued
    apply isFree
    rw [← aligned.holds_iff]
    exact allTaken earlier (by omega)

end

/--
Whatever was done to an archive and whatever its clock shows, a capture ends,
and it does so after at most one attempt more than there are snapshots.  The
answer is the id of the least sequence number that is still to be issued and
free, the numbers up to that one are used up, and one snapshot stands behind all
others: the given shapes under the given description, with the id and the
timestamp of one and the same reading.
-/
theorem capture_takes_first_free
    (clock : Clock)
    (earlier : List Call)
    (description : String)
    (shapes : List Shape) :
    let archive := (empty.performAll clock earlier).after
    let captured := archive.capture clock description shapes
    let sequence := captured.answer.sequence
    (∃ attempts found,
      attempts ≤ archive.size + 1 ∧
        archive.nextSequence + attempts = sequence + 1 ∧
        (∀ otherAttempts otherFound,
          SearchEnds clock archive otherAttempts otherFound ↔
            otherAttempts = attempts ∧ otherFound = found) ∧
        captured =
          ⟨found.answer.id,
            found.after.push
              ⟨found.answer.id, found.answer.timestamp, description,
                shapes⟩⟩) ∧
      IsLeast (archive.freeSequences clock) sequence ∧
      captured.answer = .issuedAt sequence (clock (sequence - 1)) ∧
      captured.after.nextSequence = sequence + 1 ∧
      captured.after.ids = archive.ids.push captured.answer ∧
      captured.after.snapshots =
        archive.snapshots.push
          ⟨captured.answer, (clock (sequence - 1)).timestamp, description,
            shapes⟩ := by
  intro archive captured sequence
  have aligned : archive.Aligned :=
    (aligned_clear .empty).performAll clock earlier
  obtain ⟨skipped, inTime, allTaken, lastFree, result⟩ :=
    aligned.capture_eq_push clock description shapes
  change captured = _ at result
  have isFirstFree : sequence = archive.nextSequence + skipped :=
    congrArg (·.answer.sequence) result
  have ends := searchEnds_of_taken allTaken lastFree
  have isLeast := aligned.isLeast_freeSequences allTaken lastFree
  rw [← isFirstFree] at result isLeast
  refine ⟨⟨skipped + 1, issue clock (archive.skip skipped), ?inTime, ?usedUp,
    ?onlyThen, ?pushed⟩, isLeast, ?answer, ?next, ?ids, ?snapshots⟩
  case inTime =>
    exact Nat.succ_le_succ inTime
  case usedUp =>
    rw [isFirstFree, Nat.add_assoc]
  case onlyThen =>
    intro otherAttempts otherFound
    constructor
    · exact ends.unique
    · rintro ⟨rfl, rfl⟩
      exact ends
  case pushed =>
    rw [result, isFirstFree]
    rfl
  case answer =>
    rw [result]
    rfl
  case next =>
    rw [result, isFirstFree]
    rfl
  case ids | snapshots =>
    rw [result]
    rfl

end Storyboard.Archive
