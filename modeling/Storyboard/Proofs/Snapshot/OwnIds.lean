import Storyboard.Proofs.Snapshot.Alignment

namespace Storyboard.Archive

/-!
# Archives that hold only their own ids

As long as nothing is appended, every held id was issued by the archive itself,
under a sequence number that is used up.  The next id is then always free, so a
capture takes exactly one clock reading and one sequence number.
-/

/-- Every held text is that of an id with a sequence number that is used up. -/
def OwnIds (clock : Clock) (archive : Archive) : Prop :=
  ∀ text ∈ archive.texts,
    ∃ sequence,
      sequence < archive.nextSequence ∧
        text = (clockedId clock sequence).text

/-- An archive without snapshots holds no foreign id. -/
theorem ownIds_clear (clock : Clock) (archive : Archive) :
    archive.clear.OwnIds clock := by
  simp [OwnIds, texts, clear]

section

variable
  {clock : Clock}
  {archive : Archive}

/-- The next id of an archive without foreign ids is free. -/
theorem OwnIds.next_free
    (own : archive.OwnIds clock)
    (aligned : archive.Aligned) :
    archive.holds (clockedId clock archive.nextSequence).text = false := by
  rw [Bool.eq_false_iff, ne_eq, aligned.holds_iff]
  intro taken
  obtain ⟨sequence, used, sameText⟩ := own _ taken
  have sameSequence := clockedId_text_injective clock sameText
  omega

/-- A capture without foreign ids takes the next id and the reading for it. -/
theorem OwnIds.capture_eq
    (own : archive.OwnIds clock)
    (aligned : archive.Aligned)
    (description : String)
    (shapes : List Shape) :
    archive.capture clock description shapes =
      ⟨clockedId clock archive.nextSequence,
        (archive.skip 1).push
          ⟨clockedId clock archive.nextSequence,
            (clock (archive.nextSequence - 1)).timestamp,
            description, shapes⟩⟩ := by
  obtain ⟨skipped, -, allTaken, -, result⟩ :=
    aligned.capture_eq_push clock description shapes
  cases skipped with
  | zero =>
      exact result
  | succ skipped =>
      have taken := allTaken 0 (Nat.succ_pos skipped)
      rw [Nat.add_zero, own.next_free aligned] at taken
      cases taken

/-- A capture brings in no foreign id. -/
theorem OwnIds.capture
    (own : archive.OwnIds clock)
    (aligned : archive.Aligned)
    (description : String)
    (shapes : List Shape) :
    (archive.capture clock description shapes).after.OwnIds clock := by
  rw [own.capture_eq aligned]
  intro text member
  simp only [texts, Archive.push, Archive.skip, Array.toList_push,
    List.map_append, List.map_cons, List.map_nil, List.mem_append,
    List.mem_singleton] at member
  rcases member with before | isNew
  · obtain ⟨sequence, used, isText⟩ := own text before
    exact ⟨sequence, Nat.lt_succ_of_lt used, isText⟩
  · exact ⟨archive.nextSequence, Nat.lt_succ_self _, isNew⟩

end

end Storyboard.Archive
