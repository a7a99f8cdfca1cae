import Mathlib.Data.List.Nodup
import Mathlib.Data.List.Perm.Subperm
import Mathlib.Data.List.Range
import Storyboard.Proofs.Snapshot.Identity
import Storyboard.Snapshot.Archive

namespace Storyboard.Archive

/-!
# Snapshots, ids and index stay in step

An archive keeps one thing three times: its snapshots, their ids, and an index
over the id texts.  `Aligned` says that the three agree.  Every operation keeps
it, because a snapshot is put in only under a text that the index does not hold.
For a capture this rests on a count: the texts of different sequence numbers
differ, so among one more of them than the archive holds there is a free one.
-/

/--
The id that a sequence number is issued under, made from its clock reading.
-/
def clockedId (clock : Clock) (sequence : Nat) : SnapshotId :=
  .issuedAt sequence (clock (sequence - 1))

/-- An archive that has issued a number of further ids and kept none of them. -/
def skip (archive : Archive) (count : Nat) : Archive :=
  { archive with nextSequence := archive.nextSequence + count }

/-- The texts of the ids that an archive holds, in order. -/
def texts (archive : Archive) : List String :=
  archive.ids.toList.map (·.text)

/-- The id texts, their positions and the snapshots of an archive agree. -/
structure Aligned (archive : Archive) : Prop where
  ids_eq :
    archive.ids = archive.snapshots.map (·.id)
  index_iff :
    ∀ (text : String) (position : Nat),
      archive.index[text]? = some position ↔
        archive.texts[position]? = some text

/-- Different sequence numbers are issued under different texts. -/
theorem clockedId_text_injective (clock : Clock) :
    Function.Injective fun sequence => (clockedId clock sequence).text :=
  fun _ _ sameText => (SnapshotId.parts_of_text_eq sameText).2

/-- Skipped ids leave the held texts alone. -/
@[simp] theorem holds_skip (archive : Archive) (count : Nat) (text : String) :
    (archive.skip count).holds text = archive.holds text :=
  rfl

theorem skip_skip (archive : Archive) (first second : Nat) :
    (archive.skip first).skip second = archive.skip (first + second) := by
  simp only [skip, Nat.add_assoc]

/--
An issued id is the one of the next sequence number, which is then used up.
-/
theorem issue_eq (clock : Clock) (archive : Archive) :
    issue clock archive =
      ⟨⟨clockedId clock archive.nextSequence,
          (clock (archive.nextSequence - 1)).timestamp⟩,
        archive.skip 1⟩ :=
  rfl

/-- Requiring a snapshot answers what a lookup finds. -/
theorem require_eq_ok_iff
    (archive : Archive)
    (text : String)
    (snapshot : Snapshot) :
    archive.require text = .ok snapshot ↔
      archive.find? text = some snapshot := by
  cases found : archive.find? text <;> simp [require, found]

/-- Requiring a snapshot is refused where a lookup finds nothing. -/
theorem require_eq_error_iff
    (archive : Archive)
    (text : String) :
    archive.require text = .error (.noSnapshot text) ↔
      archive.find? text = none := by
  cases found : archive.find? text <;> simp [require, found]

/-- An archive without snapshots is aligned. -/
theorem aligned_clear (archive : Archive) : archive.clear.Aligned where
  ids_eq := by
    simp [clear]
  index_iff := by
    intro text position
    simp [clear, texts]

/-- Skipped ids do not disturb the alignment. -/
theorem Aligned.skip
    {archive : Archive}
    (aligned : archive.Aligned)
    (count : Nat) :
    (archive.skip count).Aligned where
  ids_eq := aligned.ids_eq
  index_iff := aligned.index_iff

namespace Aligned

variable {archive : Archive}

/-- An aligned archive has as many ids as snapshots. -/
theorem length_texts (aligned : archive.Aligned) :
    archive.texts.length = archive.size := by
  simp [texts, aligned.ids_eq, size]

/-- The id texts of an aligned archive are those of its snapshots. -/
theorem getElem?_texts (aligned : archive.Aligned) (position : Nat) :
    archive.texts[position]? =
      archive.snapshots[position]?.map (·.id.text) := by
  simp [texts, aligned.ids_eq, Function.comp_def]

/-- The index holds exactly the texts of the ids. -/
theorem holds_iff (aligned : archive.Aligned) (text : String) :
    archive.holds text = true ↔ text ∈ archive.texts := by
  rw [holds, Std.ExtTreeMap.contains_eq_isSome_getElem?,
    Option.isSome_iff_exists, List.mem_iff_getElem?]
  exact exists_congr (aligned.index_iff text)

/-- No text is the id of two snapshots. -/
theorem nodup_texts (aligned : archive.Aligned) : archive.texts.Nodup := by
  rw [List.nodup_iff_getElem?_ne_getElem?]
  intro first second before inBounds sameText
  have isText := List.getElem?_eq_getElem inBounds
  have atSecond := (aligned.index_iff _ second).mpr isText
  have atFirst := (aligned.index_iff _ first).mpr (sameText.trans isText)
  have samePosition := Option.some.inj (atFirst.symm.trans atSecond)
  omega

/-- The position of a text is the only one where it stands. -/
theorem text_at_iff
    (aligned : archive.Aligned)
    {text : String}
    {position : Nat}
    (isText : archive.texts[position]? = some text)
    (other : Nat) :
    archive.texts[other]? = some text ↔ other = position := by
  constructor
  · intro alsoText
    have atOther := (aligned.index_iff text other).mpr alsoText
    have atPosition := (aligned.index_iff text position).mpr isText
    exact Option.some.inj (atOther.symm.trans atPosition)
  · intro isPosition
    exact isPosition ▸ isText

/-- A lookup finds the snapshot at the one position where the text stands. -/
theorem find?_eq_some_iff
    (aligned : archive.Aligned)
    (text : String)
    (snapshot : Snapshot) :
    archive.find? text = some snapshot ↔
      ∃ position : Nat, archive.snapshots[position]? = some snapshot ∧
        ∀ other : Nat, archive.texts[other]? = some text ↔
          other = position := by
  rw [find?, Option.bind_eq_some_iff]
  constructor
  · rintro ⟨position, indexed, found⟩
    have isText := (aligned.index_iff text position).mp indexed
    exact ⟨position, found, aligned.text_at_iff isText⟩
  · rintro ⟨position, found, onlyThere⟩
    have isText := (onlyThere position).mpr rfl
    exact ⟨position, (aligned.index_iff text position).mpr isText, found⟩

/-- A lookup finds nothing exactly if no id has the text. -/
theorem find?_eq_none_iff
    (aligned : archive.Aligned)
    (text : String) :
    archive.find? text = none ↔ text ∉ archive.texts := by
  rw [find?, Option.bind_eq_none_iff]
  constructor
  · intro nothingFound member
    obtain ⟨position, isText⟩ := List.mem_iff_getElem?.mp member
    have indexed := (aligned.index_iff text position).mpr isText
    have notFound : archive.snapshots[position]? = none :=
      nothingFound position indexed
    rw [aligned.getElem?_texts, notFound] at isText
    cases isText
  · intro absent position indexed
    have isText := (aligned.index_iff text position).mp indexed
    exact absurd (List.mem_of_getElem? isText) absent

/-- A snapshot under a free text keeps the alignment when it is put in. -/
theorem push
    (aligned : archive.Aligned)
    (snapshot : Snapshot)
    (free : archive.holds snapshot.id.text = false) :
    (archive.push snapshot).Aligned where
  ids_eq := by
    simp [Archive.push, aligned.ids_eq]
  index_iff := by
    intro text position
    have textsAfter :
        (archive.push snapshot).texts =
          archive.texts ++ [snapshot.id.text] := by
      simp [Archive.push, texts]
    have freeText : snapshot.id.text ∉ archive.texts := by
      rw [← aligned.holds_iff, free]
      simp
    rw [textsAfter]
    simp only [Archive.push, Std.ExtTreeMap.getElem?_insert,
      Std.LawfulEqOrd.compare_eq_iff_eq]
    by_cases isNew : snapshot.id.text = text
    · subst isNew
      have notBefore : archive.texts[position]? ≠ some snapshot.id.text :=
        fun isText => freeText (List.mem_of_getElem? isText)
      rw [if_pos rfl, ← aligned.length_texts, List.getElem?_append]
      grind
    · rw [if_neg isNew, aligned.index_iff, List.getElem?_append]
      grind

end Aligned

/--
Issuing until an id is free skips some taken ids and issues the next one, which
is free unless the attempts have run out.
-/
theorem issueFree_eq_issue
    (clock : Clock)
    (attempts : Nat)
    (archive : Archive) :
    ∃ skipped,
      skipped ≤ attempts ∧
        issueFree clock attempts archive =
          issue clock (archive.skip skipped) ∧
        (∀ earlier,
          earlier < skipped →
          archive.holds
            (clockedId clock (archive.nextSequence + earlier)).text = true) ∧
        (skipped < attempts →
          archive.holds
            (clockedId clock (archive.nextSequence + skipped)).text =
              false) := by
  induction attempts generalizing archive with
  | zero =>
      exact ⟨0, Nat.le_refl 0, rfl, by simp, by simp⟩
  | succ attempts inductionHypothesis =>
      cases taken :
        archive.holds (clockedId clock archive.nextSequence).text with
      | false =>
          refine ⟨0, Nat.zero_le _, ?_, by simp, fun _ => taken⟩
          simp [issueFree, issue_eq, taken, Archive.skip]
      | true =>
          obtain ⟨skipped, inTime, result, allTaken, lastFree⟩ :=
            inductionHypothesis (archive.skip 1)
          have shifted (count : Nat) :
              (archive.skip 1).nextSequence + count =
                archive.nextSequence + (count + 1) := by
            simp only [Archive.skip]
            omega
          refine ⟨skipped + 1, by omega, ?_, ?_, ?_⟩
          · rw [issueFree, issue_eq, if_pos taken, result]
            simp only [Archive.skip, Nat.add_assoc, Nat.add_comm 1]
          · intro earlier before
            cases earlier with
            | zero =>
                exact taken
            | succ earlier =>
                rw [← shifted]
                exact allTaken earlier (by omega)
          · intro attemptsLeft
            rw [← shifted]
            exact lastFree (by omega)

/--
A capture puts one snapshot of the given shapes at the end, under the id it
answers.
-/
theorem capture_after_snapshots
    (clock : Clock)
    (archive : Archive)
    (description : String)
    (shapes : List Shape) :
    let captured := archive.capture clock description shapes
    ∃ timestamp,
      captured.after.snapshots =
        archive.snapshots.push
          ⟨captured.answer, timestamp, description, shapes⟩ := by
  intro captured
  obtain ⟨skipped, -, result, -, -⟩ :=
    issueFree_eq_issue clock archive.size archive
  exact ⟨_, by simp only [captured, capture, result]; rfl⟩

/--
An aligned archive holds fewer texts than any longer row of sequence numbers.
-/
theorem Aligned.exists_free
    {archive : Archive}
    (aligned : archive.Aligned)
    (clock : Clock)
    (start : Nat) :
    ∃ offset,
      offset ≤ archive.size ∧
        archive.holds (clockedId clock (start + offset)).text = false := by
  by_contra allTaken
  push Not at allTaken
  let row :=
    (List.range (archive.size + 1)).map fun offset =>
      (clockedId clock (start + offset)).text
  have rowNodup : row.Nodup := by
    apply List.Nodup.map _ List.nodup_range
    intro first second sameText
    have sameSequence := clockedId_text_injective clock sameText
    omega
  have rowHeld : row ⊆ archive.texts := by
    intro text member
    obtain ⟨offset, inRow, rfl⟩ := List.mem_map.mp member
    rw [← aligned.holds_iff]
    have offsetBound := List.mem_range.mp inRow
    simpa using allTaken offset (by omega)
  have tooLong := (rowNodup.subperm rowHeld).length_le
  simp only [row, List.length_map, List.length_range,
    aligned.length_texts] at tooLong
  omega

/--
A capture puts its snapshot at the end, under the first free id from the next
sequence number on.
-/
theorem Aligned.capture_eq_push
    {archive : Archive}
    (aligned : archive.Aligned)
    (clock : Clock)
    (description : String)
    (shapes : List Shape) :
    ∃ skipped,
      skipped ≤ archive.size ∧
        (∀ earlier,
          earlier < skipped →
          archive.holds
            (clockedId clock (archive.nextSequence + earlier)).text = true) ∧
        archive.holds
          (clockedId clock (archive.nextSequence + skipped)).text = false ∧
        archive.capture clock description shapes =
          ⟨clockedId clock (archive.nextSequence + skipped),
            (archive.skip (skipped + 1)).push
              ⟨clockedId clock (archive.nextSequence + skipped),
                (clock (archive.nextSequence + skipped - 1)).timestamp,
                description, shapes⟩⟩ := by
  obtain ⟨skipped, inTime, result, allTaken, lastFree⟩ :=
    issueFree_eq_issue clock archive.size archive
  refine ⟨skipped, inTime, allTaken, ?_, ?_⟩
  · by_cases attemptsLeft : skipped < archive.size
    · exact lastFree attemptsLeft
    · obtain ⟨offset, inRow, free⟩ :=
        aligned.exists_free clock archive.nextSequence
      have isLast : offset = skipped := by
        by_contra notLast
        have taken := allTaken offset (by omega)
        rw [free] at taken
        cases taken
      exact isLast ▸ free
  · simp [capture, result, issue_eq, Archive.skip, Nat.add_assoc]

namespace Aligned

variable {archive : Archive}

/-- A capture keeps the alignment. -/
theorem capture
    (aligned : archive.Aligned)
    (clock : Clock)
    (description : String)
    (shapes : List Shape) :
    (archive.capture clock description shapes).after.Aligned := by
  obtain ⟨skipped, -, -, free, result⟩ :=
    aligned.capture_eq_push clock description shapes
  rw [result]
  exact (aligned.skip (skipped + 1)).push _ free

/-- An append keeps the alignment, whether it is refused or not. -/
theorem append
    (aligned : archive.Aligned)
    (snapshot : Snapshot) :
    (archive.append snapshot).after.Aligned := by
  cases taken : archive.holds snapshot.id.text with
  | true =>
      simpa [Archive.append, taken] using aligned
  | false =>
      simpa [Archive.append, taken] using aligned.push snapshot taken

end Aligned

end Storyboard.Archive
