import Storyboard.Proofs.Report.ListingFormat
import Storyboard.Proofs.Script.Rewriting
import Storyboard.Proofs.Snapshot.ClockText

namespace Storyboard.Script

/-!
# Listings of what scripts leave

A listing can be read if no text in it holds a newline.  Nothing but the
splitting of a source into lines sees to that: a description is a part of its
line and a name is a word of one, and all other texts are made of numbers.  The
listing of what scripts leave is therefore never ambiguous, whatever a
description looks like.
-/

/-- Sources that are run one after the other are run as all their lines. -/
theorem runAll_eq_albumAfter (clock : Clock) (sources : List String) :
    runAll clock .empty sources =
      albumAfter clock (sources.flatMap Text.lines) := by
  induction sources using List.reverseRecOn with
  | nil =>
      rfl
  | append_singleton sources source inductionHypothesis =>
      have further :
          runAll clock .empty (sources ++ [source]) =
            (run clock (runAll clock .empty sources) source).after := by
        rw [runAll, List.foldl_append]
        rfl
      have linesAfter (album : Album) :
          (run clock album source).after =
            ((Text.lines source).map command?).foldl
              (executeOptional clock) album :=
        runLines_after clock album 1 (Text.lines source)
      rw [further, inductionHypothesis, linesAfter, albumAfter, albumAfter,
        runLines_after, runLines_after, List.flatMap_append, List.map_append,
        List.foldl_append, List.flatMap_singleton]

theorem newline_notMem_of_mem_flatMap_lines
    {sources : List String}
    {text : String}
    (member : text ∈ sources.flatMap Text.lines) :
    '\n' ∉ text.toList := by
  rcases List.mem_flatMap.mp member with ⟨source, -, isLine⟩
  exact Text.newline_notMem_of_mem_lines isLine

/--
The description of a snapshot is what stands behind the keyword in its line,
trimmed.
-/
theorem exists_behind_of_capturedIn?
    {text description : String}
    (captured : capturedIn? text = some description) :
    ∃ keyword behind,
      Text.trimChars text.toList = keyword ++ behind ∧
        description.toList = Text.trimChars behind := by
  rcases Option.bind_eq_some_iff.mp captured with ⟨command, asked, described⟩
  cases asks_of_command? asked with
  | snapshot words isKeyword line =>
      cases described
      exact ⟨_, _, line, String.toList_ofList⟩
  | shape | move | color | resize | remove | clear | clearTarget =>
      cases described

/-- The description of a snapshot is a part of the line that takes it. -/
theorem mem_line_of_mem_description
    {text description : String}
    (captured : capturedIn? text = some description)
    {c : Char}
    (member : c ∈ description.toList) :
    c ∈ text.toList := by
  obtain ⟨keyword, behind, line, isBehind⟩ :=
    exists_behind_of_capturedIn? captured
  rw [isBehind] at member
  apply Text.mem_of_mem_trimChars
  rw [line]
  exact List.mem_append_right _ (Text.mem_of_mem_trimChars member)

/--
What is left behind was issued from a clock reading and described in a line.
-/
theorem exists_of_leftBehind?_eq_some
    {clock : Clock}
    {texts : List String}
    {position : Nat}
    {snapshot : Snapshot}
    (left : leftBehind? clock texts position = some snapshot) :
    ∃ text ∈ texts, ∃ sequence instant,
      capturedIn? text = some snapshot.description ∧
        snapshot.id = .issuedAt sequence instant ∧
        snapshot.timestamp = instant.timestamp ∧
        snapshot.shapes =
          (albumAfter clock (texts.take position)).scene.shapes := by
  unfold leftBehind? at left
  split at left
  · cases left
  · rename_i description found
    rcases Option.bind_eq_some_iff.mp found with ⟨text, isText, captured⟩
    split at left
    · cases left
    · cases left
      exact ⟨text, List.mem_of_getElem? isText, _, _, captured, rfl, rfl, rfl⟩

section Left

variable
  {clock : Clock}
  {sources : List String}
  {snapshot : Snapshot}

theorem exists_leftBehind?_of_mem
    (member :
      snapshot ∈ (runAll clock .empty sources).archive.snapshots.toList) :
    ∃ position, leftBehind? clock (sources.flatMap Text.lines) position =
      some snapshot := by
  rw [runAll_eq_albumAfter, (archive_albumAfter clock _).1, List.mem_filterMap]
    at member
  rcases member with ⟨position, -, left⟩
  exact ⟨position, left⟩

/-- The shapes of whatever scripts leave have words for names. -/
theorem isWord_name_of_mem
    (member :
      snapshot ∈ (runAll clock .empty sources).archive.snapshots.toList) :
    ∀ shape ∈ snapshot.shapes, Text.IsWord shape.name := by
  rcases exists_leftBehind?_of_mem member with ⟨position, left⟩
  rcases exists_of_leftBehind?_eq_some left with ⟨-, -, -, -, -, -, -, isScene⟩
  have reached :
      Reached clock
        (albumAfter clock ((sources.flatMap Text.lines).take position)) :=
    Reached.fresh.runLines 1 _
  rw [isScene]
  exact reached.isWord_name

/-- Whatever scripts leave can be listed without ambiguity. -/
theorem unbroken_of_mem
    (member :
      snapshot ∈ (runAll clock .empty sources).archive.snapshots.toList) :
    Report.Unbroken snapshot := by
  rcases exists_leftBehind?_of_mem member with ⟨position, left⟩
  rcases exists_of_leftBehind?_eq_some left with
    ⟨text, isLine, sequence, instant, captured, isId, isTimestamp, -⟩
  have onOneLine : '\n' ∉ text.toList :=
    newline_notMem_of_mem_flatMap_lines isLine
  constructor
  · rw [isId]
    exact Instant.newline_notMem_text_issuedAt sequence instant
  · rw [isTimestamp]
    exact (instant.notMem_idText_timestamp (by decide) (by decide)).2
  · intro inDescription
    exact onOneLine (mem_line_of_mem_description captured inDescription)
  · exact fun shape isShape =>
      (isWord_name_of_mem member shape isShape).newline_notMem

/-- The ids that scripts leave are known from their texts. -/
theorem ofText_text_of_mem
    (member :
      snapshot ∈ (runAll clock .empty sources).archive.snapshots.toList) :
    SnapshotId.ofText snapshot.id.text = snapshot.id := by
  rcases exists_leftBehind?_of_mem member with ⟨position, left⟩
  rcases exists_of_leftBehind?_eq_some left with
    ⟨-, -, sequence, instant, -, isId, -⟩
  rw [isId, SnapshotId.ofText_text_issuedAt]

end Left

/-- The ids of the snapshots that scripts leave can be read from the listing. -/
theorem map_id_eq_map_entriesOf (clock : Clock) (sources : List String) :
    let archive := (runAll clock .empty sources).archive
    archive.snapshots.toList.map (·.id) =
      (Report.entriesOf archive).map fun entry => .ofText entry.id := by
  intro archive
  rw [Report.entriesOf, List.map_map]
  exact List.map_congr_left fun snapshot member =>
    (ofText_text_of_mem member).symm

/--
The listing of what scripts leave can be read: its entries are found again from
its text.  So two such listings are equal exactly if they list equally many
snapshots with equal ids, timestamps and descriptions, whose shapes are of equal
names and kinds, with positions, sizes and channels that are printed alike, all
in one order.
-/
theorem listing_runAll_eq_iff :
    (∀ clock sources,
      let archive := (runAll clock .empty sources).archive
      Report.readListing? (Report.listing archive) =
        some (Report.entriesOf archive)) ∧
      ∀ (firstClock secondClock : Clock)
        (firstSources secondSources : List String),
        let first := (runAll firstClock .empty firstSources).archive
        let second := (runAll secondClock .empty secondSources).archive
        Report.listing first = Report.listing second ↔
          first.size = second.size ∧
            first.snapshots.toList.map (·.id) =
              second.snapshots.toList.map (·.id) ∧
            Report.entriesOf first = Report.entriesOf second := by
  have readable (clock : Clock) (sources : List String) :
      let archive := (runAll clock .empty sources).archive
      Report.readListing? (Report.listing archive) =
        some (Report.entriesOf archive) :=
    Report.readListing?_listing fun _ member => unbroken_of_mem member
  refine ⟨readable, fun firstClock secondClock firstSources secondSources => ?_⟩
  intro first second
  constructor
  · intro sameListing
    have same : Report.entriesOf first = Report.entriesOf second := by
      rw [← Option.some_inj, ← readable, sameListing, readable]
    refine ⟨?_, ?_, same⟩
    · rw [← Report.length_entriesOf, same, Report.length_entriesOf]
    · rw [map_id_eq_map_entriesOf, map_id_eq_map_entriesOf]
      exact congrArg _ same
  · rintro ⟨-, -, same⟩
    exact Report.listing_eq_of_entriesOf_eq same

end Storyboard.Script
