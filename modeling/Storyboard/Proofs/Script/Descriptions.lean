import Storyboard.Proofs.Script.Productions
import Storyboard.Proofs.Text.Trimming

namespace Storyboard.Script

/-!
# Descriptions of snapshots

A line whose first word spells the keyword of snapshots is never refused.
Cutting the trimmed line behind that word leaves white space and the
description, which keeps all its words and the white space between them.  In the
other direction every trimmed text is the description of the lines that have it
behind the keyword, with any white space around both.
-/

section Reading

variable
  {text keyword : String}
  {arguments : List String}

theorem SourceLine.read_of_asks
    {line : SourceLine}
    {command : Command}
    (asks : Asks line.text command) :
    line.read = .ok (some command) :=
  (line.read_eq_ok_iff _).mpr (readLine_of_asks asks)

/--
Behind the first word of a trimmed line are white space, if anything, and the
other words.
-/
theorem trim_eq_first_append_behind
    (words : wordsOf text = keyword :: arguments) :
    ∃ behind, Text.trimChars text.toList = keyword.toList ++ behind ∧
      (Text.words behind).map .ofList = arguments ∧
      (∀ c ∈ behind.head?, Text.isBlank c = true) ∧ ∀ c ∈ behind.getLast?,
      Text.isBlank c = false := by
  obtain ⟨letters, others, hasWords, rfl, rfl⟩ := List.map_eq_cons_iff.mp words
  obtain ⟨behind, line, otherWords, divided⟩ :=
    Text.trimChars_eq_first_append_behind hasWords
  refine ⟨behind, by simpa using line, by rw [otherWords], divided, ?_⟩
  intro c isLast
  have trimmed := Text.isTrimmed_trimChars text.toList
  rw [line] at trimmed
  apply trimmed.last
  rw [List.getLast?_append, Option.mem_def, Option.or_eq_some_iff]
  exact .inl isLast

/--
A line that begins with the keyword of snapshots asks for one, whose description
is what stands behind the keyword without the white space before it.
-/
theorem asks_of_spells_snapshot
    (words : wordsOf text = keyword :: arguments)
    (isKeyword : Spells keyword "snapshot") :
    ∃ space description,
      Asks text (.snapshot description) ∧
        Text.trim text = keyword ++ (space ++ description) ∧
        Text.IsSpace space ∧
        (space = "" → description = "") ∧
        Text.IsTrimmed description.toList ∧
        wordsOf description = arguments := by
  obtain ⟨behind, line, otherWords, divided, ends⟩ :=
    trim_eq_first_append_behind words
  let space := behind.takeWhile Text.isBlank
  have whole : space ++ Text.trimChars behind = behind :=
    Text.takeWhile_append_trimChars ends
  refine ⟨.ofList space, .ofList (Text.trimChars behind),
    .snapshot words isKeyword line,
    ?split, ?space, ?undivided, ?trimmed, ?words⟩
  case split =>
    rw [Text.trim, line, ← String.ofList_append, whole, String.ofList_append,
      String.ofList_toList]
  case space =>
    intro c member
    rw [String.toList_ofList] at member
    exact List.mem_takeWhile_imp member
  case undivided =>
    intro noSpace
    have spaceEmpty : space = [] := by simpa using noSpace
    cases isBehind : behind with
    | nil =>
        rfl
    | cons c rest =>
        have isSpace : Text.isBlank c = true :=
          divided c (by rw [isBehind]; rfl)
        simp [space, isBehind, isSpace] at spaceEmpty
  case trimmed =>
    rw [String.toList_ofList]
    exact Text.isTrimmed_trimChars behind
  case words =>
    rw [wordsOf, String.toList_ofList, Text.words_trimChars, otherWords]

/--
A trimmed text with white space around it and the keyword before it is asked
for.
-/
theorem asks_snapshot_append
    {leading gap description trailing : String}
    (leadingSpace : Text.IsSpace leading)
    (isKeyword : Spells keyword "snapshot")
    (divided : gap ≠ "")
    (gapSpace : Text.IsSpace gap)
    (trimmed : Text.trim description = description)
    (trailingSpace : Text.IsSpace trailing) :
    Asks (leading ++ keyword ++ gap ++ description ++ trailing)
      (.snapshot description) := by
  have isSnapshot : Text.IsWord "snapshot" := by decide
  have isWord : Text.IsWord keyword := isSnapshot.of_lowered isKeyword
  let rest := gap.toList ++ description.toList
  have letters :
      (leading ++ keyword ++ gap ++ description ++ trailing).toList =
        leading.toList ++ (keyword.toList ++ rest ++ trailing.toList) := by
    simp [rest, String.toList_append]
  have words :
      wordsOf (leading ++ keyword ++ gap ++ description ++ trailing) =
        keyword :: wordsOf description := by
    rw [wordsOf, letters, Text.words_append_of_isBlank_left leadingSpace,
      Text.words_append_of_isBlank_right _ trailingSpace,
      isWord.words_append_space divided gapSpace]
    simp [wordsOf]
  obtain ⟨behind, line, sameTrimmed⟩ := isWord.trimChars_append rest
  have asks : Asks (leading ++ keyword ++ gap ++ description ++ trailing)
      (.snapshot (.ofList (Text.trimChars behind))) := by
    apply Asks.snapshot words isKeyword
    rw [letters, Text.trimChars_append_left leadingSpace,
      Text.trimChars_append_right _ trailingSpace, line]
  have isDescription : String.ofList (Text.trimChars behind) = description := by
    rw [sameTrimmed, Text.trimChars_append_left gapSpace]
    exact trimmed
  rwa [isDescription] at asks

end Reading

/--
A line whose first word is the keyword of snapshots in any letter case is read
as a snapshot: behind that word the trimmed line has a character boundary, and
what stands there is white space, which is missing only if the description is
empty, and the description, which neither begins nor ends with white space and
has the other words of the line.  Conversely, every text that trimming leaves
alone is the description that is read where it stands between white space behind
the keyword.
-/
theorem description_keeps_rest_of_line :
    (∀ (line : SourceLine) (keyword : String) (arguments : List String),
      wordsOf line.text = keyword :: arguments →
      Spells keyword "snapshot" →
      ∃ (boundary : (Text.trim line.text).Pos) (space description : String),
        line.read = .ok (some (.snapshot description)) ∧
          boundary.Splits keyword (space ++ description) ∧
          Text.IsSpace space ∧
          (space = "" → description = "") ∧
          Text.IsTrimmed description.toList ∧
          wordsOf description = arguments) ∧
    ∀ (number : Nat) (leading keyword gap description trailing : String),
      Text.IsSpace leading →
      Spells keyword "snapshot" →
      gap ≠ "" →
      Text.IsSpace gap →
      Text.trim description = description →
      Text.IsSpace trailing →
      SourceLine.read
        ⟨number, leading ++ keyword ++ gap ++ description ++ trailing⟩ =
        .ok (some (.snapshot description)) := by
  constructor
  · intro line keyword arguments words isKeyword
    obtain ⟨space, description, asks, split, kept⟩ :=
      asks_of_spells_snapshot words isKeyword
    have isBoundary : keyword.rawEndPos.IsValid (Text.trim line.text) :=
      String.Pos.Raw.isValid_iff_exists_append.mpr ⟨_, _, split, rfl⟩
    exact ⟨⟨_, isBoundary⟩, space, description, SourceLine.read_of_asks asks,
      ⟨split, rfl⟩, kept⟩
  · intro number leading keyword gap description trailing leadingSpace
      isKeyword divided
      gapSpace trimmed trailingSpace
    exact SourceLine.read_of_asks
      (asks_snapshot_append leadingSpace isKeyword divided gapSpace trimmed
        trailingSpace)

/--
White space of several bytes, and a description like a comment with a command in
it.
-/
theorem description_behind_wide_space :
    let leading := "\u3000"
    let keyword := "SnapShot"
    let gap := "\u00A0\t"
    let description := "# after  clear all"
    let trailing := "\u2003"
    let line : SourceLine :=
      ⟨7, leading ++ keyword ++ gap ++ description ++ trailing⟩
    line.read = .ok (some (.snapshot description)) ∧
      ∃ (boundary : (Text.trim line.text).Pos) (space : String),
        boundary.Splits keyword (space ++ description) ∧
          wordsOf description = ["#", "after", "clear", "all"] := by
  intro leading keyword gap description trailing line
  obtain ⟨cut, kept⟩ := description_keeps_rest_of_line
  have isKeyword : Spells keyword "snapshot" := by
    rw [Spells]
    decide
  have allSpace :
      Text.IsSpace leading ∧ Text.IsSpace gap ∧ Text.IsSpace trailing := by
    decide
  have divided : gap ≠ "" := by
    decide
  have trimmed : Text.trim description = description := by
    decide +kernel
  have isRead : line.read = .ok (some (.snapshot description)) :=
    kept 7 leading keyword gap description trailing allSpace.1 isKeyword divided
      allSpace.2.1 trimmed allSpace.2.2
  have words :
      wordsOf line.text = keyword :: ["#", "after", "clear", "all"] := by
    decide +kernel
  obtain ⟨boundary, space, found, isFound, split, -, -, -, otherWords⟩ :=
    cut line keyword _ words isKeyword
  rw [isRead] at isFound
  cases isFound
  exact ⟨isRead, boundary, space, split, otherWords⟩

end Storyboard.Script
