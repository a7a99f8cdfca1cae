import Storyboard.Proofs.Script.Atomicity
import Storyboard.Proofs.Text.Lines

namespace Storyboard.Script

/-!
# Scripts without the lines that did nothing

A line that is not carried out leaves the album as it was, so it has no
influence on the fate of any later line.  Such lines can be deleted from a
source in any number: what is left of the source makes the same album, and if
all of them are deleted, every line that is left is carried out.

Putting lines together again may lose a carriage return at the end of a line and
an empty last line.  Neither matters to the command that a line asks for.
-/

/-- A source that consists of the lines of some results. -/
def sourceOf (results : List LineResult) : String :=
  Text.joinLines (results.map (·.line.text))

section Commands

theorem command?_eq_of_trimChars_eq
    {first second : String}
    (sameTrimmed :
      Text.trimChars first.toList = Text.trimChars second.toList) :
    command? first = command? second := by
  simp only [command?, readLine, sameTrimmed]

/-- A carriage return at its end does not change what a line asks for. -/
theorem command?_dropReturn (text : String) :
    command? (.ofList (Text.dropReturn text.toList)) = command? text := by
  apply command?_eq_of_trimChars_eq
  rw [String.toList_ofList, Text.trimChars_dropReturn]

/-- Lines that are put together ask for the same commands in the same order. -/
theorem filterMap_command?_lines_joinLines
    {texts : List String}
    (noNewline : ∀ text ∈ texts, '\n' ∉ text.toList) :
    (Text.lines (Text.joinLines texts)).filterMap command? =
      texts.filterMap command? := by
  cases texts using List.reverseRecOn with
  | nil =>
      rfl
  | append_singleton before last =>
      have emptyAsksNothing : command? "" = none := rfl
      rw [Text.lines_joinLines_concat noNewline, List.filterMap_append,
        List.filterMap_append, List.filterMap_map]
      simp only [Function.comp_def, command?_dropReturn]
      split
      · rename_i isEmpty
        simp [isEmpty, emptyAsksNothing]
      · rfl

/--
If every line asks for a command, no line is lost when they are put together.
-/
theorem map_command?_lines_joinLines
    {texts : List String}
    (noNewline : ∀ text ∈ texts, '\n' ∉ text.toList)
    (asking : ∀ text ∈ texts, command? text ≠ none) :
    (Text.lines (Text.joinLines texts)).map command? = texts.map command? := by
  cases texts using List.reverseRecOn with
  | nil =>
      rfl
  | append_singleton before last =>
      have notEmpty : last ≠ "" := by
        rintro rfl
        exact asking "" (by simp) rfl
      rw [Text.lines_joinLines_concat noNewline, if_neg notEmpty]
      simp [Function.comp_def, command?_dropReturn]

/-- The album after a run is made by the commands of its lines alone. -/
theorem runLines_after_eq_foldl
    (clock : Clock)
    (album : Album)
    (number : Nat)
    (texts : List String) :
    (runLines clock album number texts).after =
      (texts.filterMap command?).foldl
        (fun album command => (execute clock album command).after) album := by
  rw [runLines_after, List.foldl_map, List.foldl_filterMap]
  congr 1
  funext album text
  cases command? text <;> rfl

end Commands

section Results

variable
  {clock : Clock}
  {album : Album}

/-- The report counts a line as applied exactly if it was carried out. -/
theorem isApplied_iff (result : LineResult) :
    Report.isApplied result = true ↔ CarriedOut result.result := by
  unfold Report.isApplied CarriedOut
  cases result.result with
  | error fault =>
      simp
  | ok outcome =>
      cases outcome <;> simp

/-- A line is carried out exactly if it asks for a command that is. -/
theorem carriedOut_executeLine_iff (line : SourceLine) :
    CarriedOut (executeLine clock album line).answer ↔
      ∃ command,
        command? line.text = some command ∧
          CarriedOut (execute clock album command).answer := by
  cases asked : command? line.text with
  | some command =>
      unfold executeLine
      rw [SourceLine.read_of_command? asked]
      cases executed : (execute clock album command).answer <;>
        simp [CarriedOut, Except.mapError, executed]
  | none =>
      unfold command? at asked
      unfold executeLine SourceLine.read
      cases accepted : readLine line.text with
      | error problem =>
          simp [CarriedOut]
      | ok command =>
          rw [accepted] at asked
          obtain rfl : command = none := asked
          simp [CarriedOut]

theorem isApplied_resultOf_congr
    {first second : SourceLine}
    (sameCommand : command? first.text = command? second.text) :
    Report.isApplied (resultOf clock album first) =
      Report.isApplied (resultOf clock album second) := by
  rw [Bool.eq_iff_iff]
  simp only [isApplied_iff, resultOf, carriedOut_executeLine_iff, sameCommand]

/-- A line that is not applied leaves the album as it was. -/
theorem after_executeLine_of_not_applied
    {line : SourceLine}
    (notApplied : Report.isApplied (resultOf clock album line) = false) :
    (executeLine clock album line).after = album := by
  apply allOrNothing_executeLine clock album line
  intro carriedOut
  have applied := (isApplied_iff (resultOf clock album line)).mpr carriedOut
  rw [notApplied] at applied
  cases applied

theorem exists_resultOf_of_mem_runLines
    {number : Nat}
    {texts : List String}
    {result : LineResult}
    (member : result ∈ (runLines clock album number texts).answer) :
    ∃ before, result = resultOf clock before result.line := by
  induction texts generalizing album number with
  | nil =>
      cases member
  | cons text rest inductionHypothesis =>
      rcases List.mem_cons.mp member with rfl | later
      · exact ⟨album, rfl⟩
      · exact inductionHypothesis later

/-- A line that was applied asks for a command. -/
theorem command?_ne_none_of_applied
    {number : Nat}
    {texts : List String}
    {result : LineResult}
    (member : result ∈ (runLines clock album number texts).answer)
    (applied : Report.isApplied result = true) :
    command? result.line.text ≠ none := by
  obtain ⟨before, isResult⟩ := exists_resultOf_of_mem_runLines member
  rw [isResult, isApplied_iff, resultOf, carriedOut_executeLine_iff] at applied
  obtain ⟨command, asked, -⟩ := applied
  rw [asked]
  nofun

/-- The report of a run in which every line was applied. -/
theorem ofResults_of_applied
    {results : List LineResult}
    (applied : ∀ result ∈ results, Report.isApplied result = true) :
    Report.ofResults results = ⟨results.length, results.length, 0, []⟩ := by
  have noNoOp : results.countP Report.isNoOp = 0 := by
    rw [List.countP_eq_zero]
    intro result member isNoOp
    have carriedOut := (isApplied_iff result).mp (applied result member)
    unfold Report.isNoOp at isNoOp
    obtain done | ⟨id, description, captured⟩ := carriedOut
    · simp [done] at isNoOp
    · simp [captured] at isNoOp
  have noFault : results.filterMap Report.fault? = [] := by
    rw [List.filterMap_eq_nil_iff]
    intro result member
    have carriedOut := (isApplied_iff result).mp (applied result member)
    unfold Report.fault?
    obtain done | ⟨id, description, captured⟩ := carriedOut
    · rw [done]
    · rw [captured]
  rw [Report.ofResults, noNoOp, noFault, List.countP_eq_length.mpr applied]

end Results

section Runs

variable
  (clock : Clock)
  (album : Album)
  (number : Nat)
  (texts : List String)

/--
Lines that are kept from a run, all applied ones among them, make its album.
-/
theorem foldl_executeOptional_filter
    {keeps : LineResult → Bool}
    (keepsApplied :
      ∀ result, Report.isApplied result = true → keeps result = true) :
    (((runLines clock album number texts).answer.filter keeps).map
        (command? ·.line.text)).foldl (executeOptional clock) album =
      (runLines clock album number texts).after := by
  induction texts generalizing album number with
  | nil =>
      rfl
  | cons text rest inductionHypothesis =>
      let line : SourceLine := ⟨number, text⟩
      rw [answer_runLines_cons, after_runLines_cons, ← inductionHypothesis]
      cases kept : keeps (resultOf clock album line) with
      | true =>
          rw [List.filter_cons_of_pos kept, List.map_cons, List.foldl_cons,
            executeLine_after]
          rfl
      | false =>
          have notApplied :
              Report.isApplied (resultOf clock album line) = false := by
            by_contra applied
            rw [Bool.not_eq_false] at applied
            rw [keepsApplied _ applied] at kept
            cases kept
          rw [List.filter_cons_of_neg (Bool.eq_false_iff.mp kept),
            after_executeLine_of_not_applied notApplied]

/--
The lines that were applied in a run are applied again when only they are run,
because both runs are on one album before each of these lines.
-/
theorem applied_runLines_of_map_eq
    {others : List String}
    (sameCommands :
      others.map command? =
        ((runLines clock album number texts).answer.filter
          Report.isApplied).map (command? ·.line.text))
    (first : Nat) :
    ∀ result ∈ (runLines clock album first others).answer,
      Report.isApplied result = true := by
  induction texts generalizing album number others first with
  | nil =>
      rw [List.map_eq_nil_iff.mp sameCommands]
      nofun
  | cons text rest inductionHypothesis =>
      let line : SourceLine := ⟨number, text⟩
      rw [answer_runLines_cons] at sameCommands
      cases applied : Report.isApplied (resultOf clock album line) with
      | true =>
          rw [List.filter_cons_of_pos applied, List.map_cons,
            List.map_eq_cons_iff] at sameCommands
          obtain ⟨other, later, rfl, sameCommand, sameLater⟩ := sameCommands
          let otherLine : SourceLine := ⟨first, other⟩
          have sameAlbum :
              (executeLine clock album otherLine).after =
                (executeLine clock album line).after := by
            rw [executeLine_after, executeLine_after]
            exact congrArg (executeOptional clock album) sameCommand
          have otherApplied :
              Report.isApplied (resultOf clock album otherLine) = true := by
            rw [← applied]
            exact isApplied_resultOf_congr sameCommand
          rw [answer_runLines_cons, List.forall_mem_cons, sameAlbum]
          exact ⟨otherApplied, inductionHypothesis _ _ sameLater _⟩
      | false =>
          rw [List.filter_cons_of_neg (Bool.eq_false_iff.mp applied),
            after_executeLine_of_not_applied applied] at sameCommands
          exact inductionHypothesis _ _ sameCommands first

/-- The album that the lines of some results make when they are put together. -/
theorem run_sourceOf_after
    {results : List LineResult}
    (noNewline : ∀ result ∈ results, '\n' ∉ result.line.text.toList) :
    (run clock album (sourceOf results)).after =
      (results.map (command? ·.line.text)).foldl
        (executeOptional clock) album := by
  have noNewlineInTexts :
      ∀ text ∈ results.map (·.line.text), '\n' ∉ text.toList :=
    List.forall_mem_map.mpr noNewline
  rw [run, trace, sourceOf]
  calc
    (runLines clock album 1
          (Text.lines (Text.joinLines (results.map (·.line.text))))).after =
        (runLines clock album 1 (results.map (·.line.text))).after := by
      rw [runLines_after_eq_foldl, runLines_after_eq_foldl,
        filterMap_command?_lines_joinLines noNewlineInTexts]
    _ = (results.map (command? ·.line.text)).foldl
          (executeOptional clock) album := by
      rw [runLines_after, List.map_map, Function.comp_def]

/-- The report on lines that are all applied when they are put together. -/
theorem run_sourceOf_answer
    {kept : List LineResult}
    (sameCommands :
      (Text.lines (sourceOf kept)).map command? =
        kept.map (command? ·.line.text))
    (applied :
      ∀ result ∈ (trace clock album (sourceOf kept)).answer,
        Report.isApplied result = true) :
    (run clock album (sourceOf kept)).answer =
      ⟨kept.length, kept.length, 0, []⟩ := by
  have sameLength :
      (trace clock album (sourceOf kept)).answer.length = kept.length := by
    rw [trace, length_answer_runLines, ← List.length_map command?, sameCommands,
      List.length_map]
  rw [run, ofResults_of_applied applied, sameLength]

/-- No line of a run holds a newline. -/
theorem newline_notMem_of_mem_trace
    {source : String}
    {result : LineResult}
    (member : result ∈ (trace clock album source).answer) :
    '\n' ∉ result.line.text.toList := by
  have isLine : result.line.text ∈ Text.lines source := by
    rw [← map_text_runLines clock album 1 (Text.lines source)]
    exact List.mem_map.mpr ⟨result, member, rfl⟩
  exact Text.newline_notMem_of_mem_lines isLine

end Runs

/--
Running only some lines of a source, all that were carried out among them, makes
the album that the whole source makes.  If no others are among them, every line
is applied again and the report lists nothing else.
-/
theorem run_sourceOf_filter (clock : Clock) (album : Album) (source : String) :
    let results := (trace clock album source).answer
    let kept := results.filter Report.isApplied
    let pruned := run clock album (sourceOf kept)
    results.map (·.line.text) = Text.lines source ∧
      pruned.after = (run clock album source).after ∧
      pruned.answer = ⟨kept.length, kept.length, 0, []⟩ ∧
      ∀ spares : LineResult → Bool,
        let partly :=
          results.filter fun result => Report.isApplied result || spares result
        (run clock album (sourceOf partly)).after =
          (run clock album source).after := by
  intro results kept pruned
  have noNewline
      (keeps : LineResult → Bool) :
      ∀ result ∈ results.filter keeps, '\n' ∉ result.line.text.toList := by
    intro result isKept
    exact newline_notMem_of_mem_trace clock album
      (List.mem_of_mem_filter isKept)
  have sameAlbum
      (keeps : LineResult → Bool)
      (keepsApplied :
        ∀ result, Report.isApplied result = true → keeps result = true) :
      (run clock album (sourceOf (results.filter keeps))).after =
        (run clock album source).after := by
    rw [run_sourceOf_after clock album (noNewline keeps)]
    exact foldl_executeOptional_filter clock album 1 (Text.lines source)
      keepsApplied
  have sameCommands :
      (Text.lines (sourceOf kept)).map command? =
        kept.map (command? ·.line.text) := by
    rw [sourceOf, map_command?_lines_joinLines, List.map_map, Function.comp_def]
    · exact List.forall_mem_map.mpr (noNewline Report.isApplied)
    · intro text member
      obtain ⟨result, isKept, rfl⟩ := List.mem_map.mp member
      obtain ⟨isResult, applied⟩ := List.mem_filter.mp isKept
      exact command?_ne_none_of_applied isResult applied
  have allApplied :
      ∀ result ∈ (trace clock album (sourceOf kept)).answer,
        Report.isApplied result = true :=
    applied_runLines_of_map_eq clock album 1 (Text.lines source) sameCommands 1
  refine ⟨?_, ?_, ?_, ?_⟩
  · exact map_text_runLines clock album 1 (Text.lines source)
  · exact sameAlbum Report.isApplied fun _ applied => applied
  · exact run_sourceOf_answer clock album sameCommands allApplied
  · intro spares partly
    exact sameAlbum _ fun result applied => by simp [applied]

end Storyboard.Script
