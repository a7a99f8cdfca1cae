import Storyboard.Proofs.Script.Reached
import Storyboard.Proofs.Text.Lines

namespace Storyboard.Script

/-!
# Scripts that are put one behind the other

A run keeps nothing between two lines but the album, and the number of a line is
only written down.  A source that ends with a newline can therefore be run
together with the source behind it or before it: the album is the same, and the
report is the sum of the two reports, in which the faults of the second source
have moved down by the number of lines of the first.
-/

/-- The same line, further down by a number of lines. -/
def SourceLine.movedDown (count : Nat) (line : SourceLine) : SourceLine :=
  { line with number := line.number + count }

/-- The same fault in a line further down. -/
def Fault.movedDown (count : Nat) (fault : Fault) : Fault :=
  { fault with line := fault.line.movedDown count }

/-- What became of a line, said of the same line further down. -/
def LineResult.movedDown (count : Nat) (result : LineResult) : LineResult where
  line :=
    result.line.movedDown count
  result :=
    result.result.mapError (·.movedDown count)

/-- A source is empty or its last line is ended by a newline. -/
def Ended (source : String) : Prop :=
  source = "" ∨ ∃ before, source = before ++ "\n"

section Lines

variable
  (clock : Clock)
  (album : Album)

/-- The number of a line shows in its fault and nowhere else. -/
theorem executeLine_movedDown (count : Nat) (line : SourceLine) :
    executeLine clock album (line.movedDown count) =
      ⟨(executeLine clock album line).answer.mapError (·.movedDown count),
        (executeLine clock album line).after⟩ := by
  unfold executeLine SourceLine.read SourceLine.movedDown
  cases readLine line.text with
  | error problem =>
      rfl
  | ok asked =>
      cases asked with
      | none =>
          rfl
      | some command =>
          dsimp only
          cases (execute clock album command).answer <;> rfl

/-- Lines further down do what they did, and their results move with them. -/
theorem runLines_movedDown (count number : Nat) (texts : List String) :
    runLines clock album (number + count) texts =
      ⟨(runLines clock album number texts).answer.map (·.movedDown count),
        (runLines clock album number texts).after⟩ := by
  induction texts generalizing album number with
  | nil =>
      rfl
  | cons text rest inductionHypothesis =>
      have here := executeLine_movedDown clock album count ⟨number, text⟩
      have later :=
        inductionHypothesis (executeLine clock album ⟨number, text⟩).after
          (number + 1)
      rw [Nat.add_right_comm] at later
      simp only [SourceLine.movedDown] at here
      simp only [runLines, here, later, List.map_cons, LineResult.movedDown,
        SourceLine.movedDown]

/-- Lines behind other lines are run on the album that those leave. -/
theorem runLines_append (number : Nat) (first second : List String) :
    let earlier := runLines clock album number first
    let later := runLines clock earlier.after (number + first.length) second
    runLines clock album number (first ++ second) =
      ⟨earlier.answer ++ later.answer, later.after⟩ := by
  induction first generalizing album number with
  | nil =>
      rfl
  | cons text rest inductionHypothesis =>
      have later :=
        inductionHypothesis (executeLine clock album ⟨number, text⟩).after
          (number + 1)
      simp only [Nat.add_right_comm number 1] at later
      simp only [List.cons_append, runLines, later, List.length_cons,
        ← Nat.add_assoc]

end Lines

section Reports

/-- Moving a result down moves its fault down and counts it as before. -/
theorem counted_movedDown (count : Nat) (result : LineResult) :
    Report.isApplied (result.movedDown count) = Report.isApplied result ∧
      Report.isNoOp (result.movedDown count) = Report.isNoOp result ∧
      Report.fault? (result.movedDown count) =
        (Report.fault? result).map (·.movedDown count) := by
  unfold Report.isApplied Report.isNoOp Report.fault? LineResult.movedDown
  rcases result.result with fault | (_ | _ | _ | _) <;> exact ⟨rfl, rfl, rfl⟩

theorem ofResults_map_movedDown (count : Nat) (results : List LineResult) :
    Report.ofResults (results.map (·.movedDown count)) =
      let report := Report.ofResults results
      { report with faults := report.faults.map (·.movedDown count) } := by
  simp only [Report.ofResults, List.length_map, List.countP_map,
    List.filterMap_map, List.map_filterMap, Function.comp_def,
    counted_movedDown]

theorem ofResults_append (first second : List LineResult) :
    Report.ofResults (first ++ second) =
      let firstReport := Report.ofResults first
      let secondReport := Report.ofResults second
      ⟨firstReport.lines + secondReport.lines,
        firstReport.applied + secondReport.applied,
        firstReport.noOps + secondReport.noOps,
        firstReport.faults ++ secondReport.faults⟩ := by
  simp only [Report.ofResults, List.length_append, List.countP_append,
    List.filterMap_append]

end Reports

/-- Behind an ended source, the lines of another one begin anew. -/
theorem Ended.lines_append
    {first : String}
    (ended : Ended first)
    (second : String) :
    Text.lines (first ++ second) = Text.lines first ++ Text.lines second := by
  rcases ended with rfl | ⟨before, rfl⟩
  · rw [String.empty_append]
    rfl
  · exact Text.lines_newline_append before second

/--
The results of an ended source and of the source behind it, which are moved
down.
-/
theorem trace_append
    (clock : Clock)
    (album : Album)
    {first : String}
    (ended : Ended first)
    (second : String) :
    trace clock album (first ++ second) =
      ⟨(trace clock album first).answer ++
          (trace clock (trace clock album first).after second).answer.map
            (·.movedDown (Text.lines first).length),
        (trace clock (trace clock album first).after second).after⟩ := by
  simp only [trace, ended.lines_append, runLines_append, runLines_movedDown]

/--
Running an ended source and another one behind it as one source makes the album
that they make one after the other.  The report counts the lines of both, and
lists the faults of the first and then those of the second, whose line numbers
are increased by the number of lines of the first.
-/
theorem run_append
    (clock : Clock)
    (album : Album)
    {first : String}
    (ended : Ended first)
    (second : String) :
    let earlier := run clock album first
    let later := run clock earlier.after second
    let whole := run clock album (first ++ second)
    whole.after = later.after ∧
      whole.answer.lines = earlier.answer.lines + later.answer.lines ∧
      whole.answer.applied = earlier.answer.applied + later.answer.applied ∧
      whole.answer.noOps = earlier.answer.noOps + later.answer.noOps ∧
      whole.answer.faults =
        earlier.answer.faults ++
          later.answer.faults.map (·.movedDown (Text.lines first).length) := by
  intro earlier later whole
  have traced := trace_append clock album ended second
  simp only [whole, earlier, later, run, traced, ofResults_append,
    ofResults_map_movedDown, and_self]

/--
The first source ends in an empty line and has carriage returns; the second one
fails in its last line, which is not ended and is the sixth of both.
-/
theorem run_append_of_unended_second :
    let clock : Clock := fun _ => ⟨2024, 2, 29, 12, 0, 0, 0⟩
    let first := "shape Dot oval 1 2 3 4 5 6 7\r\nbogus\r\n\n"
    let second := "snapshot two\r\nmove Gone 1 2\nresize Dot 1 0"
    let earlier := run clock .empty first
    let later := run clock earlier.after second
    let whole := run clock .empty (first ++ second)
    (Ended first ∧ whole.answer.faults.map (·.line.number) = [2, 6]) ∧
      whole.after = later.after ∧
      whole.answer.lines = earlier.answer.lines + later.answer.lines ∧
      whole.answer.applied = earlier.answer.applied + later.answer.applied ∧
      whole.answer.noOps = earlier.answer.noOps + later.answer.noOps ∧
      whole.answer.faults =
        earlier.answer.faults ++
          later.answer.faults.map (·.movedDown (Text.lines first).length) := by
  intro clock first second
  have ended : Ended first :=
    .inr ⟨"shape Dot oval 1 2 3 4 5 6 7\r\nbogus\r\n", by decide +kernel⟩
  refine ⟨⟨ended, ?_⟩, run_append clock .empty ended second⟩
  decide +kernel

end Storyboard.Script
