import Storyboard.Proofs.Script.IssuedIds

namespace Storyboard

/-!
# Scripts under another clock

A script asks for nothing that depends on the clock but the stamps of its
snapshots.  The one place where the clock could tell is a capture, which passes
over ids that are held: but an archive that only scripts have filled holds its
own ids only, so a capture never passes over one.  Two runs under two clocks
therefore stay in step line by line, and the second is the first with other
stamps.
-/

/-- The same snapshot with the id and the timestamp that a clock gives it. -/
def Snapshot.stampedBy (clock : Clock) (snapshot : Snapshot) : Snapshot :=
  { snapshot with
    id := Archive.clockedId clock snapshot.id.sequence
    timestamp := (clock (snapshot.id.sequence - 1)).timestamp }

/-- A second album is a first one whose snapshots a clock has stamped anew. -/
structure Album.StampedBy
    (clock : Clock)
    (first second : Album) : Prop where
  scene_eq :
    second.scene = first.scene
  nextSequence_eq :
    second.archive.nextSequence = first.archive.nextSequence
  snapshots_eq :
    second.archive.snapshots =
      first.archive.snapshots.map (·.stampedBy clock)

namespace Script

/-- The same outcome with the id that a clock gives to a captured snapshot. -/
def Outcome.stampedBy (clock : Clock) : Outcome → Outcome
  | .captured id description =>
      .captured (Archive.clockedId clock id.sequence) description
  | outcome => outcome

/-- The same line with its outcome stamped by a clock. -/
def LineResult.stampedBy (clock : Clock) (result : LineResult) : LineResult :=
  { result with result := result.result.map (·.stampedBy clock) }

/-- The reports of sources that are run one after the other. -/
def reports (clock : Clock) (album : Album) : List String → List Report
  | [] => []
  | source :: rest =>
      let first := run clock album source
      first.answer :: reports clock first.after rest

/--
A second change answers and leaves what a first one does, but for the stamps.
-/
structure InStep
    {Cause : Type}
    (clock : Clock)
    (first second : Change Album (Except Cause Outcome)) : Prop where
  answer_eq :
    second.answer = first.answer.map (·.stampedBy clock)
  after_stamped :
    first.after.StampedBy clock second.after

variable
  {firstClock secondClock : Clock}
  {first second : Album}

/-- A change of the scene that captures nothing goes in step. -/
theorem inStep_inScene
    (stamped : first.StampedBy secondClock second)
    (change : Change Scene (Except Refusal α))
    {outcome : α → Outcome}
    (notCaptured :
      ∀ value, (outcome value).stampedBy secondClock = outcome value) :
    InStep secondClock
      (inScene first change outcome) (inScene second change outcome) where
  answer_eq := by
    unfold inScene
    cases change.answer with
    | error refusal =>
        rfl
    | ok value =>
        exact congrArg Except.ok (notCaptured value).symm
  after_stamped :=
    ⟨rfl, stamped.nextSequence_eq, stamped.snapshots_eq⟩

theorem stampedBy_ofFound (clock : Clock) (command : Command) (found : Bool) :
    (Outcome.ofFound command found).stampedBy clock =
      Outcome.ofFound command found := by
  cases found <;> rfl

/-- A snapshot goes in step where no archive holds a foreign id. -/
theorem inStep_snapshot
    (stamped : first.StampedBy secondClock second)
    (firstReached : Reached firstClock first)
    (secondReached : Reached secondClock second)
    (description : String) :
    InStep secondClock
      (execute firstClock first (.snapshot description))
      (execute secondClock second (.snapshot description)) := by
  obtain ⟨firstAligned, firstOwn⟩ := firstReached.archive_own
  obtain ⟨secondAligned, secondOwn⟩ := secondReached.archive_own
  have firstCaptured :=
    firstOwn.capture_eq firstAligned description first.scene.shapes
  have secondCaptured :=
    secondOwn.capture_eq secondAligned description second.scene.shapes
  rw [stamped.nextSequence_eq] at secondCaptured
  constructor
  · simp only [execute, Album.snapshot, firstCaptured, secondCaptured]
    rfl
  · simp only [execute, Album.snapshot, firstCaptured, secondCaptured]
    refine ⟨stamped.scene_eq, ?_, ?_⟩
    · simp only [Archive.push, Archive.skip, stamped.nextSequence_eq]
    · simp only [Archive.push, Archive.skip, stamped.snapshots_eq,
        stamped.scene_eq, Array.map_push]
      rfl

/-- Every command goes in step. -/
theorem inStep_execute
    (stamped : first.StampedBy secondClock second)
    (firstReached : Reached firstClock first)
    (secondReached : Reached secondClock second)
    (command : Command) :
    InStep secondClock
      (execute firstClock first command)
      (execute secondClock second command) := by
  have sameScene := stamped.scene_eq
  cases command with
  | shape name kind position firstSize secondSize red green blue =>
      simp only [execute, sameScene]
      cases Color.ofChannels red green blue with
      | error refusal =>
          exact ⟨rfl, stamped⟩
      | ok color =>
          exact inStep_inScene stamped _ fun _ => rfl
  | move | color | resize =>
      simp only [execute, sameScene]
      exact inStep_inScene stamped _ (stampedBy_ofFound secondClock _)
  | remove name =>
      simp only [execute, sameScene]
      constructor
      · exact congrArg Except.ok (stampedBy_ofFound secondClock _ _).symm
      · exact ⟨rfl, stamped.nextSequence_eq, stamped.snapshots_eq⟩
  | snapshot description =>
      exact inStep_snapshot stamped firstReached secondReached description
  | clear target =>
      cases target with
      | snapshots =>
          exact ⟨rfl, sameScene, stamped.nextSequence_eq, Array.map_empty.symm⟩
      | shapes =>
          exact ⟨rfl, rfl, stamped.nextSequence_eq, stamped.snapshots_eq⟩
      | all =>
          exact ⟨rfl, rfl, stamped.nextSequence_eq, Array.map_empty.symm⟩

/-- Every line goes in step. -/
theorem inStep_executeLine
    (stamped : first.StampedBy secondClock second)
    (firstReached : Reached firstClock first)
    (secondReached : Reached secondClock second)
    (line : SourceLine) :
    InStep secondClock
      (executeLine firstClock first line)
      (executeLine secondClock second line) := by
  unfold executeLine
  cases line.read with
  | error fault =>
      exact ⟨rfl, stamped⟩
  | ok asked =>
      cases asked with
      | none =>
          exact ⟨rfl, stamped⟩
      | some command =>
          obtain ⟨sameAnswer, stampedAfter⟩ :=
            inStep_execute stamped firstReached secondReached command
          refine ⟨?_, stampedAfter⟩
          dsimp only
          rw [sameAnswer]
          cases (execute firstClock first command).answer <;> rfl

/-- Lines that are run in order go in step. -/
theorem runLines_stampedBy
    (stamped : first.StampedBy secondClock second)
    (firstReached : Reached firstClock first)
    (secondReached : Reached secondClock second)
    (number : Nat)
    (texts : List String) :
    (runLines secondClock second number texts).answer =
        (runLines firstClock first number texts).answer.map
          (·.stampedBy secondClock) ∧
      (runLines firstClock first number texts).after.StampedBy secondClock
        (runLines secondClock second number texts).after := by
  induction texts generalizing first second number with
  | nil =>
      exact ⟨rfl, stamped⟩
  | cons text rest inductionHypothesis =>
      let line : SourceLine := ⟨number, text⟩
      obtain ⟨sameAnswer, stampedAfter⟩ :=
        inStep_executeLine stamped firstReached secondReached line
      obtain ⟨sameLater, stampedLater⟩ :=
        inductionHypothesis stampedAfter
          (firstReached.line line) (secondReached.line line) (number + 1)
      refine ⟨?_, stampedLater⟩
      rw [answer_runLines_cons, answer_runLines_cons, List.map_cons, sameLater]
      simp only [resultOf, LineResult.stampedBy, ← sameAnswer, line]

/-- Stamps do not show in a report. -/
theorem ofResults_map_stampedBy (clock : Clock) (results : List LineResult) :
    Report.ofResults (results.map (·.stampedBy clock)) =
      Report.ofResults results := by
  have sameApplied (result : LineResult) :
      Report.isApplied (result.stampedBy clock) = Report.isApplied result := by
    unfold Report.isApplied LineResult.stampedBy
    rcases result.result with fault | (_ | _ | _ | _) <;> rfl
  have sameNoOp (result : LineResult) :
      Report.isNoOp (result.stampedBy clock) = Report.isNoOp result := by
    unfold Report.isNoOp LineResult.stampedBy
    rcases result.result with fault | (_ | _ | _ | _) <;> rfl
  have sameFault (result : LineResult) :
      Report.fault? (result.stampedBy clock) = Report.fault? result := by
    unfold Report.fault? LineResult.stampedBy
    rcases result.result with fault | (_ | _ | _ | _) <;> rfl
  simp only [Report.ofResults, List.length_map, List.countP_map,
    List.filterMap_map, Function.comp_def, sameApplied, sameNoOp, sameFault]

/-- A source is reported alike under both clocks, and its lines go in step. -/
theorem run_stampedBy
    (stamped : first.StampedBy secondClock second)
    (firstReached : Reached firstClock first)
    (secondReached : Reached secondClock second)
    (source : String) :
    (run secondClock second source).answer =
        (run firstClock first source).answer ∧
      (run firstClock first source).after.StampedBy secondClock
        (run secondClock second source).after := by
  obtain ⟨sameLines, stampedAfter⟩ :=
    runLines_stampedBy stamped firstReached secondReached 1 (Text.lines source)
  refine ⟨?_, stampedAfter⟩
  simp only [run, trace, sameLines, ofResults_map_stampedBy]

/-- Sources are reported alike under both clocks when they are run in order. -/
theorem runAll_stampedBy
    (stamped : first.StampedBy secondClock second)
    (firstReached : Reached firstClock first)
    (secondReached : Reached secondClock second)
    (sources : List String) :
    reports secondClock second sources = reports firstClock first sources ∧
      (runAll firstClock first sources).StampedBy secondClock
        (runAll secondClock second sources) := by
  induction sources generalizing first second with
  | nil =>
      exact ⟨rfl, stamped⟩
  | cons source rest inductionHypothesis =>
      obtain ⟨sameReport, stampedAfter⟩ :=
        run_stampedBy stamped firstReached secondReached source
      obtain ⟨sameReports, stampedLater⟩ :=
        inductionHypothesis stampedAfter
          (firstReached.run source) (secondReached.run source)
      refine ⟨?_, stampedLater⟩
      rw [reports, reports, sameReport, sameReports]

/--
Sources that are run in order on two fresh albums under two clocks have the same
reports and leave the same scene.  The archives hold equally many snapshots,
with the same sequence numbers, descriptions and shapes; their ids and
timestamps are those that each clock gives to these sequence numbers.  Every
further line has the same outcome but for the id of a captured snapshot, which
differs in what the clock showed.
-/
theorem clock_reaches_stamps_only
    (firstClock secondClock : Clock)
    (sources : List String) :
    let first := runAll firstClock .empty sources
    let second := runAll secondClock .empty sources
    reports secondClock .empty sources = reports firstClock .empty sources ∧
      second.scene = first.scene ∧
      second.archive.snapshots =
        first.archive.snapshots.map (·.stampedBy secondClock) ∧
      (second.archive.snapshots.map fun snapshot =>
          (snapshot.id.sequence, snapshot.description, snapshot.shapes)) =
        (first.archive.snapshots.map fun snapshot =>
          (snapshot.id.sequence, snapshot.description, snapshot.shapes)) ∧
      (∀ source,
        (trace secondClock second source).answer =
          (trace firstClock first source).answer.map
            (·.stampedBy secondClock)) ∧
      ∀ line,
        (executeLine secondClock second line).answer =
          (executeLine firstClock first line).answer.map
            (·.stampedBy secondClock) := by
  intro first second
  have freshStamped : Album.empty.StampedBy secondClock .empty :=
    ⟨rfl, rfl, Array.map_empty.symm⟩
  have firstReached : Reached firstClock first :=
    Reached.fresh.runAll sources
  have secondReached : Reached secondClock second :=
    Reached.fresh.runAll sources
  obtain ⟨sameReports, stamped⟩ :
      reports secondClock .empty sources = reports firstClock .empty sources ∧
        first.StampedBy secondClock second :=
    runAll_stampedBy freshStamped .fresh .fresh sources
  refine ⟨sameReports, stamped.scene_eq, stamped.snapshots_eq, ?_, ?_, ?_⟩
  · rw [stamped.snapshots_eq, Array.map_map]
    rfl
  · intro source
    exact (runLines_stampedBy stamped firstReached secondReached 1
      (Text.lines source)).1
  · intro line
    exact (inStep_executeLine stamped firstReached secondReached line).answer_eq

end Script

end Storyboard
