import Storyboard.Proofs.Script.Productions
import Storyboard.Proofs.Script.Pruning

namespace Storyboard.Script

/-!
# What a report says about the lines

Every line has exactly one outcome: it is applied, it names no shape, it fails,
or it asks for nothing.  The counts of a report therefore add up to the number
of lines.  Its faults are those of the failing lines, each line being run on the
album that the lines before it leave, and they stand in the order of these
lines.
-/

instance : DecidablePred AsksNothing :=
  fun text =>
    inferInstanceAs
      (Decidable
        (Text.trimChars text.toList = [] ∨
          (Text.trimChars text.toList).head? = some '#'))

section Outcomes

variable
  (clock : Clock)
  (album : Album)

/-- A change of the scene is not reported as a line without a command. -/
theorem inScene_answer_ne_skipped
    (change : Change Scene (Except Refusal α))
    {outcome : α → Outcome}
    (notSkipped : ∀ value, outcome value ≠ .skipped) :
    (inScene album change outcome).answer ≠ .ok .skipped := by
  unfold inScene
  cases change.answer with
  | error refusal =>
      intro same
      cases same
  | ok value =>
      intro same
      exact notSkipped value (Except.ok.inj same)

theorem ofFound_ne_skipped (command : Command) (found : Bool) :
    Outcome.ofFound command found ≠ .skipped := by
  intro same
  cases found <;> cases same

/-- No command is reported as a line without one. -/
theorem execute_answer_ne_skipped (command : Command) :
    (execute clock album command).answer ≠ .ok .skipped := by
  cases command with
  | shape name kind position first second red green blue =>
      simp only [execute]
      cases Color.ofChannels red green blue with
      | error refusal =>
          intro same
          cases same
      | ok color =>
          apply inScene_answer_ne_skipped
          intro shape same
          cases same
  | move | color | resize =>
      exact inScene_answer_ne_skipped album _ (ofFound_ne_skipped _)
  | remove name =>
      intro same
      exact ofFound_ne_skipped _ _ (Except.ok.inj same)
  | snapshot description =>
      intro same
      cases same
  | clear target =>
      intro same
      cases target <;> cases same

/-- A line is passed over exactly if it asks for nothing. -/
theorem executeLine_answer_eq_skipped_iff (line : SourceLine) :
    (executeLine clock album line).answer = .ok .skipped ↔
      AsksNothing line.text := by
  rw [← readLine_eq_ok_none_iff]
  unfold executeLine SourceLine.read
  cases readLine line.text with
  | error problem =>
      simp
  | ok asked =>
      cases asked with
      | none =>
          simp
      | some command =>
          have notSkipped := execute_answer_ne_skipped clock album command
          cases executed : (execute clock album command).answer with
          | error refusal =>
              simp [executed, Except.mapError]
          | ok outcome =>
              rw [executed] at notSkipped
              simpa [executed, Except.mapError] using notSkipped

/-- A fault carries the number and the text of the line that failed. -/
theorem line_of_executeLine_answer_eq_error
    {line : SourceLine}
    {fault : Fault}
    (failed : (executeLine clock album line).answer = .error fault) :
    fault.line = line := by
  rw [executeLine_answer_eq_error_iff] at failed
  obtain unreadable | ⟨command, refusal, -, -, rfl⟩ := failed
  · exact ((line.read_eq_error_iff fault).mp unreadable).1
  · rfl

/-- A line adds one to exactly one of the four counts. -/
theorem counted_once (line : SourceLine) :
    let result := resultOf clock album line
    (if Report.isApplied result then 1 else 0) +
      (if Report.isNoOp result then 1 else 0) +
        (if (Report.fault? result).isSome then 1 else 0) +
        (if AsksNothing line.text then 1 else 0) =
      1 := by
  intro result
  simp only [result, resultOf, Report.isApplied, Report.isNoOp, Report.fault?,
    ← executeLine_answer_eq_skipped_iff clock album line]
  rcases (executeLine clock album line).answer with
    fault | (_ | _ | _ | _) <;> rfl

end Outcomes

section Runs

variable
  (clock : Clock)
  (album : Album)

/--
The result at a position is that of its line, run on what the lines before it
leave.
-/
theorem getElem?_answer_runLines
    (number : Nat)
    (texts : List String)
    (position : Nat) :
    (runLines clock album number texts).answer[position]? =
      texts[position]?.map fun text => resultOf clock (runLines clock album
      number (texts.take position)).after ⟨number + position, text⟩ := by
  induction texts generalizing album number position with
  | nil =>
      rfl
  | cons text rest inductionHypothesis =>
      rw [answer_runLines_cons]
      cases position with
      | zero =>
          rfl
      | succ position =>
          rw [List.getElem?_cons_succ, List.getElem?_cons_succ,
            inductionHypothesis, List.take_succ_cons, after_runLines_cons,
            Nat.add_right_comm]
          rfl

/-- The results of a run are numbered one after the other. -/
theorem map_number_runLines (number : Nat) (texts : List String) :
    (runLines clock album number texts).answer.map (·.line.number) =
      List.range' number texts.length := by
  induction texts generalizing album number with
  | nil =>
      rfl
  | cons text rest inductionHypothesis =>
      rw [answer_runLines_cons, List.map_cons, inductionHypothesis,
        List.length_cons, List.range'_succ]
      rfl

/-- The counts of a run add up to the number of its lines. -/
theorem counts_runLines (number : Nat) (texts : List String) :
    let report := Report.ofResults (runLines clock album number texts).answer
    report.applied + report.noOps + report.faults.length +
        texts.countP (AsksNothing ·) =
      texts.length := by
  simp only [Report.ofResults, List.length_filterMap_eq_countP]
  induction texts generalizing album number with
  | nil =>
      rfl
  | cons text rest inductionHypothesis =>
      have here := counted_once clock album ⟨number, text⟩
      dsimp only at here
      have later :=
        inductionHypothesis (executeLine clock album ⟨number, text⟩).after
          (number + 1)
      simp only [answer_runLines_cons, List.countP_cons, List.length_cons,
        decide_eq_true_eq]
      omega

theorem fault?_eq_some_iff (result : LineResult) (fault : Fault) :
    Report.fault? result = some fault ↔ result.result = .error fault := by
  unfold Report.fault?
  cases result.result <;> simp

/--
The faults of a run are in lines whose numbers increase, as those of all results
do: a fault has the line of its result.
-/
theorem pairwise_faults (number : Nat) (texts : List String) :
    ((runLines clock album number texts).answer.filterMap
      Report.fault?).Pairwise
      fun earlier later => earlier.line.number < later.line.number := by
  have increasing :
      (runLines clock album number texts).answer.Pairwise
        fun earlier later => earlier.line.number < later.line.number := by
    rw [← List.pairwise_map (f := fun result : LineResult =>
      result.line.number), map_number_runLines]
    exact List.pairwise_lt_range'
  have carried
      {result : LineResult}
      (member : result ∈ (runLines clock album number texts).answer)
      {fault : Fault}
      (failed : Report.fault? result = some fault) :
      fault.line = result.line := by
    rcases exists_resultOf_of_mem_runLines member with ⟨before, isResult⟩
    rw [isResult, fault?_eq_some_iff] at failed
    exact line_of_executeLine_answer_eq_error clock before failed
  rw [List.pairwise_filterMap]
  apply increasing.imp_of_mem
  intro first second firstMember secondMember inOrder earlier isEarlier
    later isLater
  rw [carried firstMember isEarlier, carried secondMember isLater]
  exact inOrder

/-- A fault is reported exactly if its line fails with it when it is reached. -/
theorem mem_faults_iff (number : Nat) (texts : List String) (fault : Fault) :
    fault ∈ (runLines clock album number texts).answer.filterMap Report.fault? ↔
      ∃ position text,
        texts[position]? = some text ∧
          (executeLine clock
            (runLines clock album number (texts.take position)).after
            ⟨number + position, text⟩).answer = .error fault := by
  simp only [List.mem_filterMap, fault?_eq_some_iff]
  constructor
  · rintro ⟨result, member, failed⟩
    rcases List.mem_iff_getElem?.mp member with ⟨position, found⟩
    rw [getElem?_answer_runLines, Option.map_eq_some_iff] at found
    rcases found with ⟨text, isText, rfl⟩
    exact ⟨position, text, isText, failed⟩
  · rintro ⟨position, text, isText, failed⟩
    refine ⟨resultOf clock _ ⟨number + position, text⟩, ?_, failed⟩
    rw [List.mem_iff_getElem?]
    refine ⟨position, ?_⟩
    rw [getElem?_answer_runLines, isText, Option.map_some]

end Runs

/--
A report counts every line of its source once: as applied, as one that names no
shape, as failed, or as one that asks for nothing.  Its faults are in lines
whose numbers increase.  There is one for a line exactly if the line fails on
the album that the lines before it leave; it is the fault that the line has
there, and it carries the number of the line and its text as it was written.
-/
theorem report_accounts_for_lines
    (clock : Clock)
    (album : Album)
    (source : String) :
    let texts := Text.lines source
    let report := (run clock album source).answer
    let failsWith (position : Nat) (text : String) (fault : Fault) : Prop :=
      let before := (runLines clock album 1 (texts.take position)).after
      texts[position]? = some text ∧
        (executeLine clock before ⟨position + 1, text⟩).answer = .error fault
    report.lines = texts.length ∧
      report.lines =
        report.applied + report.noOps + report.faults.length +
          texts.countP (AsksNothing ·) ∧
      report.faults.Pairwise
        (fun earlier later => earlier.line.number < later.line.number) ∧
      (∀ number,
        (∃ fault, fault ∈ report.faults ∧ fault.line.number = number) ↔
          ∃ position text fault,
            number = position + 1 ∧ failsWith position text fault) ∧
      ∀ fault,
        fault ∈ report.faults ↔
          ∃ position text,
            fault.line = ⟨position + 1, text⟩ ∧
              failsWith position text fault := by
  intro texts report failsWith
  have lines : report.lines = texts.length :=
    length_answer_runLines clock album 1 texts
  have counts :
      report.applied + report.noOps + report.faults.length +
          texts.countP (AsksNothing ·) =
        texts.length :=
    counts_runLines clock album 1 texts
  have member (fault : Fault) :
      fault ∈ report.faults ↔
        ∃ position text,
          fault.line = ⟨position + 1, text⟩ ∧
            failsWith position text fault := by
    have reported := mem_faults_iff clock album 1 texts fault
    simp only [Nat.add_comm 1] at reported
    apply reported.trans
    constructor
    · rintro ⟨position, text, isText, failed⟩
      exact ⟨position, text, line_of_executeLine_answer_eq_error clock _ failed,
        isText, failed⟩
    · rintro ⟨position, text, -, isText, failed⟩
      exact ⟨position, text, isText, failed⟩
  refine ⟨lines, by rw [lines,
    counts], pairwise_faults clock album 1 texts, ?_, member⟩
  intro number
  constructor
  · rintro ⟨fault, reported, rfl⟩
    rcases (member fault).mp reported with ⟨position, text, isLine, fails⟩
    exact ⟨position, text, fault, by rw [isLine], fails⟩
  · rintro ⟨position, text, fault, rfl, fails⟩
    have isLine := line_of_executeLine_answer_eq_error clock _ fails.2
    exact ⟨fault, (member fault).mpr ⟨position, text, isLine, fails⟩,
      by rw [isLine]⟩

/-- Six lines, of which two fail, one names no shape and two ask for nothing. -/
example :
    let source := "# header\n\nsnapshot\nmove X 1 1\nbogus\nclear up"
    let report :=
      (run (fun _ => ⟨2024, 1, 1, 9, 30, 0, 0⟩) .empty source).answer
    (report.lines, report.applied, report.noOps,
      report.faults.map (·.line.number)) =
      (6, 1, 1, [5, 6]) := by
  decide +kernel

end Storyboard.Script
