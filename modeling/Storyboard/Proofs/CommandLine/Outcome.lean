import Storyboard.CommandLine.Run
import Storyboard.Proofs.CommandLine.FileSystem
import Storyboard.Proofs.CommandLine.Options

namespace Storyboard.CommandLine

/-!
# What a run comes to

Where no viewer is asked for, a run is refused or it presents.  It is refused
for its options before the script is read, or for a script that is no text, and
then prints nothing and leaves all files as they are.  Otherwise it presents the
archive that the script makes, in one place and as a whole, whatever lines of
the script fail.
-/

/--
Whether a run shows a text on the standard output, no viewer and nothing else.
-/
def Result.Prints (result : Result) (text : String) : Prop :=
  result.output = text ∧ result.viewed = none

section Texts

variable {content : ByteArray}

theorem decode_of_isValidUTF8 (valid : content.IsValidUTF8) :
    ∃ source :
      String, source.toUTF8 = content ∧ decode (.ok content) = .ok source := by
  refine ⟨.fromUTF8 content valid, rfl, ?_⟩
  simp only [decode, String.fromUTF8?, dif_pos valid]

theorem decode_of_not_isValidUTF8 (invalid : ¬ content.IsValidUTF8) :
    decode (.ok content) = .error .notText := by
  simp only [decode, String.fromUTF8?, dif_neg invalid]

end Texts

section Log

variable
  (options : Options)
  (surroundings : Surroundings)

/--
The filter of the log of a run, and the warnings about what is not understood of
it.
-/
def logFilter : Log.Filter × List String :=
  Log.Filter.read (Log.effectiveFilter options.logLevel surroundings.logFilter)

/-- The lines that the log of a run shows of records. -/
def logged (records : List Log.Record) : String :=
  String.join <| (records.filter (logFilter options surroundings).1.shows).map
    fun record =>
    record.line (options.coloring = .always) surroundings.logTime

/-- The lines that the log of a run begins with. -/
def opening : String :=
  String.join (logFilter options surroundings).2 ++
    logged options surroundings
      [Log.filterRecord
        (Log.effectiveFilter options.logLevel surroundings.logFilter)]

/-- All lines of the log of a run whose script holds a source. -/
def loggedRun (source : String) : String :=
  opening options surroundings ++
    logged options surroundings
      (Log.loadedRecord options.script source.utf8ByteSize ::
        Log.runRecords (Script.trace surroundings.clock .empty source).answer)

end Log

theorem objection?_eq_none_iff {options : Options} :
    options.objection? = none ↔
      options.sheet.width ≠ 0 ∧ options.sheet.height ≠ 0 ∧
        ¬ (options.view = .web ∧ options.out = none) := by
  unfold Options.objection?
  split
  · rename_i emptySheet
    simp only [reduceCtorEq, false_iff, not_and]
    intro widthPositive heightPositive
    exact (emptySheet.elim widthPositive heightPositive).elim
  · rename_i sheetPositive
    rw [not_or] at sheetPositive
    simp [sheetPositive]

section Runs

variable
  {options : Options}
  (surroundings : Surroundings)

theorem runWith_of_objection
    {objection : Objection}
    (objected : options.objection? = some objection) :
    runWith options surroundings =
      .done {
        exitCode := 1
        errors :=
          opening options surroundings ++ failure objection.message } := by
  unfold runWith
  simp only [objected]
  rfl

theorem runWith_of_no_objection (unobjected : options.objection? = none) :
    runWith options surroundings =
      .read options.script fun content =>
        match decode content with
        | .error fault =>
            .done {
              exitCode := 1
              errors :=
                opening options surroundings ++
                  fileFailure "read script" options.script fault }
        | .ok source =>
            let ran := Script.run surroundings.clock .empty source
            present options ran.after.archive
              (loggedRun options surroundings source ++
                summary options.script ran.answer ran.after.archive) := by
  unfold runWith
  simp only [unobjected]
  rfl

end Runs

section Presenting

variable {options : Options}

/-- What options that ask for no viewer have presented of an archive. -/
def Options.presented (options : Options) (archive : Archive) : String :=
  if options.view = .web then
    Report.page options.sheet archive
  else
    Report.listing archive

/-- The line that tells where a page has been written. -/
def Options.closing (options : Options) : String :=
  match options.view, options.out with
  | .web, some path => s!"Wrote {path}\n"
  | _, _ => ""

theorem closing_of_no_file (noFile : options.out = none) :
    options.closing = "" := by
  unfold Options.closing
  split
  · rename_i toFile
    rw [noFile] at toFile
    cases toFile
  · rfl

variable
  (noViewer : options.view = .text ∨ options.view = .web)
  (archive : Archive)
  (errors : String)

include noViewer

theorem present_of_no_file
    (notWeb : ¬ (options.view = .web ∧ options.out = none))
    (noFile : options.out = none) :
    present options archive errors =
      .done { exitCode := 0, output := options.presented archive, errors } := by
  rcases noViewer with isText | isWeb
  · simp only [present, isText, noFile, Options.presented, reduceCtorEq,
      if_false]
  · exact (notWeb ⟨isWeb, noFile⟩).elim

theorem present_of_file
    {path : String}
    (toFile : options.out = some path) :
    present options archive errors =
      .write path (options.presented archive) fun
        | .ok () => .done { exitCode := 0, errors := errors ++ options.closing }
        | .error fault =>
            .done
              { exitCode := 1
                errors := errors ++ fileFailure "write" path fault } := by
  obtain ⟨script, view, out, sheet, logLevel, coloring⟩ := options
  obtain rfl : out = some path := toFile
  rcases noViewer with isText | isWeb
  · obtain rfl : view = .text := isText
    rfl
  · obtain rfl : view = .web := isWeb
    rfl

end Presenting

section Outcomes

variable
  {State : Type}
  {system : FileSystem State}
  {files : State}
  {options : Options}
  {content : ByteArray}
  (surroundings : Surroundings)

/--
A run that is refused for its options or its script ends before anything is
written.
-/
theorem inside_runWith_of_refused
    (readable : system.read files options.script = .ok content)
    (refused : options.objection? ≠ none ∨ ¬ content.IsValidUTF8) :
    ∃ errors,
      (runWith options surroundings).inside system files =
        ({ exitCode := 1, errors }, files) := by
  cases objected : options.objection? with
  | some objection =>
      rw [runWith_of_objection surroundings objected]
      exact ⟨_, rfl⟩
  | none =>
      have invalid : ¬ content.IsValidUTF8 := refused.resolve_left (· objected)
      rw [runWith_of_no_objection surroundings objected, Interaction.inside,
        readable, decode_of_not_isValidUTF8 invalid]
      exact ⟨_, rfl⟩

theorem inside_runWith_of_decode_eq_ok
    (unobjected : options.objection? = none)
    (readable : system.read files options.script = .ok content)
    {source : String}
    (decoded : decode (.ok content) = .ok source) :
    (runWith options surroundings).inside system files =
      (present options
        (Script.run surroundings.clock .empty source).after.archive
        (loggedRun options surroundings source ++
          summary options.script
            (Script.run surroundings.clock .empty source).answer
            (Script.run surroundings.clock .empty source).after.archive)).inside
              system files := by
  rw [runWith_of_no_objection surroundings unobjected, Interaction.inside,
    readable, decoded]

end Outcomes

/--
Where no viewer is asked for, the script can be read and the output can be
written, a run is refused if a side of the sheet is zero, if a page has no path
to be written to, or if the script is not valid UTF-8: it fails, prints nothing
and leaves all files as they are.  Any other run succeeds, whatever lines of its
script fail.  It presents the archive that the script makes of a fresh album, as
a page on the given sheet or as a listing.  Without a path it prints this and
leaves all files as they are; with a path it writes this there, as a whole, and
prints nothing.  Behind the log, the error output counts the lines of the run by
what became of them, and the snapshots in the archive.
-/
theorem run_refuses_or_presents
    {State : Type}
    (system : FileSystem State)
    (files : State)
    (surroundings : Surroundings)
    {options : Options}
    {content : ByteArray}
    (accepted : Options.read surroundings.arguments = .ok options)
    (noViewer : options.view = .text ∨ options.view = .web)
    (readable : system.read files options.script = .ok content)
    (writable : ∀ path, options.out = some path → system.Writable files path) :
    let result := ((run surroundings).inside system files).1
    let after := ((run surroundings).inside system files).2
    let refused :=
      options.sheet.width = 0 ∨ options.sheet.height = 0 ∨
        (options.view = .web ∧ options.out = none) ∨ ¬ content.IsValidUTF8
    (refused → result.exitCode = 1 ∧ result.Prints "" ∧ after = files) ∧
      (¬ refused →
        ∃ source : String,
          source.toUTF8 = content ∧
            let report := (Script.run surroundings.clock .empty source).answer
            let archive :=
              (Script.run surroundings.clock .empty source).after.archive
            let presented :=
              if options.view = .web then
                Report.page options.sheet archive
              else
                Report.listing archive
            let counts :=
              s!"{options.script}: {report.lines} lines, {report.applied} applied, " ++
                s!"{report.noOps} without target, {report.faults.length} failed, " ++
                s!"{archive.snapshots.size} snapshots\n"
            result.exitCode = 0 ∧
              (options.out = none → result.Prints presented ∧ after = files) ∧
              (∀ path,
                options.out = some path →
                  result.Prints "" ∧
                    after = (system.write files path presented).2) ∧
              result.errors =
                loggedRun options surroundings source ++ counts ++
                  options.closing) := by
  have started : run surroundings = runWith options surroundings := by
    rw [run, accepted]
  intro result after refused
  have refused_iff : refused ↔
      options.objection? ≠ none ∨ ¬ content.IsValidUTF8 := by
    rw [Ne, objection?_eq_none_iff]
    tauto
  refine ⟨fun isRefused => ?refuses, fun notRefused => ?presents⟩
  case refuses =>
    obtain ⟨errors, ended⟩ :=
      inside_runWith_of_refused surroundings readable (refused_iff.mp isRefused)
    rw [← started] at ended
    have isResult : result = { exitCode := 1, errors } :=
      congrArg Prod.fst ended
    rw [isResult]
    exact ⟨rfl, ⟨rfl, rfl⟩, congrArg Prod.snd ended⟩
  case presents =>
    rw [refused_iff, not_or, not_not, not_not] at notRefused
    obtain ⟨unobjected, valid⟩ := notRefused
    obtain ⟨source, encoded, decoded⟩ := decode_of_isValidUTF8 valid
    refine ⟨source, encoded, ?_⟩
    intro report archive presented counts
    have counted : summary options.script report archive = counts := by
      simp only [summary, Archive.size, counts, String.append_assoc]
    have ended :=
      inside_runWith_of_decode_eq_ok surroundings unobjected readable decoded
    rw [← started] at ended
    cases isOut : options.out with
    | none =>
        obtain ⟨-, -, notWeb⟩ := objection?_eq_none_iff.mp unobjected
        rw [present_of_no_file noViewer _ _ notWeb isOut] at ended
        have isResult : result = _ := congrArg Prod.fst ended
        have isAfter : after = files := congrArg Prod.snd ended
        rw [isResult, isAfter, ← counted, closing_of_no_file isOut,
          String.append_empty]
        exact ⟨rfl, fun _ => ⟨⟨rfl, rfl⟩, rfl⟩, nofun, rfl⟩
    | some path =>
        rw [present_of_file noViewer _ _ isOut,
          Interaction.inside_write (writable path isOut)] at ended
        have isResult : result = _ := congrArg Prod.fst ended
        have isAfter : after = _ := congrArg Prod.snd ended
        rw [isResult, isAfter, ← counted]
        refine ⟨rfl, nofun, ?_, rfl⟩
        rintro _ ⟨⟩
        exact ⟨⟨rfl, rfl⟩, rfl⟩

/--
A script of four lines, of which one fails and one names no shape, is presented
as a page that is put into the folder beside it.
-/
theorem run_presents_page_of_failing_lines :
    let clock : Clock := fun _ => ⟨2024, 2, 29, 12, 0, 0, 0⟩
    let source :=
      "bogus\nshape Dot oval 1 2 3 4 5 6 7\nmove Gone 1 2\nsnapshot first\n"
    let folder : Folder := ⟨[⟨"in.txt", source.toUTF8⟩]⟩
    let options : Options :=
      ⟨"in.txt", .web, some "out.html", ⟨20, 10⟩, some "off", .auto⟩
    let surroundings : Surroundings := ⟨options.arguments, none, clock, ""⟩
    let archive := (Script.run clock .empty source).after.archive
    let (result, after) := (run surroundings).within folder
    (Options.read surroundings.arguments = .ok options ∧
        options.view = .web ∧
        Folder.system.read folder options.script = .ok source.toUTF8 ∧
        Folder.system.Writable folder "out.html") ∧
      result.exitCode = 0 ∧
        result.Prints "" ∧
        (∀ name,
          after.content? name =
            if name = "out.html" then
              some (Report.page ⟨20, 10⟩ archive).toUTF8
            else
              folder.content? name) ∧
        result.errors =
          "in.txt: 4 lines, 2 applied, 1 without target, 1 failed, 1 snapshots\n" ++
            "Wrote out.html\n" := by
  intro clock source folder options surroundings archive
  have accepted : Options.read surroundings.arguments = .ok options :=
    read_arguments ⟨by decide, by decide, ⟨by decide, by decide⟩⟩
  have script : folder.target "in.txt" = .ok (.file "in.txt") := rfl
  have readable : folder.read "in.txt" = .ok source.toUTF8 :=
    Folder.read_of_target_eq_ok script rfl
  have found : folder.target "out.html" = .ok (.file "out.html") := rfl
  have writable : Folder.system.Writable folder "out.html" :=
    Folder.writable_of_target_eq_ok found
  have valid : source.toUTF8.IsValidUTF8 := source.isValidUTF8
  obtain ⟨decoded, isSource, exitCode, -, written, errors⟩ :=
    (run_refuses_or_presents Folder.system folder surroundings accepted
      (.inr rfl) readable
      (by rintro _ ⟨⟩; exact writable)).2
      (by rintro (⟨⟨⟩⟩ | ⟨⟨⟩⟩ | ⟨-, ⟨⟩⟩ | invalid); exact invalid valid)
  have same : decoded = source := String.toByteArray_inj.mp isSource
  obtain ⟨prints, after⟩ := written "out.html" rfl
  rw [Folder.within_eq_inside]
  refine ⟨⟨accepted, rfl, readable, writable⟩, exitCode, prints, ?_, ?_⟩
  · rw [after, same]
    exact Folder.content?_write found _
  · rw [errors, same]
    decide +kernel

end Storyboard.CommandLine
