import Storyboard.CommandLine.Interaction
import Storyboard.CommandLine.Options
import Storyboard.Log.Record
import Storyboard.Report.Listing
import Storyboard.Report.Page

namespace Storyboard.CommandLine

/-!
# A run of the program

The options are checked first, then the script is read and run, then its
snapshots are presented.  Lines of the script that fail are reported and do not
make the run fail; whatever else goes wrong ends it before anything is written.
-/

/-- What a run prints and how it ends. -/
structure Result where
  exitCode : Nat
  output : String := ""
  errors : String := ""
  /-- The archive and the sheet that the viewer is to show after the run. -/
  viewed : Option (Archive × Sheet) := none

/-- What a run takes from its surroundings besides files. -/
structure Surroundings where
  arguments : List String
  logFilter : Option String
  clock : Clock
  logTime : String

/--
How the program is used.

This is a summary with words of its own: that it is shown, and where, is part of
what the program does, the wording is not.
-/
def usage : String :=
  "Usage: [--view <tui|web|text>] [-o|--out <FILE>] [--width <N>] [--height <N>] " ++
    "[--log-level <FILTER>] [--color <auto|always|never>] <SCRIPT>\n"

/-- What is wrong with options that could be read. -/
inductive Objection where
  | emptySheet (sheet : Sheet)
  | noOutput
deriving Repr, DecidableEq

/-- The text shown for an objection. -/
def Objection.message : Objection → String
  | emptySheet sheet =>
      s!"drawing size must be positive, got {sheet.width}x{sheet.height}"
  | noOutput => "--out is required for the web view"

/-- The first objection to options. -/
def Options.objection? (options : Options) : Option Objection :=
  if options.sheet.width = 0 ∨ options.sheet.height = 0 then
    some (.emptySheet options.sheet)
  else if options.view = .web ∧ options.out = none then
    some .noOutput
  else
    none

/-- The last lines of a run that failed with a cause of its own. -/
def failure (message : String) : String :=
  s!"Error: {message}\n"

/-- The last lines of a run that failed because of a file. -/
def fileFailure (attempt path : String) (fault : FileFault) : String :=
  s!"Error: failed to {attempt} {path}\n\nCaused by:\n    {fault.message}\n"

/-- The line that sums a run up. -/
def summary
    (path : String)
    (report : Script.Report)
    (archive : Archive) : String :=
  s!"{path}: {report.lines} lines, {report.applied} applied, {report.noOps} without target, " ++
    s!"{report.faults.length} failed, {archive.size} snapshots\n"

/--
Present an archive after what has been printed to the error output so far.
-/
def present
    (options : Options)
    (archive : Archive)
    (errors : String) : Interaction Result :=
  let write (path content success : String) : Interaction Result :=
    .write path content fun
      | .ok () => .done { exitCode := 0, errors := errors ++ success }
      | .error fault =>
          .done
            { exitCode := 1
              errors := errors ++ fileFailure "write" path fault }
  match options.view, options.out with
  | .interactive, _ =>
      .done { exitCode := 0, errors, viewed := some (archive, options.sheet) }
  | .web, none =>
      .done
        { exitCode := 1
          errors := errors ++ failure Objection.noOutput.message }
  | .web, some path =>
      write path (Report.page options.sheet archive) s!"Wrote {path}\n"
  | .text, none =>
      .done { exitCode := 0, output := Report.listing archive, errors }
  | .text, some path => write path (Report.listing archive) ""

/-- The text of a file, which must be encoded as UTF-8. -/
def decode (content : Except FileFault ByteArray) : Except FileFault String :=
  match content with
  | .error fault => .error fault
  | .ok bytes =>
      match String.fromUTF8? bytes with
      | some text => .ok text
      | none => .error .notText

/-- Run the program with options that could be read. -/
def runWith
    (options : Options)
    (surroundings : Surroundings) : Interaction Result :=
  let filterText := Log.effectiveFilter options.logLevel surroundings.logFilter
  let (filter, warnings) := Log.Filter.read filterText
  let log (records : List Log.Record) : String :=
    String.join <| (records.filter filter.shows).map fun record =>
      record.line (options.coloring = .always) surroundings.logTime
  let opening := String.join warnings ++ log [Log.filterRecord filterText]
  match options.objection? with
  | some objection =>
      .done { exitCode := 1, errors := opening ++ failure objection.message }
  | none =>
      .read options.script fun content =>
        match decode content with
        | .error fault =>
            .done {
              exitCode := 1
              errors :=
                opening ++ fileFailure "read script" options.script fault }
        | .ok source =>
            let traced := Script.trace surroundings.clock .empty source
            let archive := traced.after.archive
            let records :=
              Log.loadedRecord options.script source.utf8ByteSize ::
                Log.runRecords traced.answer
            let report := Script.Report.ofResults traced.answer
            present options archive
              (opening ++ log records ++ summary options.script report archive)

/-- Run the program. -/
def run (surroundings : Surroundings) : Interaction Result :=
  match Options.read surroundings.arguments with
  | .error .help => .done { exitCode := 0, output := usage }
  | .error .usage => .done { exitCode := 2, errors := usage }
  | .ok options => runWith options surroundings

end Storyboard.CommandLine
