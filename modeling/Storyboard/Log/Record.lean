import Storyboard.Log.Filter
import Storyboard.Script.Run
import Storyboard.Text.EscapeCode
import Storyboard.Text.Quoted

namespace Storyboard.Log

/-!
# Log records

The log tells which filter applies, which script was read, what became of the
lines that are worth a word, and what the run came to.  A record is written on a
line of its own behind the time, its level and its source.
-/

/-- Where records about the log itself come from. -/
def logSource : String :=
  "shapes_album::logging"

/-- Where records about scripts come from. -/
def scriptSource : String :=
  "shapes_album::interpreter::engine"

/-- The record about the filter that applies. -/
def filterRecord (filter : String) : Record :=
  ⟨.debug, logSource, s!"logging initialized with filter '{filter}'"⟩

/-- The record about a script that was read. -/
def loadedRecord (path : String) (size : Nat) : Record :=
  ⟨.debug, scriptSource, s!"Loaded script {path} ({size} bytes)"⟩

/-- The record about a line, if it is worth one. -/
def lineRecord? (result : Script.LineResult) : Option Record :=
  match result.result with
  | .error fault => some ⟨.warn, scriptSource, fault.message⟩
  | .ok (.noTarget command) =>
      some ⟨.debug, scriptSource,
        s!"Line {result.line.number}: '{command.keyword.word}' names a shape " ++
          "that does not exist, ignored"⟩
  | .ok (.captured id description) =>
      some ⟨.debug, scriptSource,
        s!"Captured snapshot {id.text} ({Text.quoted description})"⟩
  | .ok _ => none

/-- The record about a whole run. -/
def runRecord (report : Script.Report) : Record :=
  ⟨.info, scriptSource,
    s!"Processed {report.lines} line(s): {report.applied} applied, " ++
      s!"{report.noOps} no-op, {report.faults.length} failed"⟩

/-- The records about a run in the order in which they are written. -/
def runRecords (results : List Script.LineResult) : List Record :=
  results.filterMap lineRecord? ++ [runRecord (.ofResults results)]

/-- The codes that set the color of a level on a terminal. -/
def levelColor : Level → String
  | .error => "\x1b[1m\x1b[31m"
  | .warn => "\x1b[33m"
  | .info => "\x1b[32m"
  | .debug => "\x1b[34m"
  | .trace => "\x1b[36m"

/-- A text in the color that a code sets, if there is one. -/
def painted (colored : Bool) (code text : String) : String :=
  if colored then code ++ text ++ "\x1b[0m" else text

/-- The codes that make a text faint on a terminal. -/
def faintColor : String :=
  "\x1b[90m"

/-- A word with blanks behind it up to the width of the longest level. -/
def levelText (level : Level) : String :=
  level.word ++ .ofList (List.replicate (5 - level.word.length) ' ')

/-- A message whose later lines are indented. -/
def indented (message : String) : String :=
  .ofList (message.toList.flatMap fun c =>
    if c = '\n' then "\n    ".toList else [c])

/--
A record as it is written at a time.

Where colors are not wanted, no codes stay in a message either.
-/
def Record.line (record : Record) (colored : Bool) (time : String) : String :=
  let line :=
    painted colored faintColor "[" ++ time ++ " " ++
      painted colored (levelColor record.level)
        (levelText record.level) ++ " " ++
      record.source ++ painted colored faintColor "]" ++ " " ++
        indented record.message ++ "\n"
  if colored then line else Text.plain line

end Storyboard.Log
