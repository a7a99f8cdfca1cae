import Storyboard.Album.Basic
import Storyboard.Script.Grammar

namespace Storyboard.Script

/-!
# Running a script

Lines are carried out one after the other.  A line that fails, that names no
shape, or that is blank leaves the album as it was and never stops the run; the
report counts the lines and lists the faults in their order.
-/

/-- What became of a line that did not fail. -/
inductive Outcome where
  /-- The line is blank or a comment. -/
  | skipped
  /-- The command was carried out. -/
  | applied
  /-- No shape has the name in the command. -/
  | noTarget (command : Command)
  /-- A snapshot was taken. -/
  | captured (id : SnapshotId) (description : String)
deriving Repr, DecidableEq

/-- The outcome of a command that looks for a shape by name. -/
def Outcome.ofFound (command : Command) (found : Bool) : Outcome :=
  if found then .applied else .noTarget command

/-- Carry a change of the scene over to the album. -/
def inScene
    (album : Album)
    (change : Change Scene (Except Refusal α))
    (outcome : α → Outcome) :
    Change Album (Except Refusal Outcome) :=
  ⟨change.answer.map outcome, { album with scene := change.after }⟩

/-- Carry out a command. -/
def execute (clock : Clock) (album : Album) (command : Command) :
    Change Album (Except Refusal Outcome) :=
  let found := Outcome.ofFound command
  match command with
  | .shape name kind position first second red green blue =>
      match Color.ofChannels red green blue with
      | .error refusal => ⟨.error refusal, album⟩
      | .ok color =>
          inScene album
            (album.scene.create kind name position first second color)
            fun _ => .applied
  | .move name position => inScene album (album.scene.move name position) found
  | .color name red green blue =>
      inScene album (album.scene.recolor name red green blue) found
  | .resize name first second =>
      inScene album (album.scene.resize name first second) found
  | .remove name =>
      let removed := album.scene.remove name
      ⟨.ok (found removed.answer), { album with scene := removed.after }⟩
  | .snapshot description =>
      let taken := album.snapshot clock description
      ⟨.ok (.captured taken.answer description), taken.after⟩
  | .clear .snapshots =>
      ⟨.ok .applied, { album with archive := album.archive.clear }⟩
  | .clear .shapes => ⟨.ok .applied, { album with scene := .empty }⟩
  | .clear .all =>
      ⟨.ok .applied, { scene := .empty, archive := album.archive.clear }⟩

/-- Read a line and carry out its command, if it has one. -/
def executeLine (clock : Clock) (album : Album) (line : SourceLine) :
    Change Album (Except Fault Outcome) :=
  match line.read with
  | .error fault => ⟨.error fault, album⟩
  | .ok none => ⟨.ok .skipped, album⟩
  | .ok (some command) =>
      let executed := execute clock album command
      ⟨executed.answer.mapError fun refusal => ⟨line, .refused refusal⟩,
        executed.after⟩

/-- A line that was run and what became of it. -/
structure LineResult where
  line : SourceLine
  result : Except Fault Outcome

/-- Number lines and run them in order, from a first number on. -/
def runLines (clock : Clock) (album : Album) (number : Nat) :
    List String → Change Album (List LineResult)
  | [] => ⟨[], album⟩
  | text :: rest =>
      let line : SourceLine := ⟨number, text⟩
      let executed := executeLine clock album line
      let later := runLines clock executed.after (number + 1) rest
      ⟨⟨line, executed.answer⟩ :: later.answer, later.after⟩

/-- Run all lines of a source text and keep what became of each. -/
def trace (clock : Clock) (album : Album) (source : String) :
    Change Album (List LineResult) :=
  runLines clock album 1 (Text.lines source)

/-- The summary of a run. -/
structure Report where
  lines : Nat
  applied : Nat
  noOps : Nat
  faults : List Fault
deriving Repr, DecidableEq

namespace Report

/-- Whether a line changed the album or took a snapshot. -/
def isApplied (result : LineResult) : Bool :=
  match result.result with
  | .ok .applied | .ok (.captured ..) => true
  | _ => false

/-- Whether a line named a shape that there is not. -/
def isNoOp (result : LineResult) : Bool :=
  match result.result with
  | .ok (.noTarget _) => true
  | _ => false

/-- The fault of a line that failed. -/
def fault? (result : LineResult) : Option Fault :=
  match result.result with
  | .error fault => some fault
  | .ok _ => none

/-- The summary of the results of all lines. -/
def ofResults (results : List LineResult) : Report :=
  ⟨results.length, results.countP isApplied, results.countP isNoOp,
    results.filterMap fault?⟩

/-- Whether no line failed. -/
def isClean (report : Report) : Bool :=
  report.faults.isEmpty

end Report

/-- Run a source text and summarize what became of its lines. -/
def run
    (clock : Clock)
    (album : Album)
    (source : String) : Change Album Report :=
  let traced := trace clock album source
  ⟨Report.ofResults traced.answer, traced.after⟩

end Storyboard.Script
