import Std.Time.Zoned
import Storyboard.CommandLine.Run
import Storyboard.Viewer.Draw
import Storyboard.Viewer.Terminal

namespace Storyboard.Main

/-!
# The program

This module carries the program out: it reads the time, the arguments and the
files, prints what a run prints and shows the viewer.  All decisions are made
elsewhere.
-/

/-- The reading of a clock, taken apart into the fields of an instant. -/
def instantAt (time : Std.Time.PlainDateTime) : Instant where
  year := time.year
  month := time.month.val.toNat
  day := time.day.val.toNat
  hour := time.hour.val.toNat
  minute := time.minute.val.toNat
  second := time.second.val.toNat
  nanosecond := time.nanosecond.val.toNat

/-- The fault behind an exception of the file system. -/
def faultOf : IO.Error → CommandLine.FileFault
  | .noFileOrDirectory .. => .missing
  | .inappropriateType .. => .isFolder
  | error => .other (toString error)

/-- Carry a program out on the files of the computer. -/
def carryOut : CommandLine.Interaction α → IO α
  | .done value => pure value
  | .read path next => do
      let content ← (IO.FS.readBinFile path).toBaseIO
      carryOut (next (content.mapError faultOf))
  | .write path content next => do
      let written ← (IO.FS.writeFile path content).toBaseIO
      carryOut (next (written.mapError faultOf))

/-- The keys that a line of input stands for; an empty line is the enter key. -/
def keysOf (line : String) : List Viewer.Key :=
  match line.toList.filter (· ≠ '\n') with
  | [] => [.enter]
  | characters => characters.map .char

/--
Show the viewer on lines of text until it is told to quit or the input ends.
-/
partial def browse (input : IO.FS.Stream) (state : Viewer.State) : IO Unit := do
  let drawn := state.draw 80 24
  for row in drawn.answer.rows do
    IO.println (Display.Screen.rowText row)
  unless drawn.after.quitting do
    let line ← input.getLine
    let now ← IO.monoNanosNow
    unless line.isEmpty do
      browse input
        ((keysOf line).foldl (fun state key => state.press key now) drawn.after)

/-- Run the program and answer its exit code. -/
def start (arguments : List String) : IO UInt32 := do
  let now ← Std.Time.DateTime.now
  let here := instantAt now.toPlainDateTime
  let universal := instantAt (now.convertZoneRules .UTC).toPlainDateTime
  let result ← carryOut <| CommandLine.run {
    arguments
    logFilter := ← IO.getEnv "RUST_LOG"
    clock := fun _ => here
    logTime := universal.logText }
  IO.eprint result.errors
  IO.print result.output
  if let some (archive, sheet) := result.viewed then
    IO.print Viewer.Terminal.enterCode
    browse (← IO.getStdin) (.start archive sheet (← IO.monoNanosNow))
    IO.print (Viewer.Terminal.leaveCode ++ Viewer.Terminal.showCode)
  return result.exitCode.toUInt32

end Storyboard.Main

/-- Run the program. -/
def main (arguments : List String) : IO UInt32 :=
  Storyboard.Main.start arguments
