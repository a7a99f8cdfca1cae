import Storyboard.Number.Decimal
import Storyboard.Sheet
import Storyboard.Snapshot.Cursor
import Storyboard.Text.Blank

namespace Storyboard.Viewer

/-!
# The viewer

The viewer shows one snapshot of an archive at a time.  Keys move the cursor,
scroll the details, run the slideshow or open a prompt for an id.  While the
prompt is open it takes all keys.

The slideshow goes by a clock that never goes back and counts nanoseconds.
Every event comes at a reading of this clock, and the viewer keeps two of them:
when the slideshow was last started or moved, and when a key last started or
stopped it.
-/

/-- The panes at the side, one of which has the focus. -/
inductive Pane where
  | list
  | details
deriving Repr, DecidableEq

/-- The other pane. -/
def Pane.next : Pane → Pane
  | list => details
  | details => list

/-- What the viewer reports about the last event. -/
inductive Message where
  | ready
  | nothingToShow
  | previous
  | next
  | atFirst
  | atLast
  | jumpedFirst
  | jumpedLast
  | playing
  | paused
  | complete
  | asking (input : String)
  | cancelled
  | selected (id : Option String)
  | unknownId (wanted : String)
deriving Repr, DecidableEq

/-- The text of a message. -/
def Message.text : Message → String
  | ready => "Ready!"
  | nothingToShow => "No snapshots to show"
  | previous => "Previous snapshot"
  | next => "Next snapshot"
  | atFirst => "Already at the first snapshot"
  | atLast => "Already at the last snapshot"
  | jumpedFirst => "Jumped to first snapshot"
  | jumpedLast => "Jumped to last snapshot"
  | playing => "Playing..."
  | paused => "Paused"
  | complete => "Playback complete"
  | asking input => "Select id: " ++ input
  | cancelled => "Selection cancelled"
  | selected none => "Selected snapshot"
  | selected (some id) => "Selected snapshot " ++ id
  | unknownId wanted => s!"No snapshot with id '{wanted}'"

/-- The state of the viewer. -/
structure State where
  archive : Archive
  sheet : Sheet := {}
  cursor : Cursor := {}
  focus : Pane := .list
  listScroll : Nat := 0
  detailsScroll : Nat := 0
  quitting : Bool := false
  message : Message
  playing : Bool := false
  /-- When the slideshow was last started or moved. -/
  movedAt : Nat
  /-- When a key last started or stopped the slideshow. -/
  toggledAt : Nat
  prompt : Option String := none

namespace State

/-- The nanoseconds of a second, for which a slideshow shows a snapshot. -/
def showTime : Nat :=
  1000000000

/--
The least time between two presses of the key that starts and stops the
slideshow, a fifth of a second.
-/
def leastGap : Nat :=
  200000000

/--
The viewer of an archive before the first event.

The slideshow can be started at once: the key for it counts as pressed a second
ago, unless the clock does not go back that far.
-/
def start (archive : Archive) (sheet : Sheet) (now : Nat) : State where
  archive := archive
  sheet := sheet
  message := if archive.size = 0 then .nothingToShow else .ready
  movedAt := now
  toggledAt := if showTime ≤ now then now - showTime else now

/-- The snapshot on the screen. -/
def current? (state : State) : Option Snapshot :=
  state.cursor.current? state.archive

/-- Move to the snapshot before or after the current one. -/
def step (state : State) (forwards : Bool) : State :=
  let moved := state.cursor.step state.archive (if forwards then 1 else -1)
  if moved.answer then
    { state with
      cursor := moved.after
      detailsScroll := 0
      message := if forwards then .next else .previous }
  else if state.archive.size = 0 then
    { state with message := .nothingToShow }
  else
    { state with message := if forwards then .atLast else .atFirst }

/-- Stop the slideshow. -/
def stopped (state : State) : State :=
  { state with playing := false }

/--
The number that a numeral of a sequence number denotes, if it fits into 64 bits.
-/
def sequence? (text : List Char) : Option Nat :=
  let digits := if text.head? = some '+' then text.tail else text
  if digits ≠ [] ∧ digits.all Char.isDigit ∧
      Number.ofDigits digits < Number.twoTo 64 then
    some (Number.ofDigits digits)
  else
    none

/--
The cursor on the snapshot with the wanted id or, failing that, sequence number.
-/
def locate? (state : State) (wanted : String) : Option Cursor :=
  let jump (id : String) : Option Cursor :=
    let jumped := state.cursor.jumpTo state.archive id
    if jumped.answer then some jumped.after else none
  let bySequence : Option Cursor := do
    let sequence ← sequence? (wanted.toList.dropWhile (· = '#'))
    let id ← state.archive.ids.find? (·.sequence = sequence)
    jump id.text
  (jump wanted).or bySequence

/-- Show the snapshot that was asked for at the prompt. -/
def select (state : State) (wanted : String) : State :=
  if wanted.isEmpty then
    { state with message := .cancelled }
  else
    match state.locate? wanted with
    | none => { state with message := .unknownId wanted }
    | some cursor =>
        let id := (cursor.current? state.archive).map (·.id.text)
        { state with cursor, detailsScroll := 0, message := .selected id }

end State

/-- A key of the keyboard. -/
inductive Key where
  | char (c : Char)
  | left
  | right
  | up
  | down
  | enter
  | escape
  | tab
  | backspace
  | home
  | toEnd
  | other
deriving Repr, DecidableEq

namespace State

/-- Put what has been typed at the prompt into the message. -/
def typed (state : State) (input : String) : State :=
  { state with prompt := some input, message := .asking input }

/-- Press a key while the prompt is open. -/
def pressAtPrompt (state : State) (input : String) : Key → State
  | .escape => { state with prompt := none, message := .cancelled }
  | .enter => { state with prompt := none }.select (Text.trim input)
  | .backspace => state.typed (.ofList input.toList.dropLast)
  | .char c => state.typed (input.push c)
  | _ => state

/--
Start or stop the slideshow; only where it is started, it counts as moved.
-/
def togglePlay (state : State) (now : Nat) : State :=
  { state with
    playing := !state.playing
    movedAt := if state.playing then state.movedAt else now
    toggledAt := now
    message := if state.playing then .paused else .playing }

/-- The largest offset of a pane, which has sixty-four bits. -/
def maxOffset : Nat :=
  Number.twoTo 64 - 1

/-- Press a key while the prompt is closed. -/
def pressInViewer (state : State) (now : Nat) : Key → State
  | .char 'q' | .char 'Q' | .escape => { state with quitting := true }
  | .tab => { state with focus := state.focus.next }
  | .left => state.stopped.step false
  | .right => state.stopped.step true
  | .up =>
      match state.focus with
      | .list => state.stopped.step false
      | .details => { state with detailsScroll := state.detailsScroll - 1 }
  | .down =>
      match state.focus with
      | .list => state.stopped.step true
      | .details =>
          { state with
            detailsScroll := min (state.detailsScroll + 1) maxOffset }
  | .char ' ' =>
      if now - state.toggledAt < leastGap then state else state.togglePlay now
  | .enter | .toEnd =>
      { state.stopped with
        cursor := .last state.archive
        detailsScroll := 0
        message := .jumpedLast }
  | .backspace | .home =>
      { state.stopped with
        cursor := .first
        detailsScroll := 0
        message := .jumpedFirst }
  | .char 'g' | .char '/' => state.stopped.typed ""
  | _ => state

/-- Press a key. -/
def press (state : State) (key : Key) (now : Nat) : State :=
  match state.prompt with
  | some input => state.pressAtPrompt input key
  | none => state.pressInViewer now key

/-- Advance the slideshow if it has shown its snapshot for long enough. -/
def advance (state : State) (now : Nat) : State :=
  if state.playing ∧ showTime ≤ now - state.movedAt then
    let moved := state.cursor.step state.archive 1
    if moved.answer then
      { state with
        cursor := moved.after
        detailsScroll := 0
        movedAt := now
        message := .playing }
    else
      { state with playing := false, movedAt := now, message := .complete }
  else
    state

end State

end Storyboard.Viewer
