import Storyboard.Proofs.Snapshot.Growth
import Storyboard.Viewer.Draw

namespace Storyboard

/-!
# Sessions of the viewer

A session is a row of key presses, rounds and draws.  A press and a round come
at readings of the clock, in any order as far as it is told here.  None of them
touches the archive, none takes back the wish to quit, and one that moves the
cursor moves it to a position of the archive and scrolls the details to their
start.  That is `Follows`, which holds of every event.

From it the viewer shows a snapshot of its archive after any session, unless the
archive is empty.
-/

namespace Cursor

/-- A cursor is on a snapshot, or at the first position of an empty archive. -/
def Within (cursor : Cursor) (archive : Archive) : Prop :=
  cursor.position < archive.size ∨ archive.size = 0 ∧ cursor.position = 0

theorem within_first (archive : Archive) : first.Within archive := by
  simp only [Within, first, and_true]
  omega

theorem within_last (archive : Archive) : (last archive).Within archive := by
  simp only [Within, last]
  omega

/-- A cursor that steps steps to a position of the archive. -/
theorem within_step
    {cursor : Cursor}
    {archive : Archive}
    {distance : Int}
    (moved : (cursor.step archive distance).answer = true) :
    (cursor.step archive distance).after.Within archive := by
  simp only [step] at moved ⊢
  split at moved
  case isTrue inArchive =>
    left
    simp only [if_pos inArchive]
    omega
  case isFalse =>
    cases moved

/-- A cursor that jumps to an id jumps to a position of the archive. -/
theorem within_jumpTo
    {archive : Archive}
    (aligned : archive.Aligned)
    {cursor : Cursor}
    {text : String}
    (moved : (cursor.jumpTo archive text).answer = true) :
    (cursor.jumpTo archive text).after.Within archive := by
  cases found : archive.ids.findIdx? (·.text = text) with
  | none =>
      simp [jumpTo, found] at moved
  | some position =>
      left
      have inIds : position < archive.ids.size :=
        (Array.findIdx?_eq_some_iff_getElem.mp found).1
      rw [aligned.ids_eq, Array.size_map] at inIds
      simpa only [jumpTo, found, Archive.size] using inIds

end Cursor

namespace Viewer

/-- What can happen to the viewer. -/
inductive Event where
  | press (key : Key) (now : Nat)
  | round (width height now : Nat)
  | draw (width height : Nat)
deriving Repr, DecidableEq

namespace State

/-- The state after an event. -/
def handle (state : State) : Event → State
  | .press key now => state.press key now
  | .round width height now => (state.round width height now).after
  | .draw width height => (state.draw width height).after

def handleAll (state : State) (events : List Event) : State :=
  events.foldl handle state

/--
A later state shows the same archive, wants to quit if the earlier one did, and
has been moved to a position of the archive with its details unscrolled if it
has been moved at all.
-/
structure Follows (later earlier : State) : Prop where
  archive_eq :
    later.archive = earlier.archive
  quitting_of_quitting :
    earlier.quitting = true → later.quitting = true
  landed_of_moved :
    later.cursor ≠ earlier.cursor →
      later.detailsScroll = 0 ∧ later.cursor.Within later.archive

namespace Follows

variable {earlier middle later : State}

/-- A state follows one that differs in neither archive nor cursor. -/
theorem of_cursor_eq
    (archiveEq : later.archive = earlier.archive)
    (cursorEq : later.cursor = earlier.cursor)
    (quittingKept : earlier.quitting = true → later.quitting = true) :
    later.Follows earlier where
  archive_eq := archiveEq
  quitting_of_quitting := quittingKept
  landed_of_moved moved := absurd cursorEq moved

theorem refl (state : State) : state.Follows state :=
  of_cursor_eq rfl rfl id

/--
What follows a state with the same cursor follows the state before it, too.
-/
theorem trans_of_cursor_eq
    (second : later.Follows middle)
    (first : middle.Follows earlier)
    (cursorEq : middle.cursor = earlier.cursor) :
    later.Follows earlier where
  archive_eq := second.archive_eq.trans first.archive_eq
  quitting_of_quitting quitting :=
    second.quitting_of_quitting (first.quitting_of_quitting quitting)
  landed_of_moved moved := second.landed_of_moved (cursorEq ▸ moved)

/-- A cursor within the archive is still within it later. -/
theorem within
    (follows : later.Follows earlier)
    (earlierWithin : earlier.cursor.Within earlier.archive) :
    later.cursor.Within later.archive := by
  by_cases moved : later.cursor = earlier.cursor
  · rw [moved, follows.archive_eq]
    exact earlierWithin
  · exact (follows.landed_of_moved moved).2

end Follows

/--
A state with another cursor follows if its details are unscrolled and the cursor
is within.
-/
theorem follows_of_within
    {earlier later : State}
    (archiveEq : later.archive = earlier.archive)
    (quittingEq : later.quitting = earlier.quitting)
    (unscrolled : later.detailsScroll = 0)
    (within : later.cursor.Within later.archive) :
    later.Follows earlier where
  archive_eq := archiveEq
  quitting_of_quitting quitting := quittingEq.trans quitting
  landed_of_moved _ := ⟨unscrolled, within⟩

theorem follows_step (state : State) (forwards : Bool) :
    (state.step forwards).Follows state := by
  by_cases moved :
      (state.cursor.step state.archive (if forwards then 1 else -1)).answer =
        true
  · simp only [step, if_pos moved]
    exact follows_of_within rfl rfl rfl (Cursor.within_step moved)
  · simp only [step, if_neg moved]
    split <;> exact .of_cursor_eq rfl rfl id

/-- The cursor that is located for a text is within the archive. -/
theorem within_locate?
    {state : State}
    (aligned : state.archive.Aligned)
    {wanted : String}
    {cursor : Cursor}
    (located : state.locate? wanted = some cursor) :
    cursor.Within state.archive := by
  have jumped
      {text : String}
      (found :
        (if (state.cursor.jumpTo state.archive text).answer then
          some (state.cursor.jumpTo state.archive text).after
        else none) = some cursor) :
      cursor.Within state.archive := by
    split at found
    case isTrue moved =>
      cases found
      exact Cursor.within_jumpTo aligned moved
    case isFalse =>
      cases found
  rw [locate?, Option.or_eq_some_iff] at located
  obtain byText | ⟨-, bySequence⟩ := located
  · exact jumped byText
  · simp only [Option.bind_eq_bind, Option.bind_eq_some_iff] at bySequence
    obtain ⟨_, -, _, -, found⟩ := bySequence
    exact jumped found

theorem follows_select
    {state : State}
    (aligned : state.archive.Aligned)
    (wanted : String) :
    (state.select wanted).Follows state := by
  unfold select
  split
  case isTrue =>
    exact .of_cursor_eq rfl rfl id
  case isFalse =>
    split
    case h_1 =>
      exact .of_cursor_eq rfl rfl id
    case h_2 located =>
      exact follows_of_within rfl rfl rfl (within_locate? aligned located)

theorem follows_pressAtPrompt
    {state : State}
    (aligned : state.archive.Aligned)
    (input : String)
    (key : Key) :
    (state.pressAtPrompt input key).Follows state := by
  cases key with
  | enter =>
      let closed : State := { state with prompt := none }
      have closedAligned : closed.archive.Aligned := aligned
      exact (follows_select closedAligned _).trans_of_cursor_eq
        (.of_cursor_eq rfl rfl id) rfl
  | _ =>
      exact .of_cursor_eq rfl rfl id

/--
Stopping the slideshow before a step makes no difference to where the cursor
goes.
-/
theorem follows_stopped_step (state : State) (forwards : Bool) :
    (state.stopped.step forwards).Follows state :=
  (follows_step state.stopped forwards).trans_of_cursor_eq
    (.of_cursor_eq rfl rfl id) rfl

theorem follows_pressInViewer (state : State) (now : Nat) (key : Key) :
    (state.pressInViewer now key).Follows state := by
  fun_cases pressInViewer state now key
  all_goals first
    | exact follows_stopped_step state _
    | exact .of_cursor_eq rfl rfl id
    | exact .of_cursor_eq rfl rfl fun _ => rfl
    | exact follows_of_within rfl rfl rfl (Cursor.within_last _)
    | exact follows_of_within rfl rfl rfl (Cursor.within_first _)

theorem follows_press
    {state : State}
    (aligned : state.archive.Aligned)
    (key : Key)
    (now : Nat) :
    (state.press key now).Follows state := by
  unfold press
  split
  case h_1 input _ =>
    exact follows_pressAtPrompt aligned input key
  case h_2 =>
    exact follows_pressInViewer state now key

theorem follows_advance (state : State) (now : Nat) :
    (state.advance now).Follows state := by
  simp only [advance]
  split
  case isTrue =>
    split
    case isTrue moved =>
      exact follows_of_within rfl rfl rfl (Cursor.within_step moved)
    case isFalse =>
      exact .of_cursor_eq rfl rfl id
  case isFalse =>
    exact .refl state

theorem follows_draw (state : State) (width height : Nat) :
    (state.draw width height).after.Follows state :=
  .of_cursor_eq rfl rfl id

/-- A round draws, which leaves the cursor alone, before it moves it. -/
theorem follows_round (state : State) (width height now : Nat) :
    (state.round width height now).after.Follows state := by
  have drawn := follows_draw state width height
  simp only [round]
  split
  case isTrue =>
    exact drawn
  case isFalse =>
    exact (follows_advance _ now).trans_of_cursor_eq drawn rfl

/--
Whatever happens to the viewer, the state after it follows the one before.
-/
theorem follows_handle
    {state : State}
    (aligned : state.archive.Aligned)
    (event : Event) :
    (state.handle event).Follows state := by
  cases event with
  | press key now =>
      exact follows_press aligned key now
  | round width height now =>
      exact follows_round state width height now
  | draw width height =>
      exact follows_draw state width height

/--
The state has the archive, whose ids and index are in step, and its cursor is
within it.
-/
structure Watches (state : State) (archive : Archive) : Prop where
  archive_eq : state.archive = archive
  aligned : archive.Aligned
  within : state.cursor.Within archive

namespace Watches

variable {state : State} {archive : Archive}

/-- The viewer starts on the first snapshot. -/
theorem start
    (aligned : archive.Aligned)
    (sheet : Sheet)
    (now : Nat) :
    (start archive sheet now).Watches archive where
  archive_eq := rfl
  aligned := aligned
  within := Cursor.within_first archive

theorem follows_handle (watches : state.Watches archive) (event : Event) :
    (state.handle event).Follows state :=
  State.follows_handle (watches.archive_eq ▸ watches.aligned) event

theorem handle (watches : state.Watches archive) (event : Event) :
    (state.handle event).Watches archive where
  archive_eq :=
    (watches.follows_handle event).archive_eq.trans watches.archive_eq
  aligned := watches.aligned
  within := by
    have follows := watches.follows_handle event
    have archiveEq := follows.archive_eq.trans watches.archive_eq
    rw [← archiveEq]
    apply follows.within
    rw [watches.archive_eq]
    exact watches.within

/-- A session leaves the viewer within its archive. -/
theorem handleAll (watches : state.Watches archive) (events : List Event) :
    (state.handleAll events).Watches archive := by
  induction events generalizing state with
  | nil =>
      exact watches
  | cons event rest inductionHypothesis =>
      exact inductionHypothesis (watches.handle event)

theorem quitting_handleAll
    (watches : state.Watches archive)
    (quitting : state.quitting = true)
    (events : List Event) :
    (state.handleAll events).quitting = true := by
  induction events generalizing state with
  | nil =>
      exact quitting
  | cons event rest inductionHypothesis =>
      exact inductionHypothesis (watches.handle event)
        ((watches.follows_handle event).quitting_of_quitting quitting)

end Watches

/--
What a viewer within an archive shows of it: a snapshot, counted from one in the
status bar, or nothing if the archive is empty.
-/
structure Shows (state : State) (archive : Archive) : Prop where
  position_bound :
    state.cursor.position < archive.size ∨
      archive.size = 0 ∧ state.cursor.position = 0
  current_exists :
    archive.size ≠ 0 →
      ∃ snapshot,
        state.current? = some snapshot ∧
          archive.get? state.cursor.position = some snapshot
  position_counted :
    archive.size ≠ 0 →
      ∃ number,
        1 ≤ number ∧ number ≤ archive.size ∧
          number = state.cursor.position + 1 ∧
            state.status.positionText = s!" Snapshot {number}/{archive.size} "
  nothing_counted :
    archive.size = 0 →
      state.status.positionText = " Snapshot 0/0 "

/-- A viewer that watches an archive shows a snapshot of it if there is one. -/
theorem Watches.shows
    {state : State}
    {archive : Archive}
    (watches : state.Watches archive) :
    state.Shows archive := by
  obtain ⟨rfl, -, within⟩ := watches
  have inArchive (notEmpty : state.archive.size ≠ 0) :
      state.cursor.position < state.archive.size :=
    within.resolve_right fun empty => notEmpty empty.1
  refine ⟨within, ?current, ?counted, ?nothing⟩
  case current =>
    intro notEmpty
    obtain ⟨snapshot, found⟩ :
        ∃ snapshot, state.archive.get? state.cursor.position = some snapshot :=
      ⟨_, Array.getElem?_eq_getElem (inArchive notEmpty)⟩
    exact ⟨snapshot, found, found⟩
  case counted =>
    intro notEmpty
    exact ⟨_, Nat.le_add_left 1 _, inArchive notEmpty, rfl, if_neg notEmpty⟩
  case nothing =>
    intro isEmpty
    exact if_pos isEmpty

/--
Whatever archive the viewer is started on, after any session it shows a snapshot
of that archive unless there is none, an event that moves the cursor unscrolls
the details, and a viewer that is to quit stays so.
-/
theorem consistent_in_session
    (clock : Clock)
    (calls : List Archive.Call)
    (sheet : Sheet)
    (begun : Nat)
    (session : List Event) :
    let archive := (Archive.empty.performAll clock calls).after
    let state := (start archive sheet begun).handleAll session
    state.Shows archive ∧
      (∀ event,
        (state.handle event).Shows archive ∧
          ((state.handle event).cursor ≠ state.cursor →
            (state.handle event).detailsScroll = 0)) ∧
      ∀ further,
        state.quitting = true →
          (state.handleAll further).quitting = true := by
  intro archive state
  have watches : state.Watches archive :=
    (Watches.start
      ((Archive.aligned_clear .empty).performAll clock calls) sheet
        begun).handleAll session
  refine ⟨watches.shows, ?step, ?quit⟩
  case step =>
    intro event
    have follows := watches.follows_handle event
    exact ⟨(watches.handle event).shows,
      fun moved => (follows.landed_of_moved moved).1⟩
  case quit =>
    intro further quitting
    exact watches.quitting_handleAll quitting further

end State

end Viewer

end Storyboard
