import Storyboard.Proofs.Viewer.Session

namespace Storyboard.Viewer

/-!
# The slideshow runs to the last snapshot

Without a key only a round can move the slideshow on, and only one that comes a
second or more after it was last started or moved.  Such a round is due.  It
shows the next snapshot, or ends the slideshow on the last one, and keeps its
reading of the clock; any other round and every draw leaves the slideshow as it
is.  How far a row of events has come is therefore told by how many rounds of it
are due, each by the state that it finds.
-/

def Event.isPress : Event → Bool
  | .press .. => true
  | .round .. | .draw .. => false

namespace State

/--
Whether an event is a round a second or more after the slideshow was last moved.
-/
def isDue (state : State) : Event → Bool
  | .round _ _ now => showTime ≤ now - state.movedAt
  | .press .. | .draw .. => false

/--
How many events are due rounds, each in the state that those before it leave.
-/
def dueRounds (state : State) : List Event → Nat
  | [] => 0
  | event :: rest =>
      (if state.isDue event then 1 else 0) + (state.handle event).dueRounds rest

/-- A later state is at the same place of the slideshow as an earlier one. -/
structure SamePlace (later earlier : State) : Prop where
  archive_eq :
    later.archive = earlier.archive
  cursor_eq :
    later.cursor = earlier.cursor
  playing_eq :
    later.playing = earlier.playing
  movedAt_eq :
    later.movedAt = earlier.movedAt
  quitting_eq :
    later.quitting = earlier.quitting

theorem SamePlace.trans
    {later middle earlier : State}
    (second : later.SamePlace middle)
    (first : middle.SamePlace earlier) :
    later.SamePlace earlier where
  archive_eq := second.archive_eq.trans first.archive_eq
  cursor_eq := second.cursor_eq.trans first.cursor_eq
  playing_eq := second.playing_eq.trans first.playing_eq
  movedAt_eq := second.movedAt_eq.trans first.movedAt_eq
  quitting_eq := second.quitting_eq.trans first.quitting_eq

/-- The slideshow of an archive runs and has come to a position. -/
structure PlaysAt
    (state : State)
    (archive : Archive)
    (position : Nat) : Prop where
  archive_eq :
    state.archive = archive
  position_eq :
    state.cursor.position = position
  playing :
    state.playing = true
  staying :
    state.quitting = false

section OneEvent

variable
  {state : State}
  {archive : Archive}
  {position : Nat}
  {event : Event}

theorem samePlace_draw (state : State) (width height : Nat) :
    (state.draw width height).after.SamePlace state :=
  ⟨rfl, rfl, rfl, rfl, rfl⟩

theorem advance_of_stopped
    (stopped : state.playing = false)
    (now : Nat) :
    state.advance now = state := by
  simp [advance, stopped]

theorem advance_of_early
    {now : Nat}
    (early : ¬showTime ≤ now - state.movedAt) :
    state.advance now = state := by
  simp [advance, early]

/-- A round that does not advance the slideshow is no more than a draw. -/
theorem samePlace_round
    {width height now : Nat}
    (waits :
      (state.draw width height).after.advance now =
        (state.draw width height).after) :
    (state.round width height now).after.SamePlace state := by
  simp only [round, waits]
  split
  · exact samePlace_draw state width height
  · exact samePlace_draw state width height

/-- No event but a key or a due round moves the slideshow. -/
theorem samePlace_handle_of_not_due
    (noKey : event.isPress = false)
    (notDue : state.isDue event = false) :
    (state.handle event).SamePlace state := by
  cases event with
  | press =>
      cases noKey
  | round width height now =>
      have early : ¬showTime ≤ now - (state.draw width height).after.movedAt :=
        of_decide_eq_false notDue
      exact samePlace_round (advance_of_early early)
  | draw width height =>
      exact samePlace_draw state width height

/-- Once it has ended, only a key starts the slideshow again. -/
theorem samePlace_handle_of_stopped
    (stopped : state.playing = false)
    (noKey : event.isPress = false) :
    (state.handle event).SamePlace state := by
  cases event with
  | press =>
      cases noKey
  | round width height now =>
      have drawnStopped :
          (state.draw width height).after.playing = false := stopped
      exact samePlace_round (advance_of_stopped drawnStopped now)
  | draw width height =>
      exact samePlace_draw state width height

/-- A due round advances the slideshow of the drawn viewer. -/
theorem handle_of_due
    (plays : state.PlaysAt archive position)
    (due : state.isDue event = true) :
    ∃ (drawn : State) (now : Nat),
      drawn.PlaysAt archive position ∧
        drawn.SamePlace state ∧
        showTime ≤ now - drawn.movedAt ∧
        state.handle event = drawn.advance now := by
  cases event with
  | press | draw =>
      cases due
  | round width height now =>
      let drawn := (state.draw width height).after
      have staysDrawn : drawn.quitting = false := plays.staying
      refine
        ⟨drawn, now, ?_, samePlace_draw state width height,
          of_decide_eq_true due, ?_⟩
      · exact ⟨plays.archive_eq, plays.position_eq, plays.playing,
          plays.staying⟩
      · simp [handle, round, drawn, staysDrawn]

/--
Before the last snapshot, a due round shows the next one, a second or more
later.
-/
theorem playsAt_handle_of_due
    (plays : state.PlaysAt archive position)
    (due : state.isDue event = true)
    (before : position + 1 < archive.size) :
    (state.handle event).PlaysAt archive (position + 1) ∧
      state.movedAt + showTime ≤ (state.handle event).movedAt := by
  rcases handle_of_due plays due with
    ⟨drawn, now, drawnPlays, same, passed, result⟩
  have moves :
      drawn.cursor.step drawn.archive 1 = ⟨true, ⟨position + 1⟩⟩ := by
    rw [Cursor.step, drawnPlays.archive_eq, drawnPlays.position_eq,
      if_pos (by omega)]
    rfl
  rw [result]
  simp only [advance, drawnPlays.playing, passed, moves, and_self, if_true]
  refine ⟨⟨drawnPlays.archive_eq, rfl, rfl, drawnPlays.staying⟩, ?_⟩
  rw [← same.movedAt_eq]
  have someTime : 0 < showTime := by decide
  omega

/-- On the last snapshot, a due round ends the slideshow. -/
theorem ends_handle_of_due
    (plays : state.PlaysAt archive position)
    (due : state.isDue event = true)
    (atLast : archive.size ≤ position + 1) :
    (state.handle event).cursor = state.cursor ∧
      (state.handle event).playing = false ∧
      (state.handle event).message = .complete := by
  rcases handle_of_due plays due with
    ⟨drawn, now, drawnPlays, same, passed, result⟩
  have stays :
      drawn.cursor.step drawn.archive 1 = ⟨false, drawn.cursor⟩ := by
    rw [Cursor.step, drawnPlays.archive_eq, drawnPlays.position_eq,
      if_neg (by omega)]
  rw [result]
  simp only [advance, drawnPlays.playing, passed, stays, and_self, if_true]
  exact ⟨same.cursor_eq, rfl, rfl⟩

/--
An event without a key that ends the slideshow is a due round on the last
snapshot.
-/
theorem ends_of_stopped_handle
    (plays : state.PlaysAt archive position)
    (noKey : event.isPress = false)
    (hasEnded : (state.handle event).playing = false) :
    (state.handle event).cursor = state.cursor ∧
      (state.handle event).message = .complete := by
  cases due : state.isDue event with
  | false =>
      have same : (state.handle event).SamePlace state :=
        samePlace_handle_of_not_due noKey due
      rw [same.playing_eq, plays.playing] at hasEnded
      cases hasEnded
  | true =>
      by_cases before : position + 1 < archive.size
      · rw [(playsAt_handle_of_due plays due before).1.playing] at hasEnded
        cases hasEnded
      · obtain ⟨sameCursor, -, message⟩ :=
          ends_handle_of_due plays due (Nat.le_of_not_lt before)
        exact ⟨sameCursor, message⟩

end OneEvent

section ManyEvents

variable
  {state : State}
  {archive : Archive}
  {position : Nat}
  {events : List Event}

theorem samePlace_handleAll_of_stopped
    (stopped : state.playing = false)
    (noKeys : ∀ event ∈ events, event.isPress = false) :
    (state.handleAll events).SamePlace state := by
  induction events generalizing state with
  | nil =>
      exact ⟨rfl, rfl, rfl, rfl, rfl⟩
  | cons event rest inductionHypothesis =>
      rw [List.forall_mem_cons] at noKeys
      have first := samePlace_handle_of_stopped stopped noKeys.1
      exact (inductionHypothesis (first.playing_eq.trans stopped)
        noKeys.2).trans first

theorem PlaysAt.of_samePlace
    {later : State}
    (plays : state.PlaysAt archive position)
    (same : later.SamePlace state) :
    later.PlaysAt archive position where
  archive_eq := same.archive_eq.trans plays.archive_eq
  position_eq :=
    (congrArg Cursor.position same.cursor_eq).trans plays.position_eq
  playing := same.playing_eq.trans plays.playing
  staying := same.quitting_eq.trans plays.staying

theorem dueRounds_cons_of_due (due : state.isDue event = true) :
    state.dueRounds (event :: events) =
      (state.handle event).dueRounds events + 1 := by
  rw [dueRounds, if_pos due, Nat.add_comm]

theorem dueRounds_cons_of_not_due (notDue : state.isDue event = false) :
    state.dueRounds (event :: events) =
      (state.handle event).dueRounds events := by
  rw [dueRounds, notDue, if_neg Bool.false_ne_true, Nat.zero_add]

/--
Every due round takes the slideshow one position further until there is none
left, and the one after that ends it on the last position.  The snapshots on the
way are shown for a second each at least.
-/
theorem place_handleAll
    (plays : state.PlaysAt archive position)
    (within : position ≤ archive.size - 1)
    (noKeys : ∀ event ∈ events, event.isPress = false) :
    let later := state.handleAll events
    let rounds := state.dueRounds events
    (rounds = 0 ∨ position + rounds < archive.size →
        later.PlaysAt archive (position + rounds) ∧
          state.movedAt + rounds * showTime ≤ later.movedAt) ∧
      (1 ≤ rounds → archive.size ≤ position + rounds →
        later.cursor.position = archive.size - 1 ∧ later.playing = false) := by
  induction events generalizing state position with
  | nil =>
      intro later rounds
      exact
        ⟨fun _ => ⟨plays, Nat.le_of_eq (by simp [rounds, dueRounds, later,
          handleAll])⟩,
          fun someRound => absurd someRound (Nat.not_succ_le_zero 0)⟩
  | cons event rest inductionHypothesis =>
      intro later rounds
      rw [List.forall_mem_cons] at noKeys
      cases due : state.isDue event with
      | false =>
          have counted : rounds = (state.handle event).dueRounds rest :=
            dueRounds_cons_of_not_due due
          have same := samePlace_handle_of_not_due noKeys.1 due
          rw [counted, ← same.movedAt_eq]
          exact inductionHypothesis (plays.of_samePlace same) within noKeys.2
      | true =>
          have counted : rounds = (state.handle event).dueRounds rest + 1 :=
            dueRounds_cons_of_due due
          by_cases before : position + 1 < archive.size
          · have further :
                position + rounds =
                  position + 1 + (state.handle event).dueRounds rest := by
              omega
            obtain ⟨playsNext, movedLater⟩ :=
              playsAt_handle_of_due plays due before
            obtain ⟨playsFurther, endsFurther⟩ :=
              inductionHypothesis playsNext (by omega) noKeys.2
            rw [further]
            constructor
            · intro _
              obtain ⟨playsOn, movedOn⟩ := playsFurther (by omega)
              refine ⟨playsOn, ?_⟩
              calc
                state.movedAt + rounds * showTime =
                    state.movedAt + showTime +
                      (state.handle event).dueRounds rest * showTime := by
                  rw [counted, Nat.add_one_mul, Nat.add_comm (_ * showTime),
                    Nat.add_assoc]
                _ ≤ (state.handle event).movedAt +
                      (state.handle event).dueRounds rest * showTime :=
                  Nat.add_le_add_right movedLater _
                _ ≤ later.movedAt := movedOn
            · intro _ noneLeft
              exact endsFurther (by omega) noneLeft
          · rcases ends_handle_of_due plays due (Nat.le_of_not_lt before) with
              ⟨sameCursor, ended, -⟩
            have same : later.SamePlace (state.handle event) :=
              samePlace_handleAll_of_stopped ended noKeys.2
            constructor
            · intro someLeft
              omega
            · intro _ _
              refine ⟨?_, same.playing_eq.trans ended⟩
              rw [same.cursor_eq, sameCursor, plays.position_eq]
              omega

end ManyEvents

/--
From a viewer that plays its archive, each round that comes a second or more
after the slideshow was started or last moved takes it to the next snapshot,
until it has shown the last one; the next such round ends it, says so and leaves
the last snapshot on the screen.  Draws and earlier rounds in between make no
difference, nothing but a key starts it again, and while it plays no snapshot is
left before a second is over.
-/
theorem slideshow_shows_rest_and_ends
    (clock : Clock)
    (calls : List Archive.Call)
    (sheet : Sheet)
    (begun : Nat)
    (session : List Event) :
    let archive := (Archive.empty.performAll clock calls).after
    let state := (start archive sheet begun).handleAll session
    state.playing = true →
    state.quitting = false →
      ∀ events,
        (∀ event ∈ events, event.isPress = false) →
          let later := state.handleAll events
          let rounds := state.dueRounds events
          later.cursor.position =
              min (state.cursor.position + rounds) (archive.size - 1) ∧
            (rounds = 0 → later.playing = true) ∧
            (1 ≤ rounds →
              (later.playing = true ↔
                state.cursor.position + rounds < archive.size)) ∧
            (later.playing = true →
              state.movedAt + rounds * showTime ≤ later.movedAt) ∧
            ∀ event,
              event.isPress = false →
              later.playing = true →
              (later.handle event).playing = false →
                (later.handle event).cursor = later.cursor ∧
                  (later.handle event).message.text = "Playback complete" ∧
                  ∀ further,
                    (∀ event ∈ further, event.isPress = false) →
                      ((later.handle event).handleAll further).cursor =
                        later.cursor ∧
                        ((later.handle event).handleAll further).playing =
                          false := by
  intro archive state isPlaying staying events noKeys later rounds
  have watches : state.Watches archive :=
    (Watches.start
      ((Archive.aligned_clear .empty).performAll clock calls) sheet
        begun).handleAll session
  have plays : state.PlaysAt archive state.cursor.position :=
    ⟨watches.archive_eq, rfl, isPlaying, staying⟩
  have within : state.cursor.position ≤ archive.size - 1 := by
    rcases watches.within with inArchive | ⟨-, isFirst⟩
    · exact Nat.le_sub_one_of_lt inArchive
    · exact isFirst ▸ Nat.zero_le _
  obtain ⟨playsOn, ends⟩ := place_handleAll plays within noKeys
  have goesOn (stillPlaying : later.playing = true) :
      rounds = 0 ∨ state.cursor.position + rounds < archive.size := by
    by_contra noneLeft
    rw [(ends (by omega) (by omega)).2] at stillPlaying
    cases stillPlaying
  refine ⟨?position, ?noRound, ?someRound, ?shown, ?ending⟩
  case position =>
    by_cases someLeft :
      rounds = 0 ∨ state.cursor.position + rounds < archive.size
    · rw [(playsOn someLeft).1.position_eq]
      omega
    · rw [(ends (by omega) (by omega)).1]
      omega
  case noRound =>
    intro noRound
    exact (playsOn (.inl noRound)).1.playing
  case someRound =>
    intro someRound
    constructor
    · intro stillPlaying
      exact (goesOn stillPlaying).resolve_left
        (Nat.pos_iff_ne_zero.mp someRound)
    · intro someLeft
      exact (playsOn (.inr someLeft)).1.playing
  case shown =>
    intro stillPlaying
    exact (playsOn (goesOn stillPlaying)).2
  case ending =>
    intro event noKey wasPlaying hasEnded
    obtain ⟨sameCursor, message⟩ :=
      ends_of_stopped_handle (playsOn (goesOn wasPlaying)).1 noKey hasEnded
    refine ⟨sameCursor, congrArg Message.text message,
      fun further noFurtherKeys => ?_⟩
    have same := samePlace_handleAll_of_stopped hasEnded noFurtherKeys
    exact ⟨same.cursor_eq.trans sameCursor, same.playing_eq.trans hasEnded⟩

/--
Two snapshots, the first on the screen: of two due rounds the second ends the
slideshow.
-/
theorem slideshow_ends_after_two :
    let clock : Clock := fun _ => ⟨2024, 3, 9, 14, 5, 7, 0⟩
    let calls : List Archive.Call := [.capture "one" [], .capture "two" []]
    let archive := (Archive.empty.performAll clock calls).after
    let session : List Event := [.press (.char ' ') 1000000000]
    let state := (start archive {} 0).handleAll session
    let events : List Event :=
      [.round 80 24 1999999999, .round 80 24 2100000000, .draw 2 1,
        .round 80 24 3000000000, .round 0 0 3100000000]
    archive.size = 2 ∧
      state.cursor.position = 0 ∧
      state.playing = true ∧
      state.quitting = false ∧
      (∀ event ∈ events, event.isPress = false) ∧
      (state.handleAll events).cursor.position = 1 ∧
      (state.handleAll events).playing = false := by
  intro clock calls archive session state events
  have twoSnapshots : archive.size = 2 := by
    decide +kernel
  have isFirst : state.cursor.position = 0 := by
    decide +kernel
  have isPlaying : state.playing = true := by
    decide +kernel
  have staying : state.quitting = false := by
    decide +kernel
  have noKeys : ∀ event ∈ events, event.isPress = false := by
    decide
  have twoRounds : state.dueRounds events = 2 := by
    decide +kernel
  obtain ⟨isPosition, -, playsOn, -⟩ :=
    slideshow_shows_rest_and_ends clock calls
      {} 0 session isPlaying staying events noKeys
  refine ⟨twoSnapshots, isFirst, isPlaying, staying, noKeys, ?_, ?_⟩
  · rw [isPosition, twoRounds]
    change min (state.cursor.position + 2) (archive.size - 1) = 1
    rw [isFirst, twoSnapshots]
    rfl
  · have noneLeft : ¬state.cursor.position + 2 < archive.size := by
      rw [isFirst, twoSnapshots]
      decide
    rw [twoRounds] at playsOn
    exact Bool.eq_false_iff.mpr (mt (playsOn (by decide)).mp noneLeft)

end State

end Storyboard.Viewer
