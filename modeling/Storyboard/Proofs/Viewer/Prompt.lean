import Storyboard.Proofs.Viewer.Session

namespace Storyboard.Viewer

/-!
# The prompt takes every key

The key that opens the prompt stops the slideshow.  From then on all keys go to
the prompt, and a round has no slideshow to advance, so beside the input nothing
but the windows of the panes changes.  `Asking` says so of a state and of the
one in which the prompt was opened.  Every event keeps it except for the two
keys that close the prompt, and no other key opens one.
-/

/-- A key that opens the prompt. -/
def Key.OpensPrompt (key : Key) : Prop :=
  key = .char 'g' ∨ key = .char '/'

/-- Whether an event leaves an open prompt open. -/
def Event.keepsPrompt : Event → Bool
  | .press .enter _ | .press .escape _ => false
  | .press .. | .round .. | .draw .. => true

/--
The input after a key: a character is put at its end, a backspace takes its last
one.
-/
def Key.edited (input : List Char) : Key → List Char
  | .char c => input ++ [c]
  | .backspace => input.dropLast
  | _ => input

def Event.edited (input : List Char) : Event → List Char
  | .press key _ => key.edited input
  | .round .. | .draw .. => input

/-- What events type at a prompt that has just been opened. -/
def typedBy (events : List Event) : List Char :=
  events.foldl Event.edited []

namespace State

/--
A later state has the archive, position, focus and quit flag of an earlier one.
-/
structure RestsAt (later earlier : State) : Prop where
  archive_eq :
    later.archive = earlier.archive
  cursor_eq :
    later.cursor = earlier.cursor
  focus_eq :
    later.focus = earlier.focus
  quitting_eq :
    later.quitting = earlier.quitting

theorem RestsAt.trans
    {later middle earlier : State}
    (first : middle.RestsAt earlier)
    (second : later.RestsAt middle) :
    later.RestsAt earlier where
  archive_eq := second.archive_eq.trans first.archive_eq
  cursor_eq := second.cursor_eq.trans first.cursor_eq
  focus_eq := second.focus_eq.trans first.focus_eq
  quitting_eq := second.quitting_eq.trans first.quitting_eq

/-- The prompt shows an input, and the viewer has rested since it was opened. -/
structure Asking (state opened : State) (input : List Char) : Prop where
  prompt_eq :
    state.prompt = some (.ofList input)
  message_eq :
    state.message = .asking (.ofList input)
  playing_eq :
    state.playing = false
  rests :
    state.RestsAt opened

theorem asking_press
    {state : State}
    (closed : state.prompt = none)
    {key : Key}
    (opens : key.OpensPrompt)
    (now : Nat) :
    (state.press key now).Asking state [] := by
  unfold press
  rw [closed]
  rcases opens with rfl | rfl
  · exact ⟨rfl, rfl, rfl, ⟨rfl, rfl, rfl, rfl⟩⟩
  · exact ⟨rfl, rfl, rfl, ⟨rfl, rfl, rfl, rfl⟩⟩

namespace Asking

variable
  {state opened : State}
  {input : List Char}

/-- An edited input is shown in place of the one before it. -/
theorem typed
    (asking : state.Asking opened input)
    {edited : String}
    {letters : List Char}
    (isEdited : edited = .ofList letters) :
    (state.typed edited).Asking opened letters where
  prompt_eq := by
    rw [← isEdited]
    rfl
  message_eq := by
    rw [← isEdited]
    rfl
  playing_eq := asking.playing_eq
  rests := asking.rests.trans ⟨rfl, rfl, rfl, rfl⟩

theorem press
    (asking : state.Asking opened input)
    (key : Key)
    (now : Nat)
    (keeps : (Event.press key now).keepsPrompt = true) :
    (state.press key now).Asking opened (key.edited input) := by
  unfold State.press
  rw [asking.prompt_eq]
  cases key with
  | enter | escape =>
      cases keeps
  | char c =>
      have isEdited :
          (String.ofList input).push c = .ofList (input ++ [c]) := by
        rw [← String.toList_inj, String.toList_push, String.toList_ofList,
          String.toList_ofList]
      exact asking.typed isEdited
  | backspace =>
      have isEdited :
          String.ofList (String.ofList input).toList.dropLast =
            .ofList input.dropLast := by
        rw [String.toList_ofList]
      exact asking.typed isEdited
  | left | right | up | down | tab | home | toEnd | other =>
      exact asking

/--
A draw fits the windows of the panes, which the prompt has nothing to do with.
-/
theorem draw
    (asking : state.Asking opened input)
    (width height : Nat) :
    (state.draw width height).after.Asking opened input where
  prompt_eq := asking.prompt_eq
  message_eq := asking.message_eq
  playing_eq := asking.playing_eq
  rests := asking.rests.trans ⟨rfl, rfl, rfl, rfl⟩

theorem advance_eq
    (asking : state.Asking opened input)
    (now : Nat) :
    state.advance now = state := by
  simp [advance, asking.playing_eq]

theorem round
    (asking : state.Asking opened input)
    (width height now : Nat) :
    (state.round width height now).after.Asking opened input := by
  have drawn := asking.draw width height
  simp only [State.round]
  split
  · exact drawn
  · rw [drawn.advance_eq]
    exact drawn

theorem handle
    (asking : state.Asking opened input)
    {event : Event}
    (keeps : event.keepsPrompt = true) :
    (state.handle event).Asking opened (event.edited input) := by
  cases event with
  | press key now =>
      exact asking.press key now keeps
  | round width height now =>
      exact asking.round width height now
  | draw width height =>
      exact asking.draw width height

/--
As long as no key closes the prompt, events do no more than edit its input.
-/
theorem handleAll
    (asking : state.Asking opened input)
    {events : List Event}
    (keep : ∀ event ∈ events, event.keepsPrompt = true) :
    (state.handleAll events).Asking opened
      (events.foldl Event.edited input) := by
  induction events generalizing state input with
  | nil =>
      exact asking
  | cons event rest inductionHypothesis =>
      rw [List.forall_mem_cons] at keep
      exact inductionHypothesis (asking.handle keep.1) keep.2

/-- The key that gives a prompt up leaves the viewer as it was. -/
theorem rests_press_escape
    (asking : state.Asking opened input)
    (now : Nat) :
    (state.press .escape now).prompt = none ∧
      (state.press .escape now).RestsAt opened := by
  unfold State.press
  rw [asking.prompt_eq]
  exact ⟨rfl, asking.rests.trans ⟨rfl, rfl, rfl, rfl⟩⟩

end Asking

section Opening

variable (state : State)

theorem prompt_step (forwards : Bool) :
    (state.step forwards).prompt = state.prompt := by
  simp only [step]
  split_ifs <;> rfl

theorem prompt_select (wanted : String) :
    (state.select wanted).prompt = state.prompt := by
  unfold select
  split
  · rfl
  · split <;> rfl

theorem prompt_advance (now : Nat) :
    (state.advance now).prompt = state.prompt := by
  simp only [advance]
  split_ifs <;> rfl

theorem prompt_round (width height now : Nat) :
    (state.round width height now).after.prompt = state.prompt := by
  simp only [round]
  split
  · rfl
  · exact prompt_advance _ now

theorem prompt_pressInViewer (now : Nat) (key : Key) :
    (state.pressInViewer now key).prompt = state.prompt ∨ key.OpensPrompt := by
  fun_cases pressInViewer state now key
  all_goals first
    | exact .inr (.inl rfl)
    | exact .inr (.inr rfl)
    | exact .inl (prompt_step state.stopped _)
    | exact .inl rfl

end Opening

theorem handleAll_append (state : State) (first second : List Event) :
    state.handleAll (first ++ second) =
      (state.handleAll first).handleAll second :=
  List.foldl_append

/-- Nothing opens a prompt but the keys for it. -/
theorem opens_of_prompt_handle
    {state : State}
    (closed : state.prompt = none)
    {event : Event}
    {input : String}
    (isOpen : (state.handle event).prompt = some input) :
    ∃ key now, event = .press key now ∧ key.OpensPrompt := by
  cases event with
  | press key now =>
      refine ⟨key, now, rfl, ?_⟩
      rw [handle, press, closed] at isOpen
      rcases prompt_pressInViewer state now key with same | opens
      · rw [same, closed] at isOpen
        cases isOpen
      · exact opens
  | round width height now =>
      rw [handle, prompt_round, closed] at isOpen
      cases isOpen
  | draw width height =>
      have same :
          (state.handle (.draw width height)).prompt = state.prompt := rfl
      rw [same, closed] at isOpen
      cases isOpen

/-- What does not keep a prompt open closes it. -/
theorem prompt_handle_of_not_keepsPrompt
    {state : State}
    {input : String}
    (isOpen : state.prompt = some input)
    {event : Event}
    (closes : event.keepsPrompt = false) :
    (state.handle event).prompt = none := by
  unfold Event.keepsPrompt at closes
  split at closes
  · rw [handle, press, isOpen]
    exact prompt_select _ _
  · rw [handle, press, isOpen]
    rfl
  all_goals cases closes

/-- An open prompt was opened by a key for it and has been kept open since. -/
theorem exists_opening
    {state : State}
    (closed : state.prompt = none)
    {session : List Event}
    {input : String}
    (isOpen : (state.handleAll session).prompt = some input) :
    ∃ before key now typing,
      session = before ++ .press key now :: typing ∧
        (state.handleAll before).prompt = none ∧
        key.OpensPrompt ∧
        ∀ event ∈ typing, event.keepsPrompt = true := by
  induction session using List.reverseRecOn generalizing input with
  | nil =>
      rw [handleAll, List.foldl_nil, closed] at isOpen
      cases isOpen
  | append_singleton earlier event inductionHypothesis =>
      have last :
          state.handleAll (earlier ++ [event]) =
            (state.handleAll earlier).handle event :=
        handleAll_append state earlier [event]
      rw [last] at isOpen
      cases before : (state.handleAll earlier).prompt with
      | none =>
          rcases opens_of_prompt_handle before isOpen with
            ⟨key, now, rfl, opens⟩
          exact ⟨earlier, key, now, [], rfl, before, opens, by simp⟩
      | some earlierInput =>
          have keeps : event.keepsPrompt = true := by
            by_contra closes
            rw [prompt_handle_of_not_keepsPrompt before (by simpa using closes)]
              at isOpen
            cases isOpen
          rcases inductionHypothesis before with
            ⟨start, key, now, typing, rfl, wasClosed, opens, keep⟩
          refine ⟨start, key, now, typing ++ [event], by simp,
            wasClosed, opens, ?_⟩
          rw [List.forall_mem_append, List.forall_mem_singleton]
          exact ⟨keep, keeps⟩

/--
While the prompt of a viewer is open, the slideshow stands and the message is
the input.  Since a key has opened it, the input is what has been typed, and
position, focus and quit flag have not changed, whatever keys, rounds and draws
there were; the key that gives the prompt up changes none of them either.
-/
theorem prompt_is_modal
    (archive : Archive)
    (sheet : Sheet)
    (begun : Nat)
    (session : List Event) :
    let state := (start archive sheet begun).handleAll session
    (∀ input,
      state.prompt = some input →
        state.playing = false ∧
          state.message.text = "Select id: " ++ input ∧
          ∃ before key openedAt typing,
            session = before ++ .press key openedAt :: typing ∧
              key.OpensPrompt ∧
              input = .ofList (typedBy typing) ∧
              state.RestsAt ((start archive sheet begun).handleAll before)) ∧
      ∀ key openedAt typing,
        state.prompt = none →
        key.OpensPrompt →
        (∀ event ∈ typing, event.keepsPrompt = true) →
          let asking := (state.press key openedAt).handleAll typing
          asking.prompt = some (.ofList (typedBy typing)) ∧
            asking.RestsAt state ∧
            ∀ closedAt,
              (asking.press .escape closedAt).prompt = none ∧
                (asking.press .escape closedAt).RestsAt state := by
  intro state
  constructor
  · intro input isOpen
    rcases exists_opening rfl isOpen with
      ⟨before, key, openedAt, typing, rfl, wasClosed, opens, keep⟩
    have asking :
        state.Asking ((start archive sheet begun).handleAll before)
          (typedBy typing) := by
      simp only [state, handleAll_append]
      exact (asking_press wasClosed opens openedAt).handleAll keep
    have isTyped : input = .ofList (typedBy typing) :=
      Option.some.inj (isOpen.symm.trans asking.prompt_eq)
    subst isTyped
    refine ⟨asking.playing_eq, ?_, before, key, openedAt, typing,
      rfl, opens, rfl, asking.rests⟩
    rw [asking.message_eq]
    rfl
  · intro key openedAt typing closed opens keep asking
    have isAsking : asking.Asking state (typedBy typing) :=
      (asking_press closed opens openedAt).handleAll keep
    exact ⟨isAsking.prompt_eq, isAsking.rests, isAsking.rests_press_escape⟩

/--
A slideshow that the prompt stops, and keys at the prompt that mean more without
it.
-/
theorem prompt_is_modal_over_slideshow :
    let session : List Event := [.press (.char ' ') 1000000000]
    let state := (start .empty {} 0).handleAll session
    let typing : List Event :=
      [.press (.char 'q') 1500000000, .round 80 24 3000000000,
        .press .tab 3100000000, .press .backspace 3200000000,
        .press .backspace 3300000000, .press (.char ' ') 3400000000, .draw 2 1]
    let asking := (state.press (.char '/') 1400000000).handleAll typing
    state.playing = true ∧
      state.prompt = none ∧
      (Key.char '/').OpensPrompt ∧
      (∀ event ∈ typing, event.keepsPrompt = true) ∧
      asking.prompt = some " " ∧
      asking.quitting = false ∧
      asking.focus = .list := by
  intro session state typing asking
  have isPlaying : state.playing = true := by
    decide +kernel
  have closed : state.prompt = none := by
    decide +kernel
  have opens : (Key.char '/').OpensPrompt := .inr rfl
  have keep : ∀ event ∈ typing, event.keepsPrompt = true := by
    decide
  obtain ⟨isPrompt, rests, -⟩ :=
    (prompt_is_modal .empty {} 0 session).2 (.char '/') 1400000000 typing
      closed opens keep
  have staying : state.quitting = false := by
    decide +kernel
  have isFocus : state.focus = .list := by
    decide +kernel
  exact
    ⟨isPlaying, closed, opens, keep, isPrompt, rests.quitting_eq.trans staying,
      rests.focus_eq.trans isFocus⟩

end State

end Storyboard.Viewer
