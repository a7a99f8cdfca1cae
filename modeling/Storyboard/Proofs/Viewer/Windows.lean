import Storyboard.Proofs.Viewer.ListPane
import Storyboard.Proofs.Viewer.Session

namespace Storyboard.Viewer

open Display

/-!
# Windows that are fitted to a screen

Drawing moves the window of the list just far enough to hold the row of the
position, and the window of the details back to their last line.  Both are where
they are to be after one draw, so a second one at the same size finds nothing to
change.  No offset that is computed on the way is negative or leaves a word.
-/

theorem windowRows_pos (height : Nat) : 0 < windowRows height :=
  Nat.le_max_right _ 1

section Scrolling

variable {rows target first : Nat}

theorem scrollTo_le (someRows : 0 < rows) :
    scrollTo rows target first ≤ target := by
  unfold scrollTo
  split_ifs <;> omega

theorem lt_scrollTo_add (someRows : 0 < rows) :
    target < scrollTo rows target first + rows := by
  unfold scrollTo
  split_ifs <;> omega

/-- A window that holds a row is not moved for it. -/
theorem scrollTo_of_visible
    (fromFirst : first ≤ target)
    (beforeEnd : target < first + rows) :
    scrollTo rows target first = first := by
  rw [scrollTo, if_neg (Nat.not_lt.mpr fromFirst),
    if_neg (Nat.not_le.mpr beforeEnd)]

theorem scrollTo_scrollTo (someRows : 0 < rows) :
    scrollTo rows target (scrollTo rows target first) =
      scrollTo rows target first :=
  scrollTo_of_visible (scrollTo_le someRows) (lt_scrollTo_add someRows)

end Scrolling

/-!
Offsets are words of sixty-four bits, which hold neither a larger number nor a
negative one.
-/

def sum? (first second : Nat) : Option Nat :=
  if first + second < 2 ^ 64 then some (first + second) else none

def difference? (first second : Nat) : Option Nat :=
  if second ≤ first then some (first - second) else none

/-- The first row of the list as it is computed with words. -/
def scrollInWords? (rows target first : Nat) : Option Nat :=
  if target < first then
    some target
  else do
    let bottom ← sum? first rows
    if bottom ≤ target then
      let next ← sum? target 1
      difference? next rows
    else
      some first

/-- The first line of the details as it is computed with words. -/
def clampInWords? (rows lines first : Nat) : Option Nat :=
  if rows < lines then
    (difference? lines rows).map (min first)
  else
    some 0

/--
What is computed with words is the row that is meant, if positions leave room
for a screen.
-/
theorem scrollInWords?_eq_some
    {rows target first : Nat}
    (someRows : 0 < rows)
    (fits : target + rows < 2 ^ 64) :
    scrollInWords? rows target first = some (scrollTo rows target first) := by
  unfold scrollInWords? scrollTo
  by_cases above : target < first
  · rw [if_pos above, if_pos above]
  · have bottomFits : first + rows < 2 ^ 64 := by omega
    have nextFits : target + 1 < 2 ^ 64 := by omega
    rw [if_neg above, if_neg above]
    simp only [sum?, if_pos bottomFits, if_pos nextFits, Option.bind_eq_bind,
      Option.bind_some]
    split
    · rw [difference?, if_pos (by omega)]
    · rfl

theorem clampInWords?_eq_some (rows lines first : Nat) :
    clampInWords? rows lines first = some (min first (lines - rows)) := by
  unfold clampInWords?
  split
  · rw [difference?, if_pos (by omega), Option.map_some]
  · have noneLeft : lines - rows = 0 := by omega
    rw [noneLeft, Nat.min_zero]

/--
Where the panes are on a screen of some size, as far as it can have that size.
-/
def panes (width height : Nat) : Layout :=
  let (width, height) := Screen.shrunk width height
  Layout.ofSize width height

namespace State

section Fitting

variable (state : State) (width height : Nat)

/-- A state that has been fitted to a size fits it. -/
theorem fitted_fitted :
    (state.fitted width height).fitted width height =
      state.fitted width height := by
  have listKept (rows : Nat) :
      listWindow state.archive state.cursor.position rows
          (listWindow state.archive state.cursor.position rows
            state.listScroll) =
        listWindow state.archive state.cursor.position rows
          state.listScroll := by
    unfold listWindow
    split
    · rfl
    · exact scrollTo_scrollTo (windowRows_pos rows)
  have detailsKept (rows : Nat) :
      detailsWindow state.current? rows
        (detailsWindow state.current? rows state.detailsScroll) =
        detailsWindow state.current? rows state.detailsScroll := by
    unfold detailsWindow
    split
    · rfl
    · rw [Nat.min_assoc, Nat.min_self]
  exact congrArg₂
    (fun first line =>
      { state with listScroll := first, detailsScroll := line })
    (listKept _) (detailsKept _)

/-- A second draw finds the windows fitted and draws the same. -/
theorem draw_draw :
    (state.draw width height).after.draw width height =
      state.draw width height := by
  simp only [draw, fitted_fitted]

end Fitting

/-!
Between draws, an offset stays a word, and one of the list stays within the
archive.
-/

structure InWords (state : State) : Prop where
  listScroll_le : state.listScroll ≤ state.archive.size
  detailsScroll_le : state.detailsScroll ≤ maxOffset

namespace InWords

variable {state : State} {archive : Archive}

theorem start (archive : Archive) (sheet : Sheet) (now : Nat) :
    (start archive sheet now).InWords where
  listScroll_le := Nat.zero_le _
  detailsScroll_le := Nat.zero_le _

/--
An event that scrolls the details to their start, or leaves them, keeps offsets
words.
-/
theorem of_unscrolled
    (inWords : state.InWords)
    {later : State}
    (archiveEq : later.archive = state.archive)
    (listEq : later.listScroll = state.listScroll)
    (detailsEq :
      later.detailsScroll = 0 ∨ later.detailsScroll = state.detailsScroll) :
    later.InWords where
  listScroll_le := by
    rw [listEq, archiveEq]
    exact inWords.listScroll_le
  detailsScroll_le := by
    rcases detailsEq with detailsEq | detailsEq
    · rw [detailsEq]
      exact Nat.zero_le _
    · rw [detailsEq]
      exact inWords.detailsScroll_le

theorem step
    (inWords : state.InWords)
    (forwards : Bool) :
    (state.step forwards).InWords := by
  by_cases moved :
      (state.cursor.step state.archive (if forwards then 1 else -1)).answer =
        true
  · simp only [State.step, if_pos moved]
    exact inWords.of_unscrolled rfl rfl (.inl rfl)
  · simp only [State.step, if_neg moved]
    split <;> exact inWords.of_unscrolled rfl rfl (.inr rfl)

theorem select
    (inWords : state.InWords)
    (wanted : String) :
    (state.select wanted).InWords := by
  unfold State.select
  split
  · exact inWords.of_unscrolled rfl rfl (.inr rfl)
  · split
    · exact inWords.of_unscrolled rfl rfl (.inr rfl)
    · exact inWords.of_unscrolled rfl rfl (.inl rfl)

theorem pressAtPrompt (inWords : state.InWords) (input : String) (key : Key) :
    (state.pressAtPrompt input key).InWords := by
  cases key with
  | enter =>
      have closed : { state with prompt := none }.InWords :=
        inWords.of_unscrolled rfl rfl (.inr rfl)
      exact closed.select _
  | _ =>
      exact inWords.of_unscrolled rfl rfl (.inr rfl)

theorem pressInViewer (inWords : state.InWords) (now : Nat) (key : Key) :
    (state.pressInViewer now key).InWords := by
  have stopped : state.stopped.InWords :=
    inWords.of_unscrolled rfl rfl (.inr rfl)
  fun_cases State.pressInViewer state now key
  all_goals first
    | exact stopped.step _
    | exact inWords.of_unscrolled rfl rfl (.inl rfl)
    | exact inWords.of_unscrolled rfl rfl (.inr rfl)
    | exact ⟨inWords.listScroll_le,
        (Nat.sub_le _ _).trans inWords.detailsScroll_le⟩
    | exact ⟨inWords.listScroll_le, Nat.min_le_right _ _⟩

theorem press (inWords : state.InWords) (key : Key) (now : Nat) :
    (state.press key now).InWords := by
  unfold State.press
  split
  · exact inWords.pressAtPrompt _ key
  · exact inWords.pressInViewer now key

theorem advance
    (inWords : state.InWords)
    (now : Nat) :
    (state.advance now).InWords := by
  simp only [State.advance]
  split_ifs
  · exact inWords.of_unscrolled rfl rfl (.inl rfl)
  all_goals exact inWords.of_unscrolled rfl rfl (.inr rfl)

/-- A draw moves the list to the position at most, and the details only back. -/
theorem draw
    (inWords : state.InWords)
    (within : state.cursor.Within state.archive)
    (width height : Nat) :
    (state.draw width height).after.InWords where
  listScroll_le := by
    change listWindow state.archive state.cursor.position
      (panes width height).list.height
      state.listScroll ≤ state.archive.size
    unfold listWindow
    split
    case isTrue =>
      exact inWords.listScroll_le
    case isFalse notEmpty =>
      have inArchive := within.resolve_right fun empty => notEmpty empty.1
      exact (scrollTo_le (windowRows_pos _)).trans inArchive.le
  detailsScroll_le := by
    change detailsWindow state.current? (panes width height).details.height
      state.detailsScroll ≤ maxOffset
    unfold detailsWindow
    split
    · exact Nat.zero_le _
    · exact (Nat.min_le_left _ _).trans inWords.detailsScroll_le

theorem handle
    (inWords : state.InWords)
    (within : state.cursor.Within state.archive)
    (event : Event) :
    (state.handle event).InWords := by
  cases event with
  | press key now =>
      exact inWords.press key now
  | round width height now =>
      have drawn := inWords.draw within width height
      simp only [State.handle, State.round]
      split
      · exact drawn
      · exact drawn.advance now
  | draw width height =>
      exact inWords.draw within width height

theorem handleAll
    (inWords : state.InWords)
    (watches : state.Watches archive)
    (events : List Event) :
    (state.handleAll events).InWords := by
  induction events generalizing state with
  | nil =>
      exact inWords
  | cons event rest inductionHypothesis =>
      have within : state.cursor.Within state.archive := by
        rw [watches.archive_eq]
        exact watches.within
      exact inductionHypothesis (inWords.handle within event)
        (watches.handle event)

end InWords

/--
The window of the list has the position in it, and a window that had it in it
before has not been moved.  Of its rows that of the position is the only marked
one, and where the screen has room for the rows it shows the marker in this one
and no other.
-/
structure ListFits
    (drawn state : State)
    (screen : Screen)
    (pane : Area) : Prop where
  first_le :
    drawn.listScroll ≤ state.cursor.position
  lt_end :
    state.cursor.position < drawn.listScroll + windowRows pane.height
  first_eq :
    state.listScroll ≤ state.cursor.position →
      state.cursor.position < state.listScroll + windowRows pane.height →
        drawn.listScroll = state.listScroll
  marked_eq :
    ∃ snapshot,
      state.current? = some snapshot ∧
        (listed state.archive drawn.listScroll (windowRows pane.height)).filter
            (fun row => isMarked (listRow state.cursor.position row.2 row.1)) =
          [(snapshot, state.cursor.position)]
  symbol_iff :
    3 < pane.width →
      ∀ row,
        row + 2 < pane.height →
          ((screen.get (pane.x + 2) (pane.y + 1 + row)).symbol = "▶" ↔
            drawn.listScroll + row = state.cursor.position)

/--
The window of the details goes no further than to their last line, and stays if
it did not.
-/
structure DetailsFit (drawn state : State) (pane : Area) : Prop where
  first_eq_zero :
    state.current? = none →
      drawn.detailsScroll = 0
  first_le :
    ∀ snapshot,
      state.current? = some snapshot →
        drawn.detailsScroll ≤
          (detailLines snapshot).length - windowRows pane.height
  first_eq :
    ∀ snapshot,
      state.current? = some snapshot →
        state.detailsScroll ≤
          (detailLines snapshot).length - windowRows pane.height →
          drawn.detailsScroll = state.detailsScroll

theorem listFits_draw
    {state : State}
    {archive : Archive}
    (watches : state.Watches archive)
    (notEmpty : archive.size ≠ 0)
    (width height : Nat) :
    (state.draw width height).after.ListFits state
      (state.draw width height).answer
      (panes width height).list := by
  have shows := watches.shows
  obtain ⟨rfl, -, within⟩ := watches
  have someRows := windowRows_pos (panes width height).list.height
  have isFirst :
      (state.draw width height).after.listScroll =
        scrollTo (windowRows (panes width height).list.height)
          state.cursor.position
          state.listScroll :=
    if_neg notEmpty
  have fromFirst :
      (state.draw width height).after.listScroll ≤ state.cursor.position :=
    isFirst ▸ scrollTo_le someRows
  have beforeEnd :
      state.cursor.position <
        (state.draw width height).after.listScroll +
          windowRows (panes width height).list.height :=
    isFirst ▸ lt_scrollTo_add someRows
  refine ⟨fromFirst, beforeEnd, ?first, ?marked, ?symbol⟩
  case first =>
    intro wasFromFirst wasBeforeEnd
    rw [isFirst, scrollTo_of_visible wasFromFirst wasBeforeEnd]
  case marked =>
    obtain ⟨snapshot, isCurrent, isSnapshot⟩ := shows.current_exists notEmpty
    exact ⟨snapshot, isCurrent,
      filter_isMarked_listed isSnapshot fromFirst beforeEnd⟩
  case symbol =>
    intro someColumn row inPane
    have drawnInArchive :
        (state.draw width height).after.cursor.position <
          (state.draw width height).after.archive.size :=
      within.resolve_right fun empty => notEmpty empty.1
    have shown :
        ((state.draw width height).answer.get ((panes width height).list.x + 2)
            ((panes width height).list.y + 1 + row)).symbol =
          markerOf state.cursor.position
            ((state.draw width height).after.listScroll + row) :=
      symbol_screen drawnInArchive _ _ someColumn inPane
    rw [shown, markerOf_eq_iff]

theorem detailsFit_draw (state : State) (width height : Nat) :
    (state.draw width height).after.DetailsFit state
      (panes width height).details := by
  have isFirst :
      (state.draw width height).after.detailsScroll =
        detailsWindow state.current? (panes width height).details.height
          state.detailsScroll :=
    rfl
  refine ⟨?none, ?bounded, ?kept⟩
  case none =>
    intro isNone
    rw [isFirst, isNone]
    rfl
  case bounded =>
    intro snapshot isCurrent
    rw [isFirst, isCurrent]
    exact Nat.min_le_right _ _
  case kept =>
    intro snapshot isCurrent wasBounded
    rw [isFirst, isCurrent]
    exact Nat.min_eq_left wasBounded

/--
All that a draw computes of offsets comes out in words, and it starts from
words.
-/
structure DrawsInWords (drawn state : State) (layout : Layout) : Prop where
  listScroll_lt :
    state.listScroll < 2 ^ 64
  detailsScroll_lt :
    state.detailsScroll < 2 ^ 64
  list_eq :
    state.archive.size ≠ 0 →
      scrollInWords? (windowRows layout.list.height) state.cursor.position
        state.listScroll =
        some drawn.listScroll
  details_eq :
    ∀ snapshot,
      state.current? = some snapshot →
        clampInWords? (windowRows layout.details.height)
          (detailLines snapshot).length
            state.detailsScroll =
          some drawn.detailsScroll

/--
A screen of at most as many rows as sixteen bits can count has no longer list.
-/
theorem windowRows_panes_list_le
    (width : Nat)
    {height : Nat}
    (fits : height < 2 ^ 16) :
    windowRows (panes width height).list.height ≤ 2 ^ 16 := by
  have shrunkFits : (Screen.shrunk width height).2 < 2 ^ 16 := by
    simp only [Screen.shrunk]
    split
    · exact fits
    · exact UInt16.toNat_lt _
  simp only [panes, Layout.ofSize, windowRows]
  omega

/--
An archive that is kept in memory has fewer snapshots than half of the words,
and a screen has no more rows than sixteen bits can count; nothing else keeps
the sums in words.
-/
theorem drawsInWords_draw
    {state : State}
    {archive : Archive}
    (watches : state.Watches archive)
    (inWords : state.InWords)
    (inMemory : archive.size < 2 ^ 63)
    (width : Nat)
    {height : Nat}
    (fits : height < 2 ^ 16) :
    (state.draw width height).after.DrawsInWords state
      (panes width height) := by
  obtain ⟨rfl, -, within⟩ := watches
  refine ⟨?list, ?details, ?listDrawn, ?detailsDrawn⟩
  case list =>
    have inArchive := inWords.listScroll_le
    omega
  case details =>
    exact Nat.lt_of_le_pred (by decide) inWords.detailsScroll_le
  case listDrawn =>
    intro notEmpty
    have inArchive := within.resolve_right fun empty => notEmpty empty.1
    have rowsFit := windowRows_panes_list_le width fits
    rw [scrollInWords?_eq_some (windowRows_pos _) (by omega)]
    exact congrArg some (if_neg notEmpty).symm
  case detailsDrawn =>
    intro snapshot isCurrent
    rw [clampInWords?_eq_some]
    change _ = some (detailsWindow state.current? _ _)
    rw [isCurrent]
    rfl

/--
A draw of a viewer that has been through any session changes nothing of it but
the windows of its two panes, and those no further than to fit the screen,
without an offset on the way that is not a word; a second draw changes nothing
at all.
-/
theorem draw_fits_windows
    (clock : Clock)
    (calls : List Archive.Call)
    (sheet : Sheet)
    (begun : Nat)
    (session : List Event)
    (width height : Nat) :
    let archive := (Archive.empty.performAll clock calls).after
    let state := (start archive sheet begun).handleAll session
    let drawn := (state.draw width height).after
    let screen := (state.draw width height).answer
    let layout := panes width height
    drawn =
        { state with
          listScroll := drawn.listScroll
          detailsScroll := drawn.detailsScroll } ∧
      (archive.size ≠ 0 → drawn.ListFits state screen layout.list) ∧
      drawn.DetailsFit state layout.details ∧
      (archive.size < 2 ^ 63 → height < 2 ^ 16 →
        drawn.DrawsInWords state layout) ∧
      drawn.draw width height = state.draw width height := by
  intro archive state drawn screen layout
  have watches : (start archive sheet begun).Watches archive :=
    .start ((Archive.aligned_clear .empty).performAll clock calls) sheet begun
  have laterWatches : state.Watches archive := watches.handleAll session
  have inWords : state.InWords :=
    (InWords.start archive sheet begun).handleAll watches session
  refine ⟨rfl, ?list, ?details, ?words, ?again⟩
  case list =>
    intro notEmpty
    exact listFits_draw laterWatches notEmpty width height
  case details =>
    exact detailsFit_draw state width height
  case words =>
    intro inMemory fits
    exact drawsInWords_draw laterWatches inWords inMemory width fits
  case again =>
    exact draw_draw state width height

/--
On a screen with room for one row of the list, it moves to the second snapshot
and marks it.
-/
theorem draw_fits_windows_of_one_row :
    let clock : Clock := fun _ => ⟨2024, 3, 9, 14, 5, 7, 0⟩
    let archive :=
      (Archive.empty.performAll clock
        [.capture "one" [], .capture "two" []]).after
    let state := (start archive {} 0).handleAll
      [.press .toEnd 0, .press .tab 0, .press .down 0, .press .down 0]
    let drawn := (state.draw 20 8).after
    archive.size ≠ 0 ∧
      archive.size < 2 ^ 63 ∧
      8 < 2 ^ 16 ∧
      state.listScroll = 0 ∧
      state.detailsScroll = 2 ∧
      drawn.listScroll = 1 ∧
      ((state.draw 20 8).answer.get 15 1).symbol = "▶" ∧
      drawn.detailsScroll = 2 ∧
      scrollInWords? 1 1 0 = some drawn.listScroll := by
  intro clock archive state drawn
  have twoSnapshots : archive.size = 2 := by
    decide +kernel
  have isPosition : state.cursor.position = 1 := by
    decide +kernel
  have isCurrent : state.current?.map
      (fun shown => (detailLines shown).length) = some 5 := by
    decide +kernel
  have notEmpty : archive.size ≠ 0 := by
    rw [twoSnapshots]
    decide
  have inMemory : archive.size < 2 ^ 63 := by
    rw [twoSnapshots]
    decide
  have isListPane : (panes 20 8).list = ⟨13, 0, 7, 3⟩ := by
    decide
  have isDetailsPane : (panes 20 8).details = ⟨13, 3, 7, 4⟩ := by
    decide
  obtain ⟨-, listFits, detailsFit, inWords, -⟩ :=
    draw_fits_windows clock [.capture "one" [], .capture "two" []] {} 0
      [.press .toEnd 0, .press .tab 0, .press .down 0, .press .down 0] 20 8
  have listFits := listFits notEmpty
  rw [isListPane] at listFits
  rw [isDetailsPane] at detailsFit
  have isFirst : drawn.listScroll = 1 := by
    have fromFirst : drawn.listScroll ≤ state.cursor.position :=
      listFits.first_le
    have beforeEnd : state.cursor.position < drawn.listScroll + 1 :=
      listFits.lt_end
    rw [isPosition] at fromFirst beforeEnd
    omega
  have isMarkedRow : ((state.draw 20 8).answer.get 15 1).symbol = "▶" := by
    refine (listFits.symbol_iff (by decide) 0 (by decide)).mpr ?_
    rw [isFirst, isPosition]
  obtain ⟨shown, isShown, fiveLines⟩ := Option.map_eq_some_iff.mp isCurrent
  have isLine : drawn.detailsScroll = 2 := by
    refine detailsFit.first_eq shown isShown ?_
    rw [fiveLines]
    decide
  have isComputed :
      scrollInWords? (windowRows (panes 20 8).list.height) state.cursor.position
          state.listScroll =
        some drawn.listScroll :=
    (inWords inMemory (by decide)).list_eq notEmpty
  rw [isListPane, isPosition] at isComputed
  exact
    ⟨notEmpty, inMemory, by decide, rfl, rfl, isFirst, isMarkedRow,
      isLine, isComputed⟩

end State

end Storyboard.Viewer
