import Storyboard.Proofs.Script.IssuedIds
import Storyboard.Proofs.Snapshot.Naming
import Storyboard.Proofs.Snapshot.Navigation
import Storyboard.Proofs.Viewer.Prompt

namespace Storyboard

/-!
# The prompt finds what an id is called by

What is typed is looked up twice: as the text of an id and, if there is no such
id, as a sequence number.  In an archive that scripts have filled all ids were
issued one after the other, so each of the two finds at most one snapshot, and a
text for which the first look-up finds one is no number for the second.  The
answer is then the one snapshot that the text calls, and without one the viewer
stays where it is.
-/

namespace Viewer.State

theorem sequence?_eq_some_iff
    {text : List Char}
    {number : Nat} :
    sequence? text = some number ↔ Number.IsNumeral text number := by
  simp only [sequence?, Option.ite_none_right_eq_some, Option.some.injEq]
  constructor
  · rintro ⟨⟨notEmpty, allDigits, fits⟩, rfl⟩
    refine ⟨_, ?_, notEmpty, List.all_eq_true.mp allDigits, rfl, fits⟩
    split
    case isTrue signed =>
      rcases List.head?_eq_some_iff.mp signed with ⟨rest, rfl⟩
      exact .inr rfl
    case isFalse =>
      exact .inl rfl
  · rintro ⟨digits, isText, notEmpty, allDigits, rfl, fits⟩
    have unsigned :
        (if text.head? = some '+' then text.tail else text) = digits := by
      rcases isText with rfl | rfl
      · rw [if_neg]
        intro signed
        have isDigit := allDigits '+' (List.mem_of_mem_head? signed)
        cases isDigit
      · exact if_pos rfl
    rw [unsigned]
    exact ⟨⟨notEmpty, List.all_eq_true.mpr allDigits, fits⟩, rfl⟩

section Looking

variable
  {state : State}
  {clock : Clock}
  {first next : Nat}
  {wanted : String}

theorem find?_sequence_eq
    {archive : Archive}
    (issued : Archive.IssuedBetween clock first next archive.ids.toList)
    {id : SnapshotId}
    (member : id ∈ archive.ids.toList) :
    archive.ids.find? (·.sequence = id.sequence) = some id := by
  cases found : archive.ids.find? (·.sequence = id.sequence) with
  | none =>
      have notFound :=
        Array.find?_eq_none.mp found id (Array.mem_toList_iff.mp member)
      simp at notFound
  | some other =>
      have sameSequence : other.sequence = id.sequence := by
        simpa using Array.find?_some found
      have otherMember : other ∈ archive.ids.toList :=
        Array.mem_toList_iff.mpr (Array.mem_of_find?_eq_some found)
      rw [issued.isClocked other otherMember, issued.isClocked id member,
        sameSequence]

/-- An id that is called is found at its position. -/
theorem locate?_of_isCalledBy
    (aligned : state.archive.Aligned)
    (issued : Archive.IssuedBetween clock first next state.archive.ids.toList)
    {position : Nat}
    {id : SnapshotId}
    (isId : state.archive.ids[position]? = some id)
    (called : id.IsCalledBy wanted.toList) :
    state.locate? wanted = some ⟨position⟩ := by
  have isText : state.archive.texts[position]? = some id.text := by
    rw [Archive.getElem?_texts_eq_map_ids, isId, Option.map_some]
  have jumps := Cursor.jumpTo_of_text_at aligned isText state.cursor
  rcases called with sameText | isNumeral
  · rw [String.toList_inj] at sameText
    subst sameText
    simp [locate?, jumps]
  · have absent : wanted ∉ state.archive.texts := by
      intro member
      rcases List.mem_map.mp member with ⟨other, otherMember, rfl⟩
      rw [issued.isClocked other otherMember] at isNumeral
      exact SnapshotId.not_isNumeral_dropWhile_text_issuedAt _ _ _ isNumeral
    have member : id ∈ state.archive.ids.toList :=
      Array.mem_toList_iff.mpr (Array.mem_of_getElem? isId)
    simp [locate?, Cursor.jumpTo_of_notMem absent,
      sequence?_eq_some_iff.mpr isNumeral, find?_sequence_eq issued member,
      jumps]

/-- Where no id is called, none is found. -/
theorem locate?_of_not_isCalledBy
    (noneCalled :
      ∀ id ∈ state.archive.ids.toList, ¬id.IsCalledBy wanted.toList) :
    state.locate? wanted = none := by
  have absent : wanted ∉ state.archive.texts := by
    intro member
    rcases List.mem_map.mp member with ⟨id, idMember, rfl⟩
    exact noneCalled id idMember (.inl rfl)
  have noNumber {number : Nat}
      (isNumber : sequence? (wanted.toList.dropWhile (· = '#')) = some number) :
      state.archive.ids.find? (·.sequence = number) = none := by
    rw [Array.find?_eq_none]
    intro id member sameSequence
    rw [decide_eq_true_eq] at sameSequence
    subst sameSequence
    exact noneCalled id (Array.mem_toList_iff.mpr member)
      (.inr (sequence?_eq_some_iff.mp isNumber))
  simp only [locate?, Cursor.jumpTo_of_notMem absent, Bool.false_eq_true,
    if_false, Option.none_or]
  cases isNumber : sequence? (wanted.toList.dropWhile (· = '#')) with
  | none =>
      rfl
  | some number =>
      simp [noNumber isNumber]

end Looking

/--
A snapshot is on the screen, with its details unscrolled, and is said to be
selected.
-/
structure Selects
    (state : State)
    (position : Nat)
    (snapshot : Snapshot) : Prop where
  position_eq :
    state.cursor.position = position
  current_eq :
    state.current? = some snapshot
  unscrolled :
    state.detailsScroll = 0
  message_eq :
    state.message.text = "Selected snapshot " ++ snapshot.id.text

section Answering

variable
  {state : State}
  {clock : Clock}
  {first next : Nat}
  {wanted : String}

theorem selects_select
    (aligned : state.archive.Aligned)
    (issued : Archive.IssuedBetween clock first next state.archive.ids.toList)
    {position : Nat}
    {snapshot : Snapshot}
    (isSnapshot : state.archive.get? position = some snapshot)
    (called : snapshot.id.IsCalledBy wanted.toList) :
    (state.select wanted).Selects position snapshot := by
  have isId : state.archive.ids[position]? = some snapshot.id := by
    have inSnapshots :
        state.archive.snapshots[position]? = some snapshot := isSnapshot
    rw [aligned.ids_eq, Array.getElem?_map, inSnapshots, Option.map_some]
  have notEmpty : ¬wanted.isEmpty = true := by
    have isIssued :=
      issued.isClocked snapshot.id
        (Array.mem_toList_iff.mpr (Array.mem_of_getElem? isId))
    rw [isIssued] at called
    simpa using SnapshotId.ne_nil_of_isCalledBy called
  have isCurrent :
      (Cursor.mk position).current? state.archive = some snapshot := isSnapshot
  unfold select
  rw [if_neg notEmpty, locate?_of_isCalledBy aligned issued isId called]
  refine ⟨rfl, isCurrent, rfl, ?_⟩
  simp only [isCurrent, Option.map_some]
  rfl

theorem unmoved_select
    (noneCalled :
      ∀ id ∈ state.archive.ids.toList, ¬id.IsCalledBy wanted.toList) :
    (state.select wanted).cursor = state.cursor ∧
      (state.select wanted).detailsScroll = state.detailsScroll := by
  unfold select
  split
  · exact ⟨rfl, rfl⟩
  · rw [locate?_of_not_isCalledBy noneCalled]
    exact ⟨rfl, rfl⟩

/-- The state with its prompt closed. -/
def withoutPrompt (state : State) : State :=
  { state with prompt := none }

/--
The key that answers the prompt looks up what has been typed without the space
around it.
-/
theorem Asking.press_enter
    {opened : State}
    {input : List Char}
    (asking : state.Asking opened input)
    (now : Nat) :
    state.press .enter now =
      state.withoutPrompt.select (.ofList (Text.trimChars input)) := by
  unfold State.press
  rw [asking.prompt_eq]
  simp only [pressAtPrompt, withoutPrompt, Text.trim, String.toList_ofList]

end Answering

/--
In a viewer of what scripts have left, the prompt can be answered with the text
of every id, with the part of it from the number sign on, or with its sequence
number, and any white space around it: that puts this very snapshot on the
screen.  Whatever else is typed either calls an id in one of these ways, with
more or fewer zeros and signs, or leaves the viewer where it is.
-/
theorem prompt_selects_what_is_called
    (clock : Clock)
    (sources : List String)
    (sheet : Sheet)
    (begun : Nat)
    (session : List Event) :
    let archive := (Script.runAll clock .empty sources).archive
    let state := (start archive sheet begun).handleAll session
    ∀ key openedAt typing closedAt,
      state.prompt = none →
      key.OpensPrompt →
      (∀ event ∈ typing, event.keepsPrompt = true) →
        let asking := (state.press key openedAt).handleAll typing
        let answered := asking.press .enter closedAt
        answered.prompt = none ∧
          (∀ position snapshot spelling before after,
            archive.get? position = some snapshot →
            snapshot.id.Spelling spelling →
            Text.IsSpace before →
            Text.IsSpace after →
            typedBy typing = before.toList ++ spelling ++ after.toList →
              answered.Selects position snapshot) ∧
          (∀ position snapshot,
            archive.get? position = some snapshot →
            snapshot.id.IsCalledBy (Text.trimChars (typedBy typing)) →
              answered.Selects position snapshot) ∧
          ((∀ snapshot ∈ archive.snapshots,
              ¬snapshot.id.IsCalledBy (Text.trimChars (typedBy typing))) →
            answered.cursor = asking.cursor ∧
              answered.detailsScroll = asking.detailsScroll) := by
  intro archive state key openedAt typing closedAt closed opens keep
    asking answered
  have reached : Script.Reached clock (Script.runAll clock .empty sources) :=
    Script.Reached.fresh.runAll sources
  have aligned : archive.Aligned := reached.archive_own.1
  have issued :
      Archive.IssuedBetween clock 1 archive.nextSequence archive.ids.toList :=
    reached.issuedBetween_ids
  have isAsking : asking.Asking state (typedBy typing) :=
    (asking_press closed opens openedAt).handleAll keep
  have sameArchive : asking.withoutPrompt.archive = archive :=
    isAsking.rests.archive_eq.trans
      ((Watches.start aligned sheet begun).handleAll session).archive_eq
  have isAnswered :
      answered = asking.withoutPrompt.select
        (.ofList (Text.trimChars (typedBy typing))) :=
    isAsking.press_enter closedAt
  have selects
      {position : Nat}
      {snapshot : Snapshot}
      (isSnapshot : archive.get? position = some snapshot)
      (called : snapshot.id.IsCalledBy (Text.trimChars (typedBy typing))) :
      answered.Selects position snapshot := by
    rw [isAnswered]
    rw [← sameArchive] at aligned issued isSnapshot
    exact selects_select aligned issued isSnapshot
      (by rwa [String.toList_ofList])
  refine ⟨?closes, ?spelt, ?called, ?other⟩
  case closes =>
    rw [isAnswered, prompt_select]
    rfl
  case spelt =>
    intro position snapshot spelling before after isSnapshot isSpelling isBefore
      isAfter typed
    have isIssued :
        snapshot.id = Archive.clockedId clock snapshot.id.sequence := by
      apply issued.isClocked
      rw [aligned.ids_eq, Array.toList_map]
      exact List.mem_map_of_mem
        (Array.mem_toList_iff.mpr (Array.mem_of_getElem? isSnapshot))
    have trimmed : Text.trimChars (typedBy typing) = spelling := by
      rw [typed, Text.trimChars_append_right _ isAfter,
        Text.trimChars_append_left isBefore, Text.trimChars_eq_self_iff]
      rw [isIssued] at isSpelling
      exact SnapshotId.isTrimmed_of_spelling isSpelling
    apply selects isSnapshot
    rw [trimmed]
    rw [isIssued] at isSpelling ⊢
    exact SnapshotId.isCalledBy_of_spelling isSpelling
  case called =>
    exact fun position snapshot => selects
  case other =>
    intro noneCalled
    rw [isAnswered]
    refine unmoved_select fun id member => ?_
    rw [sameArchive, aligned.ids_eq, Array.toList_map, List.mem_map] at member
    rcases member with ⟨snapshot, inArchive, rfl⟩
    rw [String.toList_ofList]
    exact noneCalled snapshot (Array.mem_toList_iff.mp inArchive)

/--
The second of two snapshots that a cleared one stands before, by its number in
spaces.
-/
theorem prompt_selects_number_behind_gap :
    let clock : Clock := fun _ => ⟨2024, 3, 9, 14, 5, 7, 0⟩
    let sources :=
      ["snapshot one\nclear snapshots", "snapshot two\nsnapshot three"]
    let archive := (Script.runAll clock .empty sources).archive
    let snapshot : Snapshot :=
      ⟨Archive.clockedId clock 3, "09-03-2024 14:05:07", "three", []⟩
    let state := start archive {} 0
    let typing : List Event :=
      [.press (.char ' ') 1000000000, .press (.char 'q') 1100000000,
        .press .backspace 1200000000, .press (.char '3') 1300000000,
        .round 80 24 1350000000, .press (.char ' ') 1400000000]
    let asking := (state.press (.char 'g') 900000000).handleAll typing
    let answered := asking.press .enter 1500000000
    archive.get? 1 = some snapshot ∧
      state.prompt = none ∧
      (Key.char 'g').OpensPrompt ∧
      (∀ event ∈ typing, event.keepsPrompt = true) ∧
      snapshot.id.Spelling ['3'] ∧
      Text.IsSpace " " ∧
      typedBy typing = [' ', '3', ' '] ∧
      answered.Selects 1 snapshot := by
  intro clock sources archive snapshot state typing asking answered
  have isSnapshot : archive.get? 1 = some snapshot := by
    decide +kernel
  have opens : (Key.char 'g').OpensPrompt := .inl rfl
  have keep : ∀ event ∈ typing, event.keepsPrompt = true := by
    decide
  have isSpelling : snapshot.id.Spelling ['3'] := by
    have isNumber : (toString snapshot.id.sequence).toList = ['3'] := by decide
    rw [← isNumber]
    exact .number (by decide)
  obtain ⟨-, spelt, -, -⟩ :=
    prompt_selects_what_is_called clock sources
      {} 0 [] (.char 'g') 900000000 typing 1500000000
      rfl opens keep
  exact
    ⟨isSnapshot, rfl, opens, keep, isSpelling, by decide, rfl,
      spelt 1 snapshot ['3'] " " " " isSnapshot isSpelling (by decide)
        (by decide) rfl⟩

end Viewer.State

end Storyboard
