import Storyboard.Proofs.Script.Rewriting

namespace Storyboard

/-!
# Which commands are refused, and for what

A command that makes a shape is refused for its color, then for its name, then
for its sizes, and of three channels or two sizes for the first one out of
range.  A command that looks for a shape is refused only if it finds one: where
no shape has the name, its values are not looked at.  Nothing else is refused,
because a name that was read from a line is a word.
-/

namespace Color

/--
The refusal of the first channel out of range, in the order red, green, blue.
-/
def refusal? (red green blue : Float) : Option Refusal :=
  ([(Channel.red, red), (.green, green), (.blue, blue)].find? fun (_, value) =>
      ¬(0 ≤ value ∧ value ≤ 255)).map fun (channel, value) =>
    .channelOutOfRange channel value

/-- Channels make a color unless one of them is refused. -/
theorem ofChannels_eq (red green blue : Float) :
    ofChannels red green blue =
      (refusal? red green blue).elim (.ok ⟨red, green, blue⟩) .error := by
  unfold ofChannels checkChannel refusal?
  simp only [List.find?_cons, List.find?_nil, decide_not]
  by_cases redInRange : 0 ≤ red ∧ red ≤ 255
  · by_cases greenInRange : 0 ≤ green ∧ green ≤ 255
    · by_cases blueInRange : 0 ≤ blue ∧ blue ≤ 255 <;>
        simp only [redInRange, greenInRange, blueInRange] <;> rfl
    · simp only [redInRange, greenInRange]
      rfl
  · simp only [redInRange]
    rfl

theorem exists_of_refusal?_eq_some
    {red green blue : Float}
    {refusal : Refusal}
    (isRefused : refusal? red green blue = some refusal) :
    ∃ channel value, refusal = .channelOutOfRange channel value := by
  obtain ⟨⟨channel, value⟩, -, rfl⟩ := Option.map_eq_some_iff.mp isRefused
  exact ⟨channel, value, rfl⟩

end Color

namespace Extent

/-- The refusal of the first size of a kind that is not positive. -/
def refusal? (kind : Kind) (first second : Float) : Option Refusal :=
  ([(kind.sizeNames.1, first), (kind.sizeNames.2, second)].find?
    fun (_, value) =>
      ¬0 < value).map fun (sizeName, value) =>
    .sizeNotPositive sizeName value

/-- Sizes make an extent unless one of them is refused. -/
theorem ofSizes_eq (kind : Kind) (first second : Float) :
    ofSizes kind first second =
      (refusal? kind first second).elim (.ok (kind.extent (first, second)))
        .error := by
  unfold ofSizes checkSize refusal?
  simp only [List.find?_cons, List.find?_nil, decide_not]
  by_cases firstPositive : 0 < first
  · by_cases secondPositive : 0 < second
    · simp only [firstPositive, secondPositive]
      cases kind <;> rfl
    · simp only [firstPositive, secondPositive]
      rfl
  · simp only [firstPositive]
    rfl

theorem exists_of_refusal?_eq_some
    {kind : Kind}
    {first second : Float}
    {refusal : Refusal}
    (isRefused : refusal? kind first second = some refusal) :
    ∃ sizeName value, refusal = .sizeNotPositive sizeName value := by
  obtain ⟨⟨sizeName, value⟩, -, rfl⟩ := Option.map_eq_some_iff.mp isRefused
  exact ⟨sizeName, value, rfl⟩

end Extent

namespace Shape

theorem answer_recolor (shape : Shape) (red green blue : Float) :
    (shape.recolor red green blue).answer =
      (Color.refusal? red green blue).elim (.ok ()) .error := by
  simp only [recolor, Color.set, Color.ofChannels_eq]
  cases Color.refusal? red green blue <;> rfl

theorem answer_resize (shape : Shape) (first second : Float) :
    (shape.resize first second).answer =
      (Extent.refusal? shape.kind first second).elim (.ok ()) .error := by
  simp only [resize, Extent.ofSizes_eq]
  cases Extent.refusal? shape.kind first second <;> rfl

end Shape

/-- A change of a scene looks at its values only if some shape has the name. -/
theorem Scene.answer_change
    (scene : Scene)
    (name : String)
    (change : Shape → Change Shape (Except Refusal Unit)) :
    (scene.change name change).answer =
      match scene.get? name with
      | none => .ok false
      | some shape => (change shape).answer.map fun _ => true :=
  changeFirst_answer scene.shapes

/--
In a valid scene a name is taken exactly if a shape can be looked up by it.
-/
theorem Scene.Valid.mem_names_iff_isSome
    {scene : Scene}
    (valid : scene.Valid)
    (name : String) :
    name ∈ scene.names ↔ (scene.get? name).isSome = true := by
  rw [valid.mem_names_iff_exists, isSome_get?_iff]

namespace Script

/-- A command is applied unless there is a cause to refuse it. -/
def appliedUnless (cause : Option Refusal) : Except Refusal Outcome :=
  cause.elim (.ok .applied) .error

theorem appliedUnless_eq_error_iff
    {cause : Option Refusal}
    {refusal : Refusal} :
    appliedUnless cause = .error refusal ↔ cause = some refusal := by
  cases cause <;> simp [appliedUnless]

section Answers

variable
  (clock : Clock)
  {album : Album}
  {name : String}

/--
A command that makes a shape looks at its color, then at its name, then at its
sizes.
-/
theorem answer_execute_shape
    (valid : album.scene.Valid)
    (notBlank : Shape.isBlankName name = false)
    (kind : Kind)
    (position : Point)
    (first second red green blue : Float) :
    (execute clock album
        (.shape name kind position first second red green blue)).answer =
      match Color.refusal? red green blue, album.scene.get? name with
      | some outOfRange, _ => .error outOfRange
      | none, some _ => .error (.nameTaken name)
      | none, none => appliedUnless (Extent.refusal? kind first second) := by
  simp only [execute, Color.ofChannels_eq]
  cases Color.refusal? red green blue with
  | some refusal =>
      rfl
  | none =>
      simp only [Option.elim, Scene.create, valid.mem_names_iff_isSome]
      cases album.scene.get? name with
      | some shape =>
          rfl
      | none =>
          simp only [Shape.create, notBlank, Extent.ofSizes_eq]
          cases Extent.refusal? kind first second <;> rfl

/-- A command that changes a shape looks at its values if there is one. -/
theorem answer_inScene_change
    (command : Command)
    {change : Shape → Change Shape (Except Refusal Unit)}
    (cause? : Shape → Option Refusal)
    (answers :
      ∀ shape, (change shape).answer = (cause? shape).elim (.ok ()) .error) :
    (inScene album (album.scene.change name change)
      (Outcome.ofFound command)).answer =
      match album.scene.get? name with
      | none => .ok (.noTarget command)
      | some shape => appliedUnless (cause? shape) := by
  simp only [inScene, Scene.answer_change]
  cases album.scene.get? name with
  | none =>
      rfl
  | some shape =>
      simp only [answers]
      cases cause? shape <;> rfl

theorem answer_execute_move (position : Point) :
    (execute clock album (.move name position)).answer =
      match album.scene.get? name with
      | none => .ok (.noTarget (.move name position))
      | some _ => .ok .applied :=
  answer_inScene_change (.move name position) (fun _ => none) fun _ => rfl

theorem answer_execute_color (red green blue : Float) :
    (execute clock album (.color name red green blue)).answer =
      match album.scene.get? name with
      | none => .ok (.noTarget (.color name red green blue))
      | some _ => appliedUnless (Color.refusal? red green blue) :=
  answer_inScene_change (.color name red green blue)
    (fun _ => Color.refusal? red green blue)
    fun shape => shape.answer_recolor red green blue

theorem answer_execute_resize (first second : Float) :
    (execute clock album (.resize name first second)).answer =
      match album.scene.get? name with
      | none => .ok (.noTarget (.resize name first second))
      | some shape => appliedUnless (Extent.refusal? shape.kind first second) :=
  answer_inScene_change (.resize name first second)
    (fun shape => Extent.refusal? shape.kind first second)
    fun shape => shape.answer_resize first second

theorem answer_execute_remove (valid : album.scene.Valid) :
    (execute clock album (.remove name)).answer =
      match album.scene.get? name with
      | none => .ok (.noTarget (.remove name))
      | some _ => .ok .applied := by
  simp only [execute, Scene.remove, valid.mem_names_iff_isSome]
  cases album.scene.get? name <;> rfl

end Answers

section Lines

variable
  {clock : Clock}
  {album : Album}
  {line : SourceLine}
  {command : Command}

/-- A word is not blank. -/
theorem isBlankName_eq_false_of_isWord
    {name : String}
    (isWord : Text.IsWord name) :
    Shape.isBlankName name = false := by
  rw [Shape.isBlankName, List.isEmpty_eq_false_iff, ne_eq,
    Text.trimChars_eq_nil_iff, isWord.words_toList]
  exact List.cons_ne_nil _ _

/-- The shape that a line asks for has a name that is not blank. -/
theorem isBlankName_eq_false_of_read
    {name : String}
    {kind : Kind}
    {position : Point}
    {first second red green blue : Float}
    (isRead :
      line.read =
        .ok (some (.shape name kind position first second red green blue))) :
    Shape.isBlankName name = false := by
  have isWord : Text.IsWord name :=
    isWord_name_of_made? (SourceLine.command?_of_read isRead) rfl
  exact isBlankName_eq_false_of_isWord isWord

/-- No text fails to be read for a refusal. -/
theorem not_fails_refused (text : String) (refusal : Refusal) :
    ¬Fails text (.refused refusal) := by
  intro fails
  cases fails with
  | arguments words isKeyword leftmost =>
      obtain ⟨position, offends, -⟩ := leftmost
      cases offends with
      | refused isSlot isWord refuses =>
          cases refuses

/-- A line is refused by the command in it. -/
theorem refused_of_executeLine
    {fault : Fault}
    {refusal : Refusal}
    (failed : (executeLine clock album line).answer = .error fault)
    (isRefusal : fault.problem = .refused refusal) :
    ∃ command,
      line.read = .ok (some command) ∧
        (execute clock album command).answer = .error refusal := by
  rw [executeLine_answer_eq_error_iff] at failed
  obtain unreadable | ⟨command, cause, isRead, refused, rfl⟩ := failed
  · obtain ⟨-, hasProblem⟩ := (line.read_eq_error_iff fault).mp unreadable
    rw [isRefusal, readLine_eq_error_iff] at hasProblem
    exact absurd hasProblem (not_fails_refused line.text refusal)
  · cases isRefusal
    exact ⟨command, isRead, refused⟩

/--
A command that was read is refused for a channel, a size or a taken name only.
-/
theorem cause_of_execute
    (reached : Reached clock album)
    (isRead : line.read = .ok (some command))
    {refusal : Refusal}
    (refused : (execute clock album command).answer = .error refusal) :
    (∃ channel value, refusal = .channelOutOfRange channel value) ∨
      (∃ sizeName value, refusal = .sizeNotPositive sizeName value) ∨
      ∃ name, refusal = .nameTaken name := by
  cases command with
  | shape name kind position first second red green blue =>
      have notBlank : Shape.isBlankName name = false :=
        isBlankName_eq_false_of_read isRead
      rw [answer_execute_shape clock reached.valid_scene notBlank] at refused
      split at refused
      · rename_i outOfRange ofColor
        cases refused
        exact .inl (Color.exists_of_refusal?_eq_some ofColor)
      · cases refused
        exact .inr (.inr ⟨name, rfl⟩)
      · exact .inr <| .inl <|
          Extent.exists_of_refusal?_eq_some
            (appliedUnless_eq_error_iff.mp refused)
  | move name position =>
      rw [answer_execute_move] at refused
      split at refused <;> cases refused
  | color name red green blue =>
      rw [answer_execute_color] at refused
      split at refused
      · cases refused
      · exact .inl
          (Color.exists_of_refusal?_eq_some
            (appliedUnless_eq_error_iff.mp refused))
  | resize name first second =>
      rw [answer_execute_resize] at refused
      split at refused
      · cases refused
      · exact .inr <| .inl <|
          Extent.exists_of_refusal?_eq_some
            (appliedUnless_eq_error_iff.mp refused)
  | remove name =>
      cases refused
  | snapshot description =>
      cases refused
  | clear target =>
      cases target <;> cases refused

end Lines

/--
A command that was read is refused exactly if it should be.  Making a shape is
refused for the first channel out of range, else for a name that is live, else
for the first size that is not positive.  A command for a name that is not live
finds no shape, whatever its values; for a live name, the color is refused for a
channel and the sizes for a size.  Snapshots and clears are never refused, and
no line is ever refused for a missing shape, a taken id, an operation without
support or a blank name.
-/
theorem refused_exactly_for_first_cause
    {clock : Clock}
    {album : Album}
    (reached : Reached clock album) :
    (∀ (line : SourceLine) (command : Command),
      line.read = .ok (some command) →
      let answer := (execute clock album command).answer
      match command with
      | .shape name kind _ first second red green blue =>
          answer =
            match Color.refusal? red green blue, album.scene.get? name with
            | some outOfRange, _ => .error outOfRange
            | none, some _ => .error (.nameTaken name)
            | none, none => appliedUnless (Extent.refusal? kind first second)
      | .color name red green blue =>
          answer =
            match album.scene.get? name with
            | none => .ok (.noTarget command)
            | some _ => appliedUnless (Color.refusal? red green blue)
      | .resize name first second =>
          answer =
            match album.scene.get? name with
            | none => .ok (.noTarget command)
            | some shape =>
                appliedUnless (Extent.refusal? shape.kind first second)
      | .move name _ | .remove name =>
          answer =
            match album.scene.get? name with
            | none => .ok (.noTarget command)
            | some _ => .ok .applied
      | .snapshot description =>
          ∃ id, answer = .ok (.captured id description)
      | .clear _ =>
          answer = .ok .applied) ∧
    ∀ (line : SourceLine) (fault : Fault) (refusal : Refusal),
      (executeLine clock album line).answer = .error fault →
      fault.problem = .refused refusal →
      refusal.category ≠ .missing ∧ refusal.category ≠ .takenId ∧
        refusal.category ≠ .unsupported ∧ refusal ≠ .blankName := by
  refine ⟨?answered, ?causes⟩
  case answered =>
    intro line command isRead answer
    cases command with
    | shape name kind position first second red green blue =>
        have notBlank : Shape.isBlankName name = false :=
          isBlankName_eq_false_of_read isRead
        exact answer_execute_shape clock reached.valid_scene notBlank
          kind position
          first second red green blue
    | move name position =>
        exact answer_execute_move clock position
    | color name red green blue =>
        exact answer_execute_color clock red green blue
    | resize name first second =>
        exact answer_execute_resize clock first second
    | remove name =>
        exact answer_execute_remove clock reached.valid_scene
    | snapshot description =>
        exact ⟨_, rfl⟩
    | clear target =>
        cases target <;> rfl
  case causes =>
    intro line fault refusal failed isRefusal
    obtain ⟨command, isRead, refused⟩ := refused_of_executeLine failed isRefusal
    obtain ⟨channel, value, rfl⟩ | ⟨sizeName, value, rfl⟩ | ⟨name, rfl⟩ :=
      cause_of_execute reached isRead refused <;>
      exact ⟨nofun, nofun, nofun, nofun⟩

/--
A taken name with two channels and both sizes out of range: green is reported.
-/
theorem refused_for_green_before_taken_name :
    let clock : Clock := fun _ => ⟨2024, 2, 29, 12, 0, 0, 0⟩
    let album := (run clock .empty "shape Dot oval 1 2 3 4 5 6 7").after
    let line : SourceLine := ⟨2, "SHAPE Dot oval 1 2 0 0 8 300 -1"⟩
    let command : Command := .shape "Dot" .oval ⟨1, 2⟩ 0 0 8 300 (-1)
    let green : Refusal := .channelOutOfRange .green 300
    Reached clock album ∧
      line.read = .ok (some command) ∧
      (execute clock album command).answer = .error green ∧
      (executeLine clock album line).answer = .error ⟨line, .refused green⟩ ∧
      green.category ≠ .missing ∧ green.category ≠ .takenId ∧
        green.category ≠ .unsupported ∧ green ≠ .blankName := by
  intro clock album line command green
  have reached : Reached clock album := Reached.fresh.run _
  have isRead : line.read = .ok (some command) := by
    decide +kernel
  have isGreen : Color.refusal? 8 300 (-1) = some green := by
    decide +kernel
  have failed : (executeLine clock album line).answer =
      .error ⟨line, .refused green⟩ := by
    decide +kernel
  obtain ⟨answers, causes⟩ := refused_exactly_for_first_cause reached
  have answered := answers line command isRead
  simp only [command, isGreen] at answered
  exact ⟨reached, isRead, answered, failed, causes line _ green failed rfl⟩

end Script

end Storyboard
