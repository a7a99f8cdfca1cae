import Storyboard.Proofs.Album.Validity
import Storyboard.Script.Run

namespace Storyboard.Script

/-!
# Albums reached by scripts

A line changes an album only through the command that it asks for, and a command
does to the album what one or two operations do.  Albums that scripts reach are
therefore albums that operations reach, and what every operation keeps holds of
them.
-/

/-- The command that a line asks for, if it can be read and asks for one. -/
def command? (text : String) : Option Command :=
  match readLine text with
  | .ok command => command
  | .error _ => none

/-- A command is read from the first word of a line and the words after it. -/
theorem readCommand_of_command?
    {text : String}
    {command : Command}
    (asked : command? text = some command) :
    ∃ line word arguments,
      readCommand line word arguments = .ok command := by
  unfold command? readLine at asked
  split at asked
  · rename_i answer accepted
    subst asked
    simp only at accepted
    split at accepted
    · cases accepted
    · split at accepted
      · cases accepted
      · obtain ⟨read, isRead, same⟩ := map_eq_ok_iff.mp accepted
        cases same
        exact ⟨_, _, _, isRead⟩
  · cases asked

/-- A line is read as the command that it asks for. -/
theorem SourceLine.read_of_command?
    {line : SourceLine}
    {command : Command}
    (asked : command? line.text = some command) :
    line.read = .ok (some command) := by
  rw [SourceLine.read_eq_ok_iff]
  unfold command? at asked
  cases accepted : readLine line.text with
  | ok read =>
      rw [accepted] at asked
      exact congrArg Except.ok asked
  | error problem =>
      rw [accepted] at asked
      cases asked

theorem SourceLine.command?_of_read
    {line : SourceLine}
    {command : Command}
    (isRead : line.read = .ok (some command)) :
    command? line.text = some command := by
  rw [SourceLine.read_eq_ok_iff] at isRead
  rw [command?, isRead]

/-- What became of a line that is run on an album. -/
def resultOf (clock : Clock) (album : Album) (line : SourceLine) : LineResult :=
  ⟨line, (executeLine clock album line).answer⟩

/-- The operations that do to an album what a command does. -/
def Command.operations : Command → List Operation
  | .shape name kind position first second red green blue =>
      [.create kind name position first second red green blue]
  | .move name position => [.move name position]
  | .color name red green blue => [.recolor name red green blue]
  | .resize name first second => [.resize name first second]
  | .remove name => [.remove name]
  | .snapshot description => [.snapshot description]
  | .clear .snapshots => [.clearSnapshots]
  | .clear .shapes => [.clearShapes]
  | .clear .all => [.clearShapes, .clearSnapshots]

/-- The album after an optional command. -/
def executeOptional
    (clock : Clock)
    (album : Album) :
    Option Command → Album
  | none => album
  | some command => (execute clock album command).after

/-- A command leaves the album that its operations leave. -/
theorem execute_after_eq_performAll
    (clock : Clock)
    (album : Album)
    (command : Command) :
    (execute clock album command).after =
      (album.performAll clock command.operations).after := by
  cases command with
  | shape name kind position first second red green blue =>
      cases made : Color.ofChannels red green blue <;>
        simp [execute, Command.operations, Album.performAll, Album.perform,
          made, inScene, Album.inScene]
  | clear target =>
      cases target <;> rfl
  | move | color | resize | remove | snapshot =>
      rfl

/-- A line leaves the album that the command in it leaves. -/
theorem executeLine_after
    (clock : Clock)
    (album : Album)
    (line : SourceLine) :
    (executeLine clock album line).after =
      executeOptional clock album (command? line.text) := by
  unfold executeLine SourceLine.read command?
  cases readLine line.text with
  | error problem =>
      rfl
  | ok command =>
      cases command <;> rfl

/-- A line fails if it cannot be read or if the command in it is refused. -/
theorem executeLine_answer_eq_error_iff
    (clock : Clock)
    (album : Album)
    (line : SourceLine)
    (fault : Fault) :
    (executeLine clock album line).answer = .error fault ↔
      line.read = .error fault ∨
        ∃ command refusal,
          line.read = .ok (some command) ∧
            (execute clock album command).answer = .error refusal ∧
            fault = ⟨line, .refused refusal⟩ := by
  unfold executeLine
  cases line.read with
  | error unreadable =>
      simp
  | ok asked =>
      cases asked with
      | none =>
          simp
      | some command =>
          cases executed : (execute clock album command).answer <;>
            simp [executed, Except.mapError, eq_comm]

/--
The album after lines that were run in order does not depend on their numbers.
-/
theorem runLines_after
    (clock : Clock)
    (album : Album)
    (number : Nat)
    (texts : List String) :
    (runLines clock album number texts).after =
      (texts.map command?).foldl (executeOptional clock) album := by
  induction texts generalizing album number with
  | nil =>
      rfl
  | cons text rest inductionHypothesis =>
      rw [runLines, inductionHypothesis, executeLine_after]
      rfl

/-- The first line of a run gives the first result. -/
theorem answer_runLines_cons
    (clock : Clock)
    (album : Album)
    (number : Nat)
    (text : String)
    (rest : List String) :
    (runLines clock album number (text :: rest)).answer =
      resultOf clock album ⟨number, text⟩ ::
        (runLines clock (executeLine clock album ⟨number, text⟩).after
          (number + 1) rest).answer :=
  rfl

/-- The other lines of a run begin with the album that the first one leaves. -/
theorem after_runLines_cons
    (clock : Clock)
    (album : Album)
    (number : Nat)
    (text : String)
    (rest : List String) :
    (runLines clock album number (text :: rest)).after =
      (runLines clock (executeLine clock album ⟨number, text⟩).after
        (number + 1) rest).after :=
  rfl

/-- The results of a run are those of its lines, in order. -/
theorem map_text_runLines
    (clock : Clock)
    (album : Album)
    (number : Nat)
    (texts : List String) :
    (runLines clock album number texts).answer.map (·.line.text) = texts := by
  induction texts generalizing album number with
  | nil =>
      rfl
  | cons text rest inductionHypothesis =>
      simp [runLines, inductionHypothesis]

/-- A run has one result for every line. -/
theorem length_answer_runLines
    (clock : Clock)
    (album : Album)
    (number : Nat)
    (texts : List String) :
    (runLines clock album number texts).answer.length = texts.length := by
  rw [← List.length_map (·.line.text), map_text_runLines]

/-- An album that a fresh one becomes by running lines of scripts. -/
inductive Reached (clock : Clock) : Album → Prop where
  | fresh :
      Reached clock .empty
  | line
      {album : Album}
      (reached : Reached clock album)
      (line : SourceLine) :
      Reached clock (executeLine clock album line).after

namespace Reached

variable
  {clock : Clock}
  {album : Album}

/-- Running further lines stays among the albums that scripts reach. -/
theorem runLines
    (reached : Reached clock album)
    (number : Nat)
    (texts : List String) :
    Reached clock (Script.runLines clock album number texts).after := by
  induction texts generalizing album number with
  | nil =>
      exact reached
  | cons text rest inductionHypothesis =>
      exact inductionHypothesis (reached.line ⟨number, text⟩) (number + 1)

/-- Running a whole source stays among the albums that scripts reach. -/
theorem run
    (reached : Reached clock album)
    (source : String) :
    Reached clock (Script.run clock album source).after :=
  reached.runLines 1 (Text.lines source)

/--
What every command that a line can ask for keeps holds of every reached album.
-/
theorem invariant
    (reached : Reached clock album)
    (property : Album → Prop)
    (fresh : property .empty)
    (kept :
      ∀ {album text command},
        command? text = some command →
        property album →
        property (execute clock album command).after) :
    property album := by
  induction reached with
  | fresh =>
      exact fresh
  | @line before _ line inductionHypothesis =>
      rw [executeLine_after]
      cases asked : command? line.text with
      | none =>
          exact inductionHypothesis
      | some command =>
          exact kept asked inductionHypothesis

/-- The scene of every album that scripts reach is valid. -/
theorem valid_scene (reached : Reached clock album) : album.scene.Valid := by
  refine reached.invariant (fun album => album.scene.Valid)
    Scene.valid_empty ?_
  intro before text command _ valid
  rw [execute_after_eq_performAll]
  exact Album.valid_scene_performAll valid clock command.operations

end Reached

end Storyboard.Script
