import Storyboard.Proofs.Number.Characters
import Storyboard.Proofs.Number.ReadBack
import Storyboard.Proofs.Script.Effect
import Storyboard.Proofs.Script.Finite
import Storyboard.Proofs.Script.IssuedIds
import Storyboard.Proofs.Script.Productions
import Storyboard.Proofs.Script.Pruning
import Storyboard.Proofs.Text.Spacing

namespace Storyboard.Script

/-!
# Scenes written back as scripts

Every scene that scripts reach can be written as a script with one line for each
shape, and running that script makes the scene again.  Three things carry this:
names come from words of lines and stay words, all numbers are finite and read
back from their shortest texts, and what was valid once is accepted again.
-/

/-- The words of the line that makes a shape. -/
def partsOf (shape : Shape) : List String :=
  "shape" :: shape.name :: shape.kind.word :: shape.numbers.map Number.shortest

/-- The line that makes a shape. -/
def lineOf (shape : Shape) : String :=
  Text.spaced (partsOf shape)

/-- The script that makes the shapes of a scene one after the other. -/
def scriptOf (scene : Scene) : String :=
  Text.joinLines (scene.shapes.map lineOf)

/-- The command that makes a shape. -/
def makerOf (shape : Shape) : Command :=
  .shape shape.name shape.kind shape.position shape.extent.sizes.1
    shape.extent.sizes.2
    shape.color.red shape.color.green shape.color.blue

section Lines

theorem isWord_kind_word (kind : Kind) : Text.IsWord kind.word := by
  cases kind <;> decide

/-- A printed finite number is a word. -/
theorem isWord_shortest
    {value : Float}
    (finite : value.isFinite = true) :
    Text.IsWord (Number.shortest value) := by
  constructor
  · intro isEmpty
    have noNumeral : Number.ofNumeral? "" = none := by decide +kernel
    have readBack := Number.ofNumeral?_shortest finite
    rw [isEmpty, noNumeral] at readBack
    cases readBack
  · intro c member
    rw [Number.shortest, String.toList_ofList] at member
    obtain isDigit | isSign :=
      Number.isDigit_or_mem_signs_of_mem_printWith member
    · exact Text.isBlank_eq_false_of_isDigit isDigit
    · have noneBlank :
          Number.signs.all (fun sign => !Text.isBlank sign) = true := by
        decide
      simpa using List.all_eq_true.mp noneBlank c isSign

/-- Every part of the line that makes a shape is a word. -/
theorem isWord_of_mem_partsOf
    {shape : Shape}
    (named : Text.IsWord shape.name)
    (finite : shape.Finite) :
    ∀ part ∈ partsOf shape, Text.IsWord part := by
  have isNumber : ∀ number ∈ shape.numbers,
      Text.IsWord (Number.shortest number) :=
    fun number member => isWord_shortest (finite number member)
  have isKeyword : Text.IsWord "shape" := by
    decide
  simp only [partsOf, List.forall_mem_cons, List.forall_mem_map]
  exact ⟨isKeyword, named, isWord_kind_word shape.kind, isNumber⟩

/-- The line that makes a shape asks for the shape. -/
theorem asks_lineOf
    {shape : Shape}
    (named : Text.IsWord shape.name)
    (finite : shape.Finite) :
    Asks (lineOf shape) (makerOf shape) := by
  have isNumber {number : Float} (isFinite : number.isFinite = true) :
      IsNumber (Number.shortest number) number :=
    ⟨Number.ofNumeral?_shortest isFinite, isFinite⟩
  have words : wordsOf (lineOf shape) = partsOf shape := by
    rw [wordsOf, lineOf, Text.words_spaced (isWord_of_mem_partsOf named finite),
      List.map_map]
    simp [Function.comp_def]
  obtain ⟨⟨x, y⟩, ⟨first, second⟩, red, green, blue⟩ :=
    shape.finite_iff.mp finite
  have isKind : Spells shape.kind.word shape.kind.word :=
    (kindOfWord?_eq_some_iff _ _).mp (Kind.ofWord?_word shape.kind)
  exact .shape words rfl isKind (isNumber x) (isNumber y) (isNumber first)
    (isNumber second)
    (isNumber red) (isNumber green) (isNumber blue)

end Lines

section Names

theorem asks_of_command?
    {text : String}
    {command : Command}
    (asked : command? text = some command) :
    Asks text command := by
  rw [← readLine_eq_ok_some_iff]
  unfold command? at asked
  split at asked
  case h_1 isRead =>
    rw [isRead, asked]
  case h_2 =>
    cases asked

/-- A shape that a line makes has a word of the line for its name. -/
theorem isWord_name_of_made?
    {text : String}
    {command : Command}
    (asked : command? text = some command)
    {shape : Shape}
    (made : command.made? = some shape) :
    Text.IsWord shape.name := by
  cases asks_of_command? asked with
  | shape words =>
      cases made
      have member : _ ∈ wordsOf text :=
        words ▸ List.mem_cons_of_mem _ List.mem_cons_self
      obtain ⟨letters, isWord, rfl⟩ := List.mem_map.mp member
      exact Text.isWord_of_mem_words isWord
  | move | color | resize | remove | snapshot | clear | clearTarget =>
      cases made

theorem name_of_leaves_eq_some
    {command : Command}
    {before after : Shape}
    (left : command.leaves before = some after) :
    after.name = before.name := by
  cases command with
  | move | color | resize =>
      rw [← Option.some.inj left]
      split <;> rfl
  | remove name =>
      simp only [Command.leaves] at left
      split at left <;> cases left
      rfl
  | clear target =>
      cases target <;> cases left
      rfl
  | shape | snapshot =>
      cases left
      rfl

/-- Every shape of an album that scripts reach has a word for its name. -/
theorem Reached.isWord_name
    {clock : Clock}
    {album : Album}
    (reached : Reached clock album) :
    ∀ shape ∈ album.scene.shapes, Text.IsWord shape.name := by
  suffices held :
      album.scene.Valid ∧ ∀ shape ∈ album.scene.shapes,
        Text.IsWord shape.name from
    held.2
  refine reached.invariant
    (fun album =>
      album.scene.Valid ∧ ∀ shape ∈ album.scene.shapes, Text.IsWord shape.name)
    ⟨Scene.valid_empty, by simp [Album.empty]⟩ ?_
  rintro before text command asked ⟨valid, named⟩
  constructor
  · rw [execute_after_eq_performAll]
    exact Album.valid_scene_performAll valid clock command.operations
  · intro shape member
    obtain ⟨-, changed⟩ | ⟨-, unchanged, -⟩ := done_execute valid clock command
    · rw [changed, List.mem_append, List.mem_filterMap, Option.mem_toList]
        at member
      obtain ⟨former, isFormer, left⟩ | made := member
      · rw [name_of_leaves_eq_some left]
        exact named former isFormer
      · exact isWord_name_of_made? asked made
    · rw [unchanged] at member
      exact named shape member

end Names

section Runs

variable (clock : Clock)

/--
The command that makes a valid shape puts it at the end of a scene that has not
its name.
-/
theorem execute_makerOf
    {album : Album}
    {shape : Shape}
    (valid : shape.Valid)
    (free : shape.name ∉ album.scene.names) :
    CarriedOut (execute clock album (makerOf shape)).answer ∧
      (execute clock album (makerOf shape)).after.scene.shapes =
        album.scene.shapes ++ [shape] := by
  have hasColor :
      Color.ofChannels shape.color.red shape.color.green shape.color.blue =
        .ok shape.color :=
    Color.ofChannels_eq_ok_iff.mpr ⟨rfl, valid.colorValid⟩
  have isShape :
      Shape.create shape.kind shape.name shape.position shape.extent.sizes.1
        shape.extent.sizes.2 shape.color = .ok shape :=
    Shape.create_eq_ok_iff.mpr
      ⟨valid.named, valid.sizesPositive.1, valid.sizesPositive.2, rfl, rfl,
        rfl, rfl, rfl⟩
  have created :
      album.scene.create shape.kind shape.name shape.position
        shape.extent.sizes.1
          shape.extent.sizes.2 shape.color =
        ⟨.ok shape,
          { shapes := album.scene.shapes ++ [shape]
            names := album.scene.names.insert shape.name }⟩ := by
    rw [Scene.create, if_neg free, isShape]
  simp only [makerOf, execute, hasColor, created]
  exact ⟨.inl rfl, rfl⟩

/--
Lines that ask for valid shapes of different names are all applied and put the
shapes at the end of the scene.
-/
theorem runLines_of_makers
    {album : Album}
    (valid : album.scene.Valid)
    {shapes : List Shape}
    (shapesValid : ∀ shape ∈ shapes, shape.Valid)
    (distinct : ((album.scene.shapes ++ shapes).map (·.name)).Nodup)
    {texts : List String}
    (asking : texts.map command? = shapes.map fun shape => some (makerOf shape))
    (number : Nat) :
    (∀ result ∈ (runLines clock album number texts).answer,
      Report.isApplied result = true) ∧
      (runLines clock album number texts).after.scene.shapes =
        album.scene.shapes ++ shapes := by
  induction shapes generalizing album texts number with
  | nil =>
      rw [List.map_eq_nil_iff.mp asking]
      exact ⟨nofun, (List.append_nil _).symm⟩
  | cons shape rest inductionHypothesis =>
      rw [List.map_cons, List.map_eq_cons_iff] at asking
      obtain ⟨text, later, rfl, asked, laterAsking⟩ := asking
      rw [List.forall_mem_cons] at shapesValid
      let line : SourceLine := ⟨number, text⟩
      have free : shape.name ∉ album.scene.names := by
        rw [valid.mem_names_iff]
        intro taken
        rw [List.map_append, List.nodup_append] at distinct
        exact distinct.2.2 _ taken _ List.mem_cons_self rfl
      obtain ⟨carriedOut, added⟩ := execute_makerOf clock shapesValid.1 free
      have lineAfter :
          (executeLine clock album line).after =
            (execute clock album (makerOf shape)).after := by
        rw [executeLine_after, asked]
        rfl
      have applied : Report.isApplied (resultOf clock album line) = true :=
        (isApplied_iff _).mpr
          ((carriedOut_executeLine_iff line).mpr
            ⟨makerOf shape, asked, carriedOut⟩)
      have validAfter : (executeLine clock album line).after.scene.Valid := by
        rw [lineAfter, execute_after_eq_performAll]
        exact Album.valid_scene_performAll valid clock _
      have shapesAfter :
          (executeLine clock album line).after.scene.shapes =
            album.scene.shapes ++ [shape] := by
        rw [lineAfter, added]
      have whole : album.scene.shapes ++ [shape] ++ rest =
          album.scene.shapes ++ shape :: rest := by
        simp
      obtain ⟨restApplied, restAdded⟩ :=
        inductionHypothesis validAfter shapesValid.2
          (by rw [shapesAfter, whole]; exact distinct)
          laterAsking (number + 1)
      rw [answer_runLines_cons, after_runLines_cons, List.forall_mem_cons]
      refine ⟨⟨applied, restApplied⟩, ?_⟩
      rw [restAdded, shapesAfter, whole]

/--
The written lines of a reached scene ask for its shapes, one after the other.
-/
theorem map_command?_lines_scriptOf
    {clock : Clock}
    {album : Album}
    (reached : Reached clock album) :
    (Text.lines (scriptOf album.scene)).map command? =
      album.scene.shapes.map fun shape => some (makerOf shape) := by
  have asked : ∀ shape ∈ album.scene.shapes,
      command? (lineOf shape) = some (makerOf shape) := by
    intro shape member
    have asks := asks_lineOf (reached.isWord_name shape member)
      (reached.finite.live shape member)
    rw [command?, readLine_of_asks asks]
  have onOneLine : ∀ text ∈ album.scene.shapes.map lineOf,
      '\n' ∉ text.toList := by
    rw [List.forall_mem_map]
    intro shape member
    exact Text.newline_notMem_spaced
      (isWord_of_mem_partsOf (reached.isWord_name shape member)
        (reached.finite.live shape member))
  have asking : ∀ text ∈ album.scene.shapes.map lineOf,
      command? text ≠ none := by
    rw [List.forall_mem_map]
    intro shape member
    rw [asked shape member]
    exact Option.some_ne_none _
  rw [scriptOf, map_command?_lines_joinLines onOneLine asking, List.map_map]
  refine List.map_congr_left fun shape member => ?_
  rw [Function.comp_apply, asked shape member]

/--
The script that is written for a scene that scripts have reached makes the same
scene again: every line of it is applied, and nothing else is reported.
-/
theorem run_scriptOf
    (clock otherClock : Clock)
    (sources : List String) :
    let scene := (runAll clock .empty sources).scene
    let again := run otherClock .empty (scriptOf scene)
    again.after.scene = scene ∧
      again.answer = ⟨scene.shapes.length, scene.shapes.length, 0, []⟩ := by
  intro scene again
  have reached : Reached clock (runAll clock .empty sources) :=
    Reached.fresh.runAll sources
  have valid : scene.Valid := reached.valid_scene
  have asking := map_command?_lines_scriptOf reached
  have validEmpty : Album.empty.scene.Valid := Scene.valid_empty
  have distinct :
      ((Album.empty.scene.shapes ++ scene.shapes).map (·.name)).Nodup :=
    valid.names_nodup
  obtain ⟨applied, shapesAgain⟩ :=
    runLines_of_makers otherClock validEmpty valid.shapes_valid
      distinct asking 1
  have validAgain : again.after.scene.Valid := (Reached.fresh.run _).valid_scene
  have length :
      (trace otherClock .empty (scriptOf scene)).answer.length =
        scene.shapes.length := by
    rw [trace, length_answer_runLines, ← List.length_map command?, asking,
      List.length_map]
  refine ⟨validAgain.eq_of_shapes_eq valid shapesAgain, ?_⟩
  have reported :
      Report.ofResults (trace otherClock .empty (scriptOf scene)).answer =
        ⟨scene.shapes.length, scene.shapes.length, 0, []⟩ := by
    rw [← length]
    exact ofResults_of_applied applied
  exact reported

end Runs

end Storyboard.Script
