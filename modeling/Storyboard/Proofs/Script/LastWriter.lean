import Storyboard.Proofs.Script.Effect

namespace Storyboard.Script

/-!
# The last writer of every attribute

After a run the scene can be told from what became of the lines.  A shape is
there if the line that made it has no later line that ends its name, and each of
its attributes is what the last later line that writes it wrote.  Shapes are
listed in the order of the lines that made them.
-/

namespace Command

/-- The position that a command gives to the shape of a name. -/
def movedTo? (name : String) : Command → Option Point
  | .move target position => if name = target then some position else none
  | _ => none

/-- The sizes that a command gives to the shape of a name. -/
def resizedTo? (name : String) : Command → Option (Float × Float)
  | .resize target first second =>
      if name = target then some (first, second) else none
  | _ => none

/-- The color that a command gives to the shape of a name. -/
def recoloredTo? (name : String) : Command → Option Color
  | .color target red green blue =>
      if name = target then some ⟨red, green, blue⟩ else none
  | _ => none

end Command

namespace LineResult

/-- The command that the line asks for, whatever became of it. -/
def command? (result : LineResult) : Option Command :=
  Script.command? result.line.text

/-- The command that the line asks for, if it was applied. -/
def applied? (result : LineResult) : Option Command :=
  match result.result with
  | .ok .applied => result.command?
  | _ => none

/-- The shape that the line made. -/
def made? (result : LineResult) : Option Shape :=
  result.applied?.bind Command.made?

/-- Whether the line made a shape of a name. -/
def makes (name : String) (result : LineResult) : Bool :=
  result.made?.any fun shape => shape.name = name

/-- Whether the line removed the shape of a name or cleared all shapes. -/
def ends (name : String) (result : LineResult) : Bool :=
  result.applied? = some (.remove name) ||
    result.command? = some (.clear .shapes) ||
    result.command? = some (.clear .all)

/-- The position to which the line moves the shape of a name. -/
def movedTo? (name : String) (result : LineResult) : Option Point :=
  result.command?.bind (Command.movedTo? name)

/-- The sizes that the line gave to the shape of a name. -/
def resizedTo? (name : String) (result : LineResult) : Option (Float × Float) :=
  result.applied?.bind (Command.resizedTo? name)

/-- The color that the line gave to the shape of a name. -/
def recoloredTo? (name : String) (result : LineResult) : Option Color :=
  result.applied?.bind (Command.recoloredTo? name)

/-- What the line leaves of a shape that there was before it. -/
def leaves (result : LineResult) (shape : Shape) : Option Shape :=
  if result.ends shape.name then
    none
  else
    some
      { shape with
        position := (result.movedTo? shape.name).getD shape.position
        color := (result.recoloredTo? shape.name).getD shape.color
        extent :=
          shape.kind.extent
            ((result.resizedTo? shape.name).getD shape.extent.sizes) }

/-- A line that was applied leaves of every shape what its command leaves. -/
theorem leaves_of_applied
    {result : LineResult}
    {command : Command}
    (asked : result.command? = some command)
    (applied : result.applied? = some command) :
    result.leaves = command.leaves := by
  funext shape
  unfold leaves ends movedTo? resizedTo? recoloredTo?
  rw [asked, applied]
  cases command with
  | move name | color name | resize name =>
      by_cases isNamed : shape.name = name <;>
        simp [Command.leaves, Command.movedTo?, Command.resizedTo?,
          Command.recoloredTo?, Shape.kind, isNamed]
  | remove name =>
      by_cases isNamed : shape.name = name
      · simp [Command.leaves, isNamed]
      · simp [Command.leaves, Command.movedTo?, Command.resizedTo?,
          Command.recoloredTo?, Shape.kind, isNamed, Ne.symm isNamed]
  | clear target =>
      cases target <;>
        simp [Command.leaves, Command.movedTo?, Command.resizedTo?,
          Command.recoloredTo?, Shape.kind]
  | shape | snapshot =>
      simp [Command.leaves, Command.movedTo?, Command.resizedTo?,
        Command.recoloredTo?, Shape.kind]

/--
A line that was not applied leaves a shape that its command does not reach.
-/
theorem leaves_of_not_applied
    {result : LineResult}
    {shape : Shape}
    (notApplied : result.applied? = none)
    (notReached :
      ∀ command, result.command? = some command →
        command.reaches shape = false) :
    result.leaves shape = some shape := by
  unfold leaves ends movedTo? resizedTo? recoloredTo?
  rw [notApplied]
  cases asked : result.command? with
  | none =>
      simp [Shape.kind]
  | some command =>
      have outOfReach := notReached command asked
      cases command with
      | move name position =>
          have otherName : shape.name ≠ name := by
            simpa [Command.reaches] using outOfReach
          simp [Command.movedTo?, Shape.kind, otherName]
      | clear target =>
          cases target with
          | snapshots =>
              simp [Command.movedTo?, Shape.kind]
          | shapes | all =>
              cases outOfReach
      | shape | color | resize | remove | snapshot =>
          simp [Command.movedTo?, Shape.kind]

end LineResult

/-- A line is applied exactly if its command is. -/
theorem applied?_resultOf
    (clock : Clock)
    (album : Album)
    {line : SourceLine}
    {command : Command}
    (asked : command? line.text = some command) :
    (resultOf clock album line).applied? =
      match (execute clock album command).answer with
      | .ok .applied => some command
      | _ => none := by
  have isRead : line.read = .ok (some command) :=
    SourceLine.read_of_command? asked
  have hasCommand : (resultOf clock album line).command? = some command := asked
  unfold LineResult.applied?
  rw [hasCommand]
  simp only [resultOf, executeLine, isRead]
  cases (execute clock album command).answer with
  | error refusal =>
      rfl
  | ok outcome =>
      cases outcome <;> rfl

/-- A line does to the shapes what its result says. -/
theorem shapes_executeLine
    (clock : Clock)
    {album : Album}
    (valid : album.scene.Valid)
    (line : SourceLine) :
    (executeLine clock album line).after.scene.shapes =
      album.scene.shapes.filterMap (resultOf clock album line).leaves ++
        (resultOf clock album line).made?.toList := by
  rw [executeLine_after]
  cases asked : command? line.text with
  | none =>
      have noCommand : (resultOf clock album line).command? = none := asked
      have notApplied : (resultOf clock album line).applied? = none := by
        unfold LineResult.applied?
        split
        · exact noCommand
        · rfl
      have leavesAll : (resultOf clock album line).leaves = some := by
        funext shape
        exact LineResult.leaves_of_not_applied notApplied
          fun command asksFor => by
            rw [noCommand] at asksFor
            cases asksFor
      simp [executeOptional, leavesAll, LineResult.made?, notApplied]
  | some command =>
      have hasCommand : (resultOf clock album line).command? = some command :=
        asked
      have answered := applied?_resultOf clock album asked
      obtain ⟨isApplied, done⟩ | ⟨notApplied, unchanged, outOfReach⟩ :=
        done_execute valid clock command
      · rw [isApplied] at answered
        rw [executeOptional, done,
          LineResult.leaves_of_applied hasCommand answered]
        simp [LineResult.made?, answered]
      · have noneApplied : (resultOf clock album line).applied? = none := by
          rw [answered]
          split
          · rename_i isApplied
            exact absurd isApplied notApplied
          · rfl
        have leavesAll :
            album.scene.shapes.filterMap (resultOf clock album line).leaves =
              album.scene.shapes := by
          refine (List.filterMap_congr fun shape member => ?_).trans
            (List.filterMap_some)
          refine LineResult.leaves_of_not_applied noneApplied
            fun other asksFor => ?_
          cases hasCommand.symm.trans asksFor
          exact outOfReach shape member
        simp [executeOptional, unchanged, leavesAll, LineResult.made?,
          noneApplied]

/--
The last value that some lines write, or the one before them if none writes.
-/
def lastOf
    (writtenBy : LineResult → Option α)
    (results : List LineResult)
    (before : α) :
    α :=
  (results.filterMap writtenBy).getLast?.getD before

theorem lastOf_cons
    (writtenBy : LineResult → Option α)
    (first : LineResult)
    (rest : List LineResult)
    (before : α) :
    lastOf writtenBy (first :: rest) before =
      lastOf writtenBy rest ((writtenBy first).getD before) := by
  unfold lastOf
  cases written : writtenBy first with
  | none =>
      rw [List.filterMap_cons_none written, Option.getD_none]
  | some value =>
      rw [List.filterMap_cons_some written, List.getLast?_cons,
        Option.getD_some, Option.getD_some]

/-- A shape with every attribute as the last of some lines wrote it. -/
def rewritten (results : List LineResult) (shape : Shape) : Shape :=
  { shape with
    position :=
      lastOf (LineResult.movedTo? shape.name) results shape.position
    color :=
      lastOf (LineResult.recoloredTo? shape.name) results shape.color
    extent :=
      shape.kind.extent
        (lastOf (LineResult.resizedTo? shape.name) results
          shape.extent.sizes) }

@[simp] theorem name_rewritten (results : List LineResult) (shape : Shape) :
    (rewritten results shape).name = shape.name :=
  rfl

/-- What some lines leave of a shape that there was before them. -/
def leftBy (results : List LineResult) (shape : Shape) : Option Shape :=
  if results.any (LineResult.ends shape.name) then
    none
  else
    some (rewritten results shape)

theorem leftBy_nil : leftBy [] = some := by
  funext shape
  simp [leftBy, rewritten, lastOf, Shape.kind]

/-- Lines leave what the rest of them leaves of what the first one leaves. -/
theorem leftBy_cons (first : LineResult) (rest : List LineResult) :
    leftBy (first :: rest) =
      fun shape => (first.leaves shape).bind (leftBy rest) := by
  funext shape
  unfold leftBy LineResult.leaves
  rw [List.any_cons]
  cases ended : first.ends shape.name with
  | true =>
      rfl
  | false =>
      simp [rewritten, lastOf_cons, Shape.kind]

/--
The shape that the line at a position made, as the lines behind it left it.
-/
def survivorAt? (results : List LineResult) (position : Nat) : Option Shape :=
  results[position]?.bind fun result =>
    result.made?.bind (leftBy (results.drop (position + 1)))

/--
The shapes that lines made and left, in the order in which they were made.
-/
def survivors (results : List LineResult) : List Shape :=
  (List.range results.length).filterMap (survivorAt? results)

/-- A further first line adds the shape that it made, if the others left it. -/
theorem survivors_cons (first : LineResult) (rest : List LineResult) :
    survivors (first :: rest) =
      (first.made?.bind (leftBy rest)).toList ++ survivors rest := by
  unfold survivors
  rw [List.length_cons, List.range_succ_eq_map, List.filterMap_cons,
    List.filterMap_map]
  have shifted :
      survivorAt? (first :: rest) ∘ Nat.succ = survivorAt? rest := by
    funext position
    simp [survivorAt?]
  rw [shifted]
  cases head : survivorAt? (first :: rest) 0 <;>
    simp_all [survivorAt?]

/--
A run leaves what its lines leave of the shapes before it and the ones they
made.
-/
theorem shapes_runLines
    {clock : Clock}
    {album : Album}
    (reached : Reached clock album)
    (number : Nat)
    (texts : List String) :
    let ran := runLines clock album number texts
    ran.after.scene.shapes =
      album.scene.shapes.filterMap (leftBy ran.answer) ++
        survivors ran.answer := by
  induction texts generalizing album number with
  | nil =>
      simp [runLines, leftBy_nil, survivors]
  | cons text rest inductionHypothesis =>
      have firstStep :=
        shapes_executeLine clock reached.valid_scene ⟨number, text⟩
      have reachedNext := reached.line ⟨number, text⟩
      simp only [runLines]
      rw [inductionHypothesis reachedNext (number + 1), firstStep, leftBy_cons,
        survivors_cons, List.filterMap_append, List.filterMap_filterMap,
        List.append_assoc]
      congr 2
      unfold resultOf
      cases LineResult.made? _ with
      | none =>
          rfl
      | some made =>
          simp only [Option.toList_some, List.filterMap_cons,
            List.filterMap_nil, Option.bind_some]
          cases leftBy _ made <;> rfl

section Survivors

variable
  {results : List LineResult}

/--
A shape survives if the line at a position made it and no later line ended it.
-/
theorem survivorAt?_eq_some_iff
    {position : Nat}
    {shape : Shape} :
    survivorAt? results position = some shape ↔
      ∃ result made,
        results[position]? = some result ∧ result.made? = some made ∧
          (∀ later ∈ results.drop (position + 1),
            later.ends made.name = false) ∧
          shape = rewritten (results.drop (position + 1)) made := by
  unfold survivorAt? leftBy
  simp only [Option.bind_eq_some_iff, Option.ite_none_left_eq_some,
    List.any_eq_true, not_exists, not_and, Bool.not_eq_true,
    Option.some.injEq]
  constructor
  · rintro ⟨result, atPosition, made, isMade, notEnded, rfl⟩
    exact ⟨result, made, atPosition, isMade, notEnded, rfl⟩
  · rintro ⟨result, made, atPosition, isMade, notEnded, rfl⟩
    exact ⟨result, atPosition, made, isMade, notEnded, rfl⟩

/-- A line at a position makes a shape of a name and no later line does. -/
def MakesLast
    (results : List LineResult)
    (name : String)
    (position : Nat) :
    Prop :=
  (∃ result, results[position]? = some result ∧ result.makes name = true) ∧
    ∀ later ∈ results.drop (position + 1), later.makes name = false

/-- A name is made by some line and no later line ends it. -/
def Lives (results : List LineResult) (name : String) : Prop :=
  ∃ position,
    (∃ result, results[position]? = some result ∧ result.makes name = true) ∧
      ∀ later ∈ results.drop (position + 1), later.ends name = false

/--
A shape has the kind that the line at a position asks for, and its other
attributes are what the last lines behind it wrote, or else what this line did.
-/
def WrittenFrom
    (results : List LineResult)
    (position : Nat)
    (shape : Shape) :
    Prop :=
  let later := results.drop (position + 1)
  ∃ kind place first second red green blue,
    results[position]?.bind LineResult.applied? =
        some (.shape shape.name kind place first second red green blue) ∧
      shape.kind = kind ∧
      shape.position = lastOf (LineResult.movedTo? shape.name) later place ∧
      shape.extent.sizes =
        lastOf (LineResult.resizedTo? shape.name) later (first, second) ∧
      shape.color =
        lastOf (LineResult.recoloredTo? shape.name) later ⟨red, green, blue⟩

theorem mem_drop_of_getElem?
    {first second : Nat}
    {result : LineResult}
    (later : first < second)
    (atSecond : results[second]? = some result) :
    result ∈ results.drop (first + 1) := by
  refine List.mem_iff_getElem?.mpr ⟨second - (first + 1), ?_⟩
  rw [List.getElem?_drop, Nat.add_sub_of_le later]
  exact atSecond

/-- Only one line is the last one to make a name. -/
theorem MakesLast.unique
    {name : String}
    {first second : Nat}
    (firstLast : MakesLast results name first)
    (secondLast : MakesLast results name second) :
    first = second := by
  obtain ⟨⟨firstResult, atFirst, firstMakes⟩, noneAfterFirst⟩ := firstLast
  obtain ⟨⟨secondResult, atSecond, secondMakes⟩, noneAfterSecond⟩ := secondLast
  rcases Nat.lt_trichotomy first second with before | same | after
  · have notMade := noneAfterFirst _ (mem_drop_of_getElem? before atSecond)
    exact absurd (notMade.symm.trans secondMakes) Bool.false_ne_true
  · exact same
  · have notMade := noneAfterSecond _ (mem_drop_of_getElem? after atFirst)
    exact absurd (notMade.symm.trans firstMakes) Bool.false_ne_true

/-- Surviving shapes that different lines made have different names. -/
theorem name_ne_of_lt
    (nodup : ((survivors results).map (·.name)).Nodup)
    {firstPosition secondPosition : Nat}
    {first second : Shape}
    (before : firstPosition < secondPosition)
    (firstSurvives : survivorAt? results firstPosition = some first)
    (secondSurvives : survivorAt? results secondPosition = some second) :
    first.name ≠ second.name := by
  obtain ⟨result, made, atSecond, -⟩ :=
    survivorAt?_eq_some_iff.mp secondSurvives
  obtain ⟨inBounds, -⟩ := List.getElem?_eq_some_iff.mp atSecond
  rw [List.Nodup, List.pairwise_map, survivors, List.pairwise_filterMap,
    List.pairwise_iff_getElem] at nodup
  simp only [List.length_range, List.getElem_range] at nodup
  exact nodup firstPosition secondPosition (before.trans inBounds) inBounds
    before first firstSurvives second secondSurvives

/--
A line that makes a name which no later line ends makes a surviving shape of it.
-/
theorem exists_survivorAt?
    {name : String}
    {position : Nat}
    {result : LineResult}
    (atPosition : results[position]? = some result)
    (makesName : result.makes name = true)
    (notEnded :
      ∀ later ∈ results.drop (position + 1), later.ends name = false) :
    ∃ shape, survivorAt? results position = some shape ∧ shape.name = name := by
  unfold LineResult.makes at makesName
  cases isMade : result.made? with
  | none =>
      rw [isMade] at makesName
      cases makesName
  | some made =>
      obtain rfl : made.name = name := by simpa [isMade] using makesName
      exact ⟨rewritten (results.drop (position + 1)) made,
        survivorAt?_eq_some_iff.mpr
          ⟨result, made, atPosition, isMade, notEnded, rfl⟩,
        rfl⟩

/--
A shape that survives was made by the last line that makes its name, since a
later one would make a second surviving shape of the name.
-/
theorem makesLast_of_survivorAt?
    (nodup : ((survivors results).map (·.name)).Nodup)
    {position : Nat}
    {shape : Shape}
    (survives : survivorAt? results position = some shape) :
    MakesLast results shape.name position := by
  obtain ⟨result, made, atPosition, isMade, notEnded, rfl⟩ :=
    survivorAt?_eq_some_iff.mp survives
  refine ⟨⟨result, atPosition, ?_⟩, fun later member => ?_⟩
  · simp [LineResult.makes, isMade]
  · by_contra makesAgain
    rw [Bool.not_eq_false, name_rewritten] at makesAgain
    obtain ⟨offset, atOffset⟩ := List.mem_iff_getElem?.mp member
    rw [List.getElem?_drop] at atOffset
    obtain ⟨other, otherSurvives, sameName⟩ :=
      exists_survivorAt? atOffset makesAgain fun last behind =>
        notEnded last (List.drop_subset_drop_left results (by omega) behind)
    exact name_ne_of_lt nodup (by omega) survives otherSurvives sameName.symm

/--
A shape that survives has its attributes from the lines that wrote them last.
-/
theorem writtenFrom_of_survivorAt?
    {position : Nat}
    {shape : Shape}
    (survives : survivorAt? results position = some shape) :
    WrittenFrom results position shape := by
  obtain ⟨result, made, atPosition, isMade, notEnded, rfl⟩ :=
    survivorAt?_eq_some_iff.mp survives
  obtain ⟨command, applied, makesShape⟩ := Option.bind_eq_some_iff.mp isMade
  cases command with
  | shape name kind place first second red green blue =>
      cases makesShape
      refine ⟨kind, place, first, second, red, green, blue, ?_, ?_,
        rfl, ?_, rfl⟩
      · rw [atPosition]
        exact applied
      · simp [rewritten, Shape.kind]
      · simp [rewritten]
  | move | color | resize | remove | snapshot | clear =>
      cases makesShape

/-- The names of surviving shapes are those that live. -/
theorem exists_mem_survivors_iff (name : String) :
    (∃ shape ∈ survivors results, shape.name = name) ↔ Lives results name := by
  constructor
  · rintro ⟨shape, listed, rfl⟩
    obtain ⟨position, -, survives⟩ := List.mem_filterMap.mp listed
    obtain ⟨result, made, atPosition, isMade, notEnded, rfl⟩ :=
      survivorAt?_eq_some_iff.mp survives
    exact ⟨position, ⟨result, atPosition, by simp [LineResult.makes, isMade]⟩,
      notEnded⟩
  · rintro ⟨position, ⟨result, atPosition, makesName⟩, notEnded⟩
    obtain ⟨shape, survives, isNamed⟩ :=
      exists_survivorAt? atPosition makesName notEnded
    obtain ⟨inBounds, -⟩ := List.getElem?_eq_some_iff.mp atPosition
    have listed : shape ∈ survivors results :=
      List.mem_filterMap.mpr
        ⟨position, List.mem_range.mpr inBounds, survives⟩
    exact ⟨shape, listed, isNamed⟩

/-- A surviving shape is written from the one line that makes its name last. -/
theorem writtenFrom_of_mem_survivors
    (nodup : ((survivors results).map (·.name)).Nodup)
    {shape : Shape}
    (listed : shape ∈ survivors results) :
    ∃ position,
      (∀ other, MakesLast results shape.name other ↔ other = position) ∧
        WrittenFrom results position shape := by
  obtain ⟨position, -, survives⟩ := List.mem_filterMap.mp listed
  have last := makesLast_of_survivorAt? nodup survives
  refine ⟨position, fun other => ?_, writtenFrom_of_survivorAt? survives⟩
  constructor
  · intro otherLast
    exact otherLast.unique last
  · rintro rfl
    exact last

/--
Surviving shapes stand in the order of the lines that make their names last.
-/
theorem pairwise_survivors
    (nodup : ((survivors results).map (·.name)).Nodup) :
    (survivors results).Pairwise fun first second =>
      ∀ firstPosition secondPosition,
        MakesLast results first.name firstPosition →
        MakesLast results second.name secondPosition →
        firstPosition < secondPosition := by
  rw [survivors, List.pairwise_filterMap]
  apply List.pairwise_lt_range.imp
  intro firstOwn secondOwn before first firstSurvives second secondSurvives
    firstPosition secondPosition firstLast secondLast
  have firstSame :=
    firstLast.unique (makesLast_of_survivorAt? nodup firstSurvives)
  have secondSame :=
    secondLast.unique (makesLast_of_survivorAt? nodup secondSurvives)
  omega

end Survivors

/--
After lines have run on a fresh album, its scene lists the surviving shapes.
-/
theorem shapes_runLines_empty
    (clock : Clock)
    (texts : List String) :
    let ran := runLines clock .empty 1 texts
    ran.after.scene.shapes = survivors ran.answer := by
  have reached : Reached clock .empty := .fresh
  simpa [Album.empty, Scene.empty] using shapes_runLines reached 1 texts

/--
After a source has run on a fresh album, a name is listed exactly if some line
made it and no later line ended it.  Its shape is written from the last line
that made the name, and the shapes are listed in the order of these lines.
-/
theorem scene_run_empty (clock : Clock) (source : String) :
    let results := (trace clock .empty source).answer
    let scene := (run clock .empty source).after.scene
    results.map (·.line.text) = Text.lines source ∧
      (∀ name, name ∈ scene.listedNames ↔ Lives results name) ∧
      (∀ shape ∈ scene.shapes, ∃ position,
        (∀ other, MakesLast results shape.name other ↔ other = position) ∧
          WrittenFrom results position shape) ∧
      scene.shapes.Pairwise fun first second =>
        ∀ firstPosition secondPosition,
          MakesLast results first.name firstPosition →
          MakesLast results second.name secondPosition →
          firstPosition < secondPosition := by
  intro results scene
  have texts : results.map (·.line.text) = Text.lines source :=
    map_text_runLines clock .empty 1 (Text.lines source)
  have shapesAfter : scene.shapes = survivors results :=
    shapes_runLines_empty clock (Text.lines source)
  have valid : scene.Valid := (Reached.fresh.run source).valid_scene
  clear_value results scene
  have nodup : ((survivors results).map (·.name)).Nodup := by
    rw [← shapesAfter]
    exact valid.names_nodup
  refine ⟨texts, fun name => ?_, fun shape listed => ?_, ?_⟩
  · rw [Scene.listedNames, List.mem_map, shapesAfter]
    exact exists_mem_survivors_iff name
  · rw [shapesAfter] at listed
    exact writtenFrom_of_mem_survivors nodup listed
  · rw [shapesAfter]
    exact pairwise_survivors nodup

/-- A name that is made again goes to the end of the list, as another kind. -/
example :
    let clock : Clock := fun _ => ⟨2024, 2, 29, 12, 0, 0, 0⟩
    let source :=
      "shape A oval 1 2 3 4 5 6 7\nshape B oval 1 1 1 1 1 1 1\n" ++
        "remove A\nshape A rectangle 2 2 2 2 2 2 2\nmove A 8 8"
    (run clock .empty source).after.scene.shapes =
      [⟨"B", ⟨1, 1⟩, ⟨1, 1, 1⟩, .oval 1 1⟩,
        ⟨"A", ⟨8, 8⟩, ⟨2, 2, 2⟩, .rectangle 2 2⟩] := by
  decide +kernel

end Storyboard.Script
