import Storyboard.Proofs.Album.Atomicity
import Storyboard.Proofs.Script.Effect

namespace Storyboard.Script

/-!
# Commands and lines, all or nothing

A command that is refused or finds no shape leaves the album as it was, and so
does a line that fails, asks for nothing or names no shape.  The main statement
says this of every level, from a color up to a line of a script.
-/

/-- A command was applied, or it took a snapshot. -/
def CarriedOut (answer : Except Cause Outcome) : Prop :=
  answer = .ok .applied ∨
    ∃ id description, answer = .ok (.captured id description)

/-- A change of the scene that does all or nothing does so to the album. -/
theorem allOrNothing_inScene
    {album : Album}
    {change : Change Scene (Except Refusal α)}
    {outcome : α → Outcome}
    {done : Except Refusal α → Prop}
    (atomic : change.AllOrNothing album.scene done)
    (reported :
      done change.answer →
        (inScene album change outcome).answer = .ok .applied) :
    (inScene album change outcome).AllOrNothing album CarriedOut := by
  intro notCarriedOut
  have notDone : ¬done change.answer := fun isDone =>
    notCarriedOut (.inl (reported isDone))
  have sameScene : change.after = album.scene := atomic notDone
  rw [inScene, sameScene]

/-- A command is carried out or leaves the album as it was. -/
theorem allOrNothing_execute
    (clock : Clock)
    (album : Album)
    (command : Command) :
    (execute clock album command).AllOrNothing album CarriedOut := by
  have ofChange
      (name : String)
      {change : Shape → Change Shape (Except Refusal Unit)}
      (atomic : ∀ shape, (change shape).AllOrNothing shape (· = .ok ())) :
      (inScene album (album.scene.change name change)
        (Outcome.ofFound command)).AllOrNothing album CarriedOut :=
    allOrNothing_inScene (album.scene.allOrNothing_change name atomic)
      (answer_inScene_ofFound_iff album command _).mpr
  cases command with
  | shape name kind position first second red green blue =>
      simp only [execute]
      cases Color.ofChannels red green blue with
      | error refusal =>
          intro _
          rfl
      | ok color =>
          refine allOrNothing_inScene
            (album.scene.allOrNothing_create kind name position
              first second color)
            ?_
          rintro ⟨shape, created⟩
          rw [inScene, created]
          rfl
  | move name position =>
      exact ofChange name fun shape notDone => absurd rfl notDone
  | color name red green blue =>
      exact ofChange name fun shape => shape.allOrNothing_recolor red green blue
  | resize name first second =>
      exact ofChange name fun shape => shape.allOrNothing_resize first second
  | remove name =>
      intro notCarriedOut
      have notFound : (album.scene.remove name).answer ≠ true := by
        intro found
        apply notCarriedOut
        simp [execute, CarriedOut, found, Outcome.ofFound]
      have sameScene := album.scene.allOrNothing_remove name notFound
      rw [execute, sameScene]
  | snapshot description =>
      intro notCarriedOut
      exact absurd (.inr ⟨_, _, rfl⟩) notCarriedOut
  | clear target =>
      intro notCarriedOut
      cases target <;> exact absurd (.inl rfl) notCarriedOut

/-- A line is carried out or leaves the album as it was. -/
theorem allOrNothing_executeLine
    (clock : Clock)
    (album : Album)
    (line : SourceLine) :
    (executeLine clock album line).AllOrNothing album CarriedOut := by
  unfold executeLine
  cases line.read with
  | error fault =>
      intro _
      rfl
  | ok asked =>
      cases asked with
      | none =>
          intro _
          rfl
      | some command =>
          intro notCarriedOut
          apply allOrNothing_execute clock album command
          intro carriedOut
          apply notCarriedOut
          obtain applied | ⟨id, description, captured⟩ := carriedOut
          · exact .inl (by simp [applied, Except.mapError])
          · exact .inr ⟨id, description, by simp [captured, Except.mapError]⟩

/--
Whatever does not answer with a success leaves its state exactly as it was: a
color that is set, a shape that is recolored or resized, a scene in which a
shape is created, changed or removed, an archive that is appended to, and an
album on which a command or a line of a script is carried out.
-/
theorem unchanged_unless_done (clock : Clock) :
    (∀ (color : Color) red green blue,
      (color.set red green blue).AllOrNothing color (· = .ok ())) ∧
      (∀ shape : Shape,
        (∀ red green blue,
          (shape.recolor red green blue).AllOrNothing shape (· = .ok ())) ∧
        (∀ first second,
          (shape.resize first second).AllOrNothing shape (· = .ok ())) ∧
        ∀ kind first second,
          (shape.resizeAs kind first second).AllOrNothing shape (· = .ok ())) ∧
      (∀ (scene : Scene) (name : String),
        (∀ kind position first second color,
          (scene.create kind name position first second color).AllOrNothing
            scene
            fun answer => ∃ shape, answer = .ok shape) ∧
        (∀ position,
          (scene.move name position).AllOrNothing scene (· = .ok true)) ∧
        (∀ red green blue,
          (scene.recolor name red green blue).AllOrNothing scene
            (· = .ok true)) ∧
        (∀ first second,
          (scene.resize name first second).AllOrNothing scene (· = .ok true)) ∧
        (∀ kind first second,
          (scene.resizeAs kind name first second).AllOrNothing scene
            (· = .ok true)) ∧
        (scene.remove name).AllOrNothing scene (· = true)) ∧
      (∀ (archive : Archive) (snapshot : Snapshot),
        (archive.append snapshot).AllOrNothing archive (· = .ok ())) ∧
      ∀ album : Album,
        (∀ command,
          (execute clock album command).AllOrNothing album CarriedOut) ∧
        ∀ line,
          (executeLine clock album line).AllOrNothing album CarriedOut := by
  refine ⟨Color.allOrNothing_set,
    fun shape => ?shapes, fun scene name => ?scenes,
    Archive.allOrNothing_append, fun album => ?albums⟩
  case shapes =>
    exact ⟨shape.allOrNothing_recolor, shape.allOrNothing_resize,
      shape.allOrNothing_resizeAs⟩
  case scenes =>
    refine ⟨fun kind => scene.allOrNothing_create kind name,
      fun position => ?_, fun red green blue => ?_, fun first second => ?_,
      fun kind first second => ?_, scene.allOrNothing_remove name⟩
    · exact scene.allOrNothing_change name fun shape notDone =>
        absurd rfl notDone
    · exact scene.allOrNothing_change name fun shape =>
        shape.allOrNothing_recolor red green blue
    · exact scene.allOrNothing_change name fun shape =>
        shape.allOrNothing_resize first second
    · exact scene.allOrNothing_change name fun shape =>
        shape.allOrNothing_resizeAs kind first second
  case albums =>
    exact ⟨allOrNothing_execute clock album,
      allOrNothing_executeLine clock album⟩

/--
Refusals by the last check, at every level, on an album with one recorded oval.
-/
theorem unchanged_by_last_checks :
    let clock : Clock := fun _ => ⟨2024, 2, 29, 12, 0, 0, 0⟩
    let source := "shape Dot oval 1 2 3 4 5 6 7\nsnapshot first"
    let album := (run clock .empty source).after
    let gray : Color := ⟨9, 9, 9⟩
    let taken : SnapshotId := .issuedAt 1 (clock 0)
    let line : SourceLine := ⟨3, "resize Dot 1 0"⟩
    ((gray.set 1 2 256).answer = .error (.channelOutOfRange .blue 256) ∧
        (gray.set 1 2 256).after = gray) ∧
      ((album.scene.create .oval "Dot" ⟨0, 0⟩ 1 1 gray).answer =
          .error (.nameTaken "Dot") ∧
        (album.scene.create .oval "Dot" ⟨0, 0⟩ 1 1 gray).after = album.scene) ∧
      ((album.archive.append ⟨taken, "", "", []⟩).answer =
          .error (.idTaken taken.text) ∧
        (album.archive.append ⟨taken, "", "", []⟩).after = album.archive) ∧
      (executeLine clock album line).answer =
          .error ⟨line, .refused (.sizeNotPositive "Y radius" 0)⟩ ∧
        (executeLine clock album line).after = album := by
  intro clock source album gray taken line
  obtain ⟨colors, -, scenes, archives, albums⟩ := unchanged_unless_done clock
  have colorRefused :
      (gray.set 1 2 256).answer = .error (.channelOutOfRange .blue 256) := by
    decide +kernel
  have nameRefused :
      (album.scene.create .oval "Dot" ⟨0, 0⟩ 1 1 gray).answer =
        .error (.nameTaken "Dot") := by
    decide +kernel
  have idRefused :
      (album.archive.append ⟨taken, "", "", []⟩).answer =
        .error (.idTaken taken.text) := by
    decide +kernel
  have sizeRefused :
      (executeLine clock album line).answer =
        .error ⟨line, .refused (.sizeNotPositive "Y radius" 0)⟩ := by
    decide +kernel
  refine ⟨⟨colorRefused, colors gray 1 2 256 ?_⟩,
    ⟨nameRefused, (scenes album.scene "Dot").1 .oval ⟨0, 0⟩ 1 1 gray ?_⟩,
    ⟨idRefused, archives album.archive _ ?_⟩,
    sizeRefused, (albums album).2 line ?_⟩
  · rw [colorRefused]
    nofun
  · rw [nameRefused]
    nofun
  · rw [idRefused]
    nofun
  · rw [sizeRefused]
    nofun

end Storyboard.Script
