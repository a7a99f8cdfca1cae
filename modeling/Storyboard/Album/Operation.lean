import Storyboard.Album.Basic

namespace Storyboard

/-!
# Operations on an album

An operation is one call of an album's interface as a value.  Operations can be
listed, interleaved and repeated, and each is carried out by `Album.perform`.
-/

/-- A call of an album's interface. -/
inductive Operation where
  | create (kind : Kind) (name : String) (position : Point)
      (first second : Float)
      (red green blue : Float)
  | move (name : String) (position : Point)
  | recolor (name : String) (red green blue : Float)
  | resize (name : String) (first second : Float)
  | resizeAs (kind : Kind) (name : String) (first second : Float)
  | remove (name : String)
  | clearShapes
  | look (name : String)
  | require (name : String)
  | describe (name : String)
  | snapshot (description : String)
  | snapshotOf (description : String) (names : List String)
  | issueIds (count : Nat)
  | append (snapshot : Snapshot)
  | clearSnapshots
deriving Repr, DecidableEq

/-- What an operation answers. -/
inductive Answer where
  | done
  | refused (refusal : Refusal)
  | found (isFound : Bool)
  | shape (shape : Option Shape)
  | description (text : Option String)
  | captured (id : SnapshotId)
  | issued (last : Option Archive.Issued)
deriving Repr, DecidableEq

namespace Answer

/-- The answer of an operation that may be refused. -/
def ofResult (encode : α → Answer) : Except Refusal α → Answer
  | .ok value => encode value
  | .error refusal => .refused refusal

end Answer

namespace Album

/-- Carry a change of the scene over to the album. -/
def inScene (album : Album) (change : Change Scene α) (answer : α → Answer) :
    Change Album Answer :=
  ⟨answer change.answer, { album with scene := change.after }⟩

/-- Carry a change of the archive over to the album. -/
def inArchive
    (album : Album)
    (change : Change Archive α)
    (answer : α → Answer) : Change Album Answer :=
  ⟨answer change.answer, { album with archive := change.after }⟩

/--
Issue a number of ids and answer the last one, or the given one if there is
none.
-/
def issueIds (clock : Clock) :
    Nat → Option Archive.Issued → Archive →
      Change Archive (Option Archive.Issued)
  | 0, last, archive => ⟨last, archive⟩
  | count + 1, _, archive =>
      let issued := archive.issue clock
      issueIds clock count (some issued.answer) issued.after

/-- Carry out an operation. -/
def perform (clock : Clock) (album : Album) : Operation → Change Album Answer
  | .create kind name position first second red green blue =>
      match Color.ofChannels red green blue with
      | .error refusal => ⟨.refused refusal, album⟩
      | .ok color =>
          inScene album
            (album.scene.create kind name position first second color)
            (Answer.ofResult fun shape => .shape (some shape))
  | .move name position =>
      inScene album (album.scene.move name position) (Answer.ofResult .found)
  | .recolor name red green blue =>
      inScene album (album.scene.recolor name red green blue)
        (Answer.ofResult .found)
  | .resize name first second =>
      inScene album (album.scene.resize name first second)
        (Answer.ofResult .found)
  | .resizeAs kind name first second =>
      inScene album (album.scene.resizeAs kind name first second)
        (Answer.ofResult .found)
  | .remove name => inScene album (album.scene.remove name) .found
  | .clearShapes => ⟨.done, { album with scene := .empty }⟩
  | .look name => ⟨.shape (album.scene.get? name), album⟩
  | .require name =>
      ⟨Answer.ofResult (fun shape => .shape (some shape))
        (album.scene.require name), album⟩
  | .describe name =>
      ⟨.description ((album.scene.get? name).map Shape.describe), album⟩
  | .snapshot description =>
      let taken := album.snapshot clock description
      ⟨.captured taken.answer, taken.after⟩
  | .snapshotOf description names =>
      let taken := album.snapshotOf clock description names
      ⟨.captured taken.answer, taken.after⟩
  | .issueIds count =>
      inArchive album (issueIds clock count none album.archive) .issued
  | .append snapshot =>
      inArchive album (album.archive.append snapshot)
        (Answer.ofResult fun _ => .done)
  | .clearSnapshots => ⟨.done, { album with archive := album.archive.clear }⟩

/-- Carry out operations one after the other. -/
def performAll
    (clock : Clock)
    (album : Album) :
    List Operation → Change Album (List Answer)
  | [] => ⟨[], album⟩
  | operation :: rest =>
      let first := album.perform clock operation
      let later := performAll clock first.after rest
      ⟨first.answer :: later.answer, later.after⟩

end Album

end Storyboard
