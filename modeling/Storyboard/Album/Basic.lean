import Storyboard.Scene
import Storyboard.Snapshot.Archive

namespace Storyboard

/-!
# Albums

An album is a live scene together with the archive of its snapshots.  A snapshot
copies what it shows, so later changes of the scene do not reach it.
-/

/-- A scene and the archive of its snapshots. -/
structure Album where
  scene : Scene := {}
  archive : Archive := {}

namespace Album

/-- An album without shapes and snapshots. -/
def empty : Album := {}

/-- Record all shapes of the scene. -/
def snapshot (clock : Clock) (album : Album) (description : String) :
    Change Album SnapshotId :=
  let captured := album.archive.capture clock description album.scene.shapes
  ⟨captured.answer, { album with archive := captured.after }⟩

/--
Record some shapes of the scene, in the order of the given names; missing ones
are skipped.
-/
def snapshotOf
    (clock : Clock)
    (album : Album)
    (description : String)
    (names : List String) :
    Change Album SnapshotId :=
  let shapes := names.filterMap album.scene.get?
  let captured := album.archive.capture clock description shapes
  ⟨captured.answer, { album with archive := captured.after }⟩

end Album

end Storyboard
